import LivePanel.Proofs.Expr.Splicing
import LivePanel.Proofs.Text.FirstSeen
import LivePanel.Proofs.Value.Ordered

/-!
# What interpolation leaves over

Interpolation comes upon the tokens of a value one after the other: in arrays by position, in
objects by key, in a text from left to right. Each token has a fate: a value is put in its place,
or it is left as it is written. `Becomes` tells what a value becomes with the fates of its tokens,
whatever these are.

`notes_are_leftovers`: a value is put in the place of a token exactly if its body is a well-formed
path that resolves, and the notes list, in the order in which they are first come upon, the bodies
of the tokens that are left: those that are well-formed paths as missing, the others as invalid.
-/

namespace LivePanel.Expr

open Text

/-- A token that interpolation came upon: its body, and the value that was put in its place; none
for a token that was left as it is written. -/
structure Fate where
  body : String
  value : Option Value

/-- The characters that the tokens and the tail behind them become, with the fates of the tokens. -/
inductive Puts (tail : List Char) : List Token → List Char → List Fate → Prop where
  | last : Puts tail [] tail []
  | value {before run out : List Char} {toks : List Token} {fates : List Fate} {body text : String}
      {v : Value} (hbody : Trims run body.toList) (htext : Displays v text)
      (hrest : Puts tail toks out fates) :
      Puts tail (⟨before, run⟩ :: toks) (before ++ text.toList ++ out) (⟨body, some v⟩ :: fates)
  | verbatim {before run out : List Char} {toks : List Token} {fates : List Fate} {body : String}
      (hbody : Trims run body.toList) (hrest : Puts tail toks out fates) :
      Puts tail (⟨before, run⟩ :: toks) (before ++ braced run ++ out) (⟨body, none⟩ :: fates)

/-- What a text becomes, with the fates of its tokens: a value as it is where a token that is all
of the text gives way to it, or else a text. -/
inductive Gives (s : String) : Value → List Fate → Prop where
  | lone {run : List Char} {body : String} {v : Value} (hs : s.toList = braced run)
      (hrun : Plain run) (hbody : Trims run body.toList) : Gives s v [⟨body, some v⟩]
  | text {toks : List Token} {tail out : List Char} {fates : List Fate}
      (hcut : Cut s.toList toks tail) (hout : Puts tail toks out fates) :
      Gives s (.str (String.ofList out)) fates

mutual

/-- What a value becomes, with the fates of the tokens in its texts: those of an array by position,
those of an object by key. -/
inductive Becomes : Value → Value → List Fate → Prop where
  | null : Becomes .null .null []
  | bool (b : Bool) : Becomes (.bool b) (.bool b) []
  | num (n : Number) : Becomes (.num n) (.num n) []
  | str {s : String} {w : Value} {fates : List Fate} (h : Gives s w fates) :
      Becomes (.str s) w fates
  | arr {items items' : List Value} {fates : List Fate} (h : ItemsBecome items items' fates) :
      Becomes (.arr items) (.arr items') fates
  | obj {fields fields' : Table Value} {fates : List Fate} (hkeys : fields.Ordered)
      (h : FieldsBecome fields fields' fates) : Becomes (.obj fields) (.obj fields') fates

/-- What values become, one after the other. -/
inductive ItemsBecome : List Value → List Value → List Fate → Prop where
  | nil : ItemsBecome [] [] []
  | cons {v w : Value} {items items' : List Value} {first others : List Fate}
      (h : Becomes v w first) (hrest : ItemsBecome items items' others) :
      ItemsBecome (v :: items) (w :: items') (first ++ others)

/-- What the values under keys become, one after the other. -/
inductive FieldsBecome : Table Value → Table Value → List Fate → Prop where
  | nil : FieldsBecome [] [] []
  | cons {k : String} {v w : Value} {fields fields' : Table Value} {first others : List Fate}
      (h : Becomes v w first) (hrest : FieldsBecome fields fields' others) :
      FieldsBecome ((k, v) :: fields) ((k, w) :: fields') (first ++ others)

end

/-- A value is put in the place of the token exactly if its body is a path that leads to it. -/
def Fate.IsDue (scope : Scope) (f : Fate) : Prop :=
  ∀ v, f.value = some v ↔ IsPath f.body.toList ∧ scope.resolve? f.body = some v

/-! ### Notes of several tokens -/

namespace Notes

theorem missing_append (a b : Notes) :
    (a ++ b).missing = b.missing.foldl Template.addSeen a.missing := rfl

theorem invalid_append (a b : Notes) :
    (a ++ b).invalid = b.invalid.foldl Template.addSeen a.invalid := rfl

theorem append_assoc (a b c : Notes) : a ++ b ++ c = a ++ (b ++ c) := by
  have hmissing := foldl_addSeen_foldl a.missing b.missing c.missing
  have hinvalid := foldl_addSeen_foldl a.invalid b.invalid c.invalid
  exact (congrArg₂ Notes.mk hmissing hinvalid).symm

end Notes

/-- The notes of tokens with these bodies, one after the other. -/
def notesOfAll (scope : Scope) (bodies : List String) : Notes :=
  bodies.foldl (fun notes body => notes ++ notesOf scope body.toList) {}

variable {scope : Scope}

theorem notesOfAll_concat (bodies : List String) (body : String) :
    notesOfAll scope (bodies ++ [body]) =
      notesOfAll scope bodies ++ notesOf scope body.toList := by
  rw [notesOfAll, List.foldl_append]
  rfl

theorem notesOfAll_append (as bs : List String) :
    notesOfAll scope (as ++ bs) = notesOfAll scope as ++ notesOfAll scope bs := by
  induction bs using List.reverseRecOn with
  | nil => rw [List.append_nil]; rfl
  | append_singleton bs b ih =>
    rw [← List.append_assoc, notesOfAll_concat, ih, notesOfAll_concat, Notes.append_assoc]

/-- What is noted of a token. -/
theorem outcome_cases (scope : Scope) (body : String) :
    (∃ v, (IsPath body.toList ∧ scope.resolve? body = some v) ∧ notesOf scope body.toList = {}) ∨
    ((IsPath body.toList ∧ scope.resolve? body = none) ∧
      notesOf scope body.toList = { missing := [body] }) ∨
    (¬ IsPath body.toList ∧ notesOf scope body.toList = { invalid := [body] }) := by
  rw [← isPath_iff, notesOf, Scope.outcome, String.ofList_toList]
  cases hpath : isPath body.toList with
  | false => exact .inr (.inr ⟨Bool.false_ne_true, rfl⟩)
  | true =>
    cases hv : scope.resolve? body with
    | some v => exact .inl ⟨v, ⟨rfl, rfl⟩, rfl⟩
    | none => exact .inr (.inl ⟨⟨rfl, rfl⟩, rfl⟩)

theorem empty_append_notesOf (scope : Scope) (body : String) :
    ({} : Notes) ++ notesOf scope body.toList = notesOf scope body.toList := by
  rcases outcome_cases scope body with ⟨-, -, hn⟩ | ⟨-, hn⟩ | ⟨-, hn⟩ <;> rw [hn] <;> rfl

/-- **The notes list what is first seen.** -/
theorem firstSeen_notesOfAll (scope : Scope) (bodies : List String) :
    FirstSeen (fun p => IsPath p.toList ∧ scope.resolve? p = none) bodies
        (notesOfAll scope bodies).missing ∧
      FirstSeen (fun p => ¬ IsPath p.toList) bodies (notesOfAll scope bodies).invalid := by
  induction bodies using List.reverseRecOn with
  | nil => exact ⟨.nil _, .nil _⟩
  | append_singleton bodies body ih =>
    obtain ⟨hmissing, hinvalid⟩ := ih
    rw [notesOfAll_concat, Notes.missing_append, Notes.invalid_append]
    rcases outcome_cases scope body with ⟨v, ⟨hpath, hv⟩, hn⟩ | ⟨⟨hpath, hnone⟩, hn⟩ | ⟨hpath, hn⟩
    · rw [hn]
      exact ⟨hmissing.skip (by simp [hv]), hinvalid.skip (not_not.2 hpath)⟩
    · rw [hn]
      exact ⟨hmissing.add ⟨hpath, hnone⟩, hinvalid.skip (not_not.2 hpath)⟩
    · rw [hn]
      exact ⟨hmissing.skip fun h => hpath h.1, hinvalid.add hpath⟩

/-! ### A token -/

theorem means_iff {run : List Char} {body : String} (hbody : Trims run body.toList) {v : Value} :
    Means scope run v ↔ IsPath body.toList ∧ scope.resolve? body = some v := by
  constructor
  · rintro ⟨path, htrims, hpath, hv⟩
    have heq : path = body :=
      String.toList_inj.1 ((trimChars_eq_iff.2 htrims).symm.trans (trimChars_eq_iff.2 hbody))
    exact heq ▸ ⟨hpath, hv⟩
  · rintro ⟨hpath, hv⟩
    exact ⟨body, hbody, hpath, hv⟩

theorem isDue_some {run : List Char} {body : String} (hbody : Trims run body.toList) {v : Value}
    (h : Means scope run v) : Fate.IsDue scope ⟨body, some v⟩ := by
  obtain ⟨hpath, hv⟩ := (means_iff hbody).1 h
  intro w
  simp [hpath, hv]

theorem isDue_none {run : List Char} {body : String} (hbody : Trims run body.toList)
    (h : ∀ v, ¬ Means scope run v) : Fate.IsDue scope ⟨body, none⟩ := fun v =>
  ⟨nofun, fun hv => absurd ((means_iff hbody).2 hv) (h v)⟩

/-! ### A text -/

/-- What has been done about the tokens of a value: each has the fate that it is due, and the notes
are those of their bodies. -/
structure Settled (scope : Scope) (fates : List Fate) (notes : Notes) : Prop where
  due : ∀ f ∈ fates, f.IsDue scope
  notes : notes = notesOfAll scope (fates.map Fate.body)

theorem Settled.nil (scope : Scope) : Settled scope [] {} := ⟨nofun, rfl⟩

theorem Settled.append {first others : List Fate} {a b : Notes} (h : Settled scope first a)
    (hrest : Settled scope others b) : Settled scope (first ++ others) (a ++ b) := by
  refine ⟨fun f hf => (List.mem_append.1 hf).elim (h.due f) (hrest.due f), ?_⟩
  rw [List.map_append, notesOfAll_append, ← h.notes, ← hrest.notes]

theorem settled_singleton {f : Fate} (h : f.IsDue scope) :
    Settled scope [f] (notesOf scope f.body.toList) :=
  ⟨List.forall_mem_singleton.2 h, (empty_append_notesOf scope f.body).symm⟩

/-- The notes of the pieces of a text, one after the other. -/
def notesOfPieces (scope : Scope) (ps : List Piece) : Notes :=
  ps.foldl (fun notes p => notes ++ p.notes scope) {}

theorem foldl_notes (ps : List Piece) (a : Notes) :
    ps.foldl (fun notes p => notes ++ p.notes scope) a = a ++ notesOfPieces scope ps := by
  induction ps using List.reverseRecOn with
  | nil => rfl
  | append_singleton ps p ih =>
    rw [notesOfPieces, List.foldl_append, List.foldl_append, ih]
    exact Notes.append_assoc ..

theorem notesOfPieces_chars (cs : List Char) (ps : List Piece) :
    notesOfPieces scope (cs.map .char ++ ps) = notesOfPieces scope ps := by
  induction cs with
  | nil => rfl
  | cons c cs ih => exact ih

theorem notesOfPieces_token {run raw : List Char} {body : String} (h : trimChars run = body.toList)
    (ps : List Piece) : notesOfPieces scope (.token raw (trimChars run) :: ps) =
      notesOf scope body.toList ++ notesOfPieces scope ps := by
  rw [notesOfPieces, List.foldl_cons, foldl_notes, Piece.notes, h, empty_append_notesOf]

/-- What the tokens of a text and its tail become. -/
theorem exists_puts (scope : Scope) (tail : List Char) (toks : List Token) : ∃ fates,
    Puts tail toks ((piecesOf tail toks).flatMap (Piece.text scope)) fates ∧
      Settled scope fates (notesOfPieces scope (piecesOf tail toks)) := by
  induction toks with
  | nil =>
    refine ⟨[], ?_, ?_⟩
    · rw [piecesOf, flatMap_text_char]
      exact .last
    · rw [piecesOf, ← List.append_nil (tail.map _), notesOfPieces_chars]
      exact .nil scope
  | cons tok toks ih =>
    obtain ⟨before, run⟩ := tok
    obtain ⟨fates, hputs, hsettled⟩ := ih
    obtain ⟨body, heq⟩ : ∃ body : String, trimChars run = body.toList :=
      ⟨.ofList (trimChars run), String.toList_ofList.symm⟩
    have hbody := trimChars_eq_iff.1 heq
    rw [piecesOf, List.flatMap_append, flatMap_text_char, List.flatMap_cons, ← List.append_assoc,
      notesOfPieces_chars, notesOfPieces_token heq]
    by_cases h : ∃ v, Means scope run v
    · obtain ⟨v, hmeans⟩ := h
      rw [text_of_means hmeans]
      exact ⟨⟨body, some v⟩ :: fates, .value hbody (displays_iff.2 rfl) hputs,
        (settled_singleton (isDue_some hbody hmeans)).append hsettled⟩
    · have hnone := not_exists.1 h
      rw [text_of_not_means hnone]
      exact ⟨⟨body, none⟩ :: fates, .verbatim hbody hputs,
        (settled_singleton (isDue_none hbody hnone)).append hsettled⟩

/-- The notes of a text are those of its pieces, also where it is a single token. -/
theorem interpolateText_notes (scope : Scope) (s : String) :
    (interpolateText scope s).notes = notesOfPieces scope (pieces s.toList) := by
  rw [interpolateText]
  split
  · rename_i raw body hpieces
    have hnotes : notesOfPieces scope [.token raw body] = notesOf scope body := by
      have h := empty_append_notesOf scope (String.ofList body)
      rwa [String.toList_ofList] at h
    rw [hpieces, hnotes]
    split
    · rename_i v hv
      rw [notesOf, hv]
    · rfl
  · rfl

/-- What becomes of a text. -/
theorem exists_gives (scope : Scope) (s : String) : ∃ fates,
    Gives s (interpolateText scope s).value fates ∧
      Settled scope fates (interpolateText scope s).notes := by
  rw [interpolateText_notes]
  by_cases h : ∃ run v, s.toList = braced run ∧ Plain run ∧ Means scope run v
  · obtain ⟨run, v, hs, hrun, hmeans⟩ := h
    obtain ⟨body, heq⟩ : ∃ body : String, trimChars run = body.toList :=
      ⟨.ofList (trimChars run), String.toList_ofList.symm⟩
    have hbody := trimChars_eq_iff.1 heq
    rw [interpolateText_of_lone hs hrun hmeans,
      pieces_eq_token_iff.2 ⟨run, hs, hrun, rfl, rfl⟩, notesOfPieces_token heq]
    exact ⟨[⟨body, some v⟩], .lone hs hrun hbody, settled_singleton (isDue_some hbody hmeans)⟩
  · have hlone : ∀ run v, s.toList = braced run → Plain run → ¬ Means scope run v :=
      fun run v hs hrun hmeans => h ⟨run, v, hs, hrun, hmeans⟩
    obtain ⟨toks, tail, hcut⟩ := exists_cut s.toList
    obtain ⟨fates, hputs, hsettled⟩ := exists_puts scope tail toks
    rw [interpolateText_of_not_lone hlone, pieces_of_cut hcut]
    exact ⟨fates, .text hcut hputs, hsettled⟩

/-! ### A value -/

theorem exists_itemsBecome {items : List Value}
    (h : ∀ v ∈ items, ∃ fates, Becomes v (interpolate scope v).value fates ∧
      Settled scope fates (interpolate scope v).notes) :
    ∃ fates, ItemsBecome items (interpolateItems scope items).1 fates ∧
      Settled scope fates (interpolateItems scope items).2 := by
  induction items with
  | nil => exact ⟨[], .nil, .nil scope⟩
  | cons v items ih =>
    obtain ⟨hv, hitems⟩ := List.forall_mem_cons.1 h
    obtain ⟨first, hfirst, hsettled⟩ := hv
    obtain ⟨others, hothers, hsettled'⟩ := ih hitems
    exact ⟨first ++ others, .cons hfirst hothers, hsettled.append hsettled'⟩

theorem exists_fieldsBecome {fields : Table Value}
    (h : ∀ e ∈ fields, ∃ fates, Becomes e.2 (interpolate scope e.2).value fates ∧
      Settled scope fates (interpolate scope e.2).notes) :
    ∃ fates, FieldsBecome fields (interpolateFields scope fields).1 fates ∧
      Settled scope fates (interpolateFields scope fields).2 := by
  induction fields with
  | nil => exact ⟨[], .nil, .nil scope⟩
  | cons e fields ih =>
    obtain ⟨he, hfields⟩ := List.forall_mem_cons.1 h
    obtain ⟨first, hfirst, hsettled⟩ := he
    obtain ⟨others, hothers, hsettled'⟩ := ih hfields
    exact ⟨first ++ others, .cons hfirst hothers, hsettled.append hsettled'⟩

theorem exists_becomes (scope : Scope) {v : Value} (hv : v.Ordered) : ∃ fates,
    Becomes v (interpolate scope v).value fates ∧
      Settled scope fates (interpolate scope v).notes := by
  induction hv with
  | null => exact ⟨[], .null, .nil scope⟩
  | bool b => exact ⟨[], .bool b, .nil scope⟩
  | num n => exact ⟨[], .num n, .nil scope⟩
  | str s =>
    obtain ⟨fates, hgives, hsettled⟩ := exists_gives scope s
    exact ⟨fates, .str hgives, hsettled⟩
  | arr _ ih =>
    obtain ⟨fates, hitems, hsettled⟩ := exists_itemsBecome ih
    exact ⟨fates, .arr hitems, hsettled⟩
  | obj hkeys _ ih =>
    obtain ⟨fates, hfields, hsettled⟩ := exists_fieldsBecome ih
    exact ⟨fates, .obj hkeys hfields, hsettled⟩

/-- **The notes of a value are the tokens that are left over.** A value is put in the place of a
token where its body is a path that resolves. The bodies of the others are listed, in the order of
their first occurrence, and these are the tokens that stay as they are written. -/
theorem notes_are_leftovers (scope : Scope) {v : Value} (hv : v.Ordered) :
    ∃ fates, Becomes v (interpolate scope v).value fates ∧
      (∀ f ∈ fates, f.IsDue scope) ∧
      FirstSeen (fun p => IsPath p.toList ∧ scope.resolve? p = none) (fates.map Fate.body)
        (interpolate scope v).notes.missing ∧
      FirstSeen (fun p => ¬ IsPath p.toList) (fates.map Fate.body)
        (interpolate scope v).notes.invalid ∧
      (∀ f ∈ fates, f.value = none ↔ f.body ∈ (interpolate scope v).notes.missing ∨
        f.body ∈ (interpolate scope v).notes.invalid) ∧
      ((interpolate scope v).notes.missing = [] ∧ (interpolate scope v).notes.invalid = [] ↔
        ∀ f ∈ fates, f.value ≠ none) := by
  obtain ⟨fates, hbecomes, hdue, hnotes⟩ := exists_becomes scope hv
  rw [hnotes]
  obtain ⟨hmissing, hinvalid⟩ := firstSeen_notesOfAll scope (fates.map Fate.body)
  have hleft : ∀ f ∈ fates, f.value = none ↔
      f.body ∈ (notesOfAll scope (fates.map Fate.body)).missing ∨
        f.body ∈ (notesOfAll scope (fates.map Fate.body)).invalid := by
    intro f hf
    have hmem := List.mem_map_of_mem (f := Fate.body) hf
    rw [hmissing.mem_iff, hinvalid.mem_iff, and_iff_right hmem, and_iff_right hmem,
      Option.eq_none_iff_forall_ne_some, Option.eq_none_iff_forall_ne_some]
    simp only [ne_eq, hdue f hf _]
    by_cases hpath : IsPath f.body.toList <;> simp [hpath]
  refine ⟨fates, hbecomes, hdue, hmissing, hinvalid, hleft, ?_⟩
  constructor
  · rintro ⟨hm, hi⟩ f hf hnone
    have h := (hleft f hf).1 hnone
    rw [hm, hi] at h
    exact h.elim List.not_mem_nil List.not_mem_nil
  · intro hall
    refine ⟨hmissing.eq_nil_iff.2 fun p hp hmem => ?_, hinvalid.eq_nil_iff.2 fun p hp hmem => ?_⟩
    · obtain ⟨f, hf, rfl⟩ := List.mem_map.1 hp
      exact hall f hf ((hleft f hf).2 (.inl ((hmissing.mem_iff _).2 ⟨hp, hmem⟩)))
    · obtain ⟨f, hf, rfl⟩ := List.mem_map.1 hp
      exact hall f hf ((hleft f hf).2 (.inr ((hinvalid.mem_iff _).2 ⟨hp, hmem⟩)))

theorem notes_are_leftovers_pair :
    let scope : Scope := ⟨.obj [("n", .ofNat 1)], none⟩
    let v : Value := .obj [("a", .str "\x7b\x7bstate.n\x7d\x7d, \x7b\x7b state.x \x7d\x7d"),
      ("b", .arr [.str "\x7b\x7bstate.x\x7d\x7d\x7b\x7b1\x7d\x7d"])]
    v.Ordered ∧ (interpolate scope v).notes = ⟨["state.x"], ["1"]⟩ ∧
      ∃ fates, Becomes v (interpolate scope v).value fates ∧
        FirstSeen (fun p => ¬ IsPath p.toList) (fates.map Fate.body)
          (interpolate scope v).notes.invalid := by
  intro scope v
  have hv : v.Ordered := by
    refine .obj (List.pairwise_pair.2 (by decide))
      (List.forall_mem_cons.2 ⟨.str _, List.forall_mem_singleton.2 ?_⟩)
    exact .arr (List.forall_mem_singleton.2 (.str _))
  obtain ⟨fates, hbecomes, -, -, hinvalid, -⟩ := notes_are_leftovers scope hv
  exact ⟨hv, by decide +kernel, fates, hbecomes, hinvalid⟩

end LivePanel.Expr
