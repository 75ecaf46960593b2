import LivePanel.Proofs.Expr.Tokens
import LivePanel.Proofs.Value.Ordered
import Mathlib.Data.List.Forall2

/-!
# What interpolation makes of a value

A token means the value that the path in its run leads to (`Means`). A text that is a single token
with a meaning becomes that value; in any other text the tokens with a meaning give way to their
values as text, and all else stays (`Reads`). The tokens are those of the text as it was given: what
is put in their place is text of the result only. In a value every text is read in its place and all
else is as before (`Maps`). Interpolation gives the value that is so described, and no other
(`interpolate_value_eq_iff`).
-/

namespace LivePanel

/-- A table is made of its keys and the values under them. -/
theorem Table.zip_eq_iff {keys : List String} {values : List Value} {fields : Table Value}
    (h : keys.length = values.length) :
    keys.zip values = fields ↔ keys = fields.keys ∧ values = fields.values := by
  constructor
  · rintro rfl
    exact ⟨(List.map_fst_zip (Nat.le_of_eq h)).symm, (List.map_snd_zip (Nat.le_of_eq h.symm)).symm⟩
  · rintro ⟨rfl, rfl⟩
    exact (List.zip_of_prod rfl rfl).symm

namespace Expr

open Text

/-- The run without the blanks around it is a well-formed path, and it leads to the value. -/
def Means (scope : Scope) (run : List Char) (v : Value) : Prop :=
  ∃ path : String, Trims run path.toList ∧ IsPath path.toList ∧ scope.resolve? path = some v

/-- A value as it is put into a text: nothing for null, a string as it is, all else as compact
JSON. -/
inductive Displays : Value → String → Prop where
  | null : Displays .null ""
  | str (s : String) : Displays (.str s) s
  | other {v : Value} (hnull : v ≠ .null) (hstr : ∀ s, v ≠ .str s) : Displays v v.compact

/-- The characters that the tokens and the tail behind them become: a token with a meaning gives way
to the text of its value, any other token stays as it is written, and so do all characters outside of
tokens. -/
inductive Splices (scope : Scope) (tail : List Char) : List Token → List Char → Prop where
  | last : Splices scope tail [] tail
  | value {before run out : List Char} {toks : List Token} {v : Value} {text : String}
      (hmeans : Means scope run v) (htext : Displays v text) (hrest : Splices scope tail toks out) :
      Splices scope tail (⟨before, run⟩ :: toks) (before ++ text.toList ++ out)
  | verbatim {before run out : List Char} {toks : List Token} (hnone : ∀ v, ¬ Means scope run v)
      (hrest : Splices scope tail toks out) :
      Splices scope tail (⟨before, run⟩ :: toks) (before ++ braced run ++ out)

/-- The value that a text becomes: that of its only token, if it is nothing else and the token has a
meaning, or else a text with values for the tokens that have one. -/
inductive Reads (scope : Scope) (s : String) : Value → Prop where
  | lone {run : List Char} {v : Value} (hs : s.toList = braced run) (hrun : Plain run)
      (hmeans : Means scope run v) : Reads scope s v
  | text {toks : List Token} {tail out : List Char}
      (hlone : ∀ run v, s.toList = braced run → Plain run → ¬ Means scope run v)
      (hcut : Cut s.toList toks tail) (hout : Splices scope tail toks out) :
      Reads scope s (.str (String.ofList out))

/-- One value is the other with each of its texts, at any depth, replaced as `R` says: the lengths of
arrays, the keys of objects and the leaves that are no texts are the same. -/
inductive Maps (R : String → Value → Prop) : Value → Value → Prop where
  | null : Maps R .null .null
  | bool (b : Bool) : Maps R (.bool b) (.bool b)
  | num (n : Number) : Maps R (.num n) (.num n)
  | str {s : String} {v : Value} (h : R s v) : Maps R (.str s) v
  | arr {items items' : List Value} (h : List.Forall₂ (Maps R) items items') :
      Maps R (.arr items) (.arr items')
  | obj {fields fields' : Table Value} (hkeys : fields.keys = fields'.keys)
      (h : List.Forall₂ (Maps R) fields.values fields'.values) : Maps R (.obj fields) (.obj fields')

variable {scope : Scope}

/-! ### One token -/

theorem outcome_eq_resolved_iff {run : List Char} {v : Value} :
    scope.outcome (trimChars run) = .resolved v ↔ Means scope run v := by
  have hpath : Means scope run v ↔ IsPath (trimChars run) ∧
      scope.resolve? (String.ofList (trimChars run)) = some v := by
    constructor
    · rintro ⟨path, htrim, hpath, hv⟩
      rw [trimChars_eq_iff.2 htrim, String.ofList_toList]
      exact ⟨hpath, hv⟩
    · rintro ⟨hpath, hv⟩
      refine ⟨String.ofList (trimChars run), ?_, ?_, hv⟩
      · rw [String.toList_ofList, ← trimChars_eq_iff]
      · rwa [String.toList_ofList]
  rw [hpath, ← isPath_iff, Scope.outcome]
  split
  · rename_i h
    simp only [h, true_and]
    split
    · rename_i w hw
      rw [hw, Option.some_inj, Outcome.resolved.injEq]
    · rename_i hnone
      simp [hnone]
  · rename_i h
    simp [h]

theorem displays_iff {v : Value} {text : String} : Displays v text ↔ spliced v = text := by
  constructor
  · rintro (_ | _ | ⟨hnull, hstr⟩)
    · rfl
    · rfl
    · cases v with
      | null => exact absurd rfl hnull
      | str s => exact absurd rfl (hstr s)
      | bool | num | arr | obj => rfl
  · rintro rfl
    cases v with
    | null => exact .null
    | str s => exact .str s
    | bool | num | arr | obj => exact .other nofun nofun

/-- What a token becomes, by its meaning. -/
theorem text_of_means {run : List Char} {v : Value} (h : Means scope run v) (raw : List Char) :
    (Piece.token raw (trimChars run)).text scope = (spliced v).toList := by
  rw [Piece.text, outcome_eq_resolved_iff.2 h]

theorem text_of_not_means {run : List Char} (h : ∀ v, ¬ Means scope run v) (raw : List Char) :
    (Piece.token raw (trimChars run)).text scope = raw := by
  rw [Piece.text]
  split
  · rename_i v hv
    exact absurd (outcome_eq_resolved_iff.1 hv) (h v)
  · rfl

/-! ### A text -/

theorem flatMap_text_char (cs : List Char) :
    (cs.map Piece.char).flatMap (Piece.text scope) = cs := by
  rw [List.flatMap_map]
  exact List.flatMap_singleton' cs

/-- What the tokens and the tail become is the text of their pieces. -/
theorem splices_iff {tail out : List Char} {toks : List Token} :
    Splices scope tail toks out ↔ (piecesOf tail toks).flatMap (Piece.text scope) = out := by
  induction toks generalizing out with
  | nil =>
    rw [piecesOf, flatMap_text_char]
    constructor
    · rintro ⟨⟩
      rfl
    · rintro rfl
      exact .last
  | cons tok toks ih =>
    obtain ⟨before, run⟩ := tok
    rw [piecesOf, List.flatMap_append, flatMap_text_char, List.flatMap_cons, ← List.append_assoc]
    constructor
    · rintro (_ | ⟨hmeans, htext, hrest⟩ | ⟨hnone, hrest⟩)
      · rw [text_of_means hmeans, displays_iff.1 htext, ih.1 hrest]
      · rw [text_of_not_means hnone, ih.1 hrest]
    · rintro rfl
      by_cases h : ∃ v, Means scope run v
      · obtain ⟨v, hmeans⟩ := h
        rw [text_of_means hmeans]
        exact .value hmeans (displays_iff.2 rfl) (ih.2 rfl)
      · rw [text_of_not_means (not_exists.1 h)]
        exact .verbatim (not_exists.1 h) (ih.2 rfl)

theorem interpolateText_of_lone {s : String} {run : List Char} {v : Value}
    (hs : s.toList = braced run) (hrun : Plain run) (hmeans : Means scope run v) :
    (interpolateText scope s).value = v := by
  rw [interpolateText, pieces_eq_token_iff.2 ⟨run, hs, hrun, rfl, rfl⟩]
  dsimp only
  rw [outcome_eq_resolved_iff.2 hmeans]

/-- Any other text becomes the text of its pieces, a lone token without a meaning included. -/
theorem interpolateText_of_not_lone {s : String}
    (h : ∀ run v, s.toList = braced run → Plain run → ¬ Means scope run v) :
    (interpolateText scope s).value =
      .str (String.ofList ((pieces s.toList).flatMap (Piece.text scope))) := by
  rw [interpolateText]
  split
  · rename_i raw body hpieces
    obtain ⟨run, hs, hrun, rfl, rfl⟩ := pieces_eq_token_iff.1 hpieces
    rw [hpieces, List.flatMap_singleton, text_of_not_means fun v => h run v hs hrun]
    split
    · rename_i v hv
      exact absurd (outcome_eq_resolved_iff.1 hv) (h run v hs hrun)
    · rfl
  · rfl

theorem reads_iff {s : String} {w : Value} :
    Reads scope s w ↔ (interpolateText scope s).value = w := by
  constructor
  · rintro (⟨hs, hrun, hmeans⟩ | ⟨hlone, hcut, hout⟩)
    · exact interpolateText_of_lone hs hrun hmeans
    · rw [interpolateText_of_not_lone hlone, pieces_of_cut hcut, splices_iff.1 hout]
  · rintro rfl
    by_cases h : ∃ run v, s.toList = braced run ∧ Plain run ∧ Means scope run v
    · obtain ⟨run, v, hs, hrun, hmeans⟩ := h
      rw [interpolateText_of_lone hs hrun hmeans]
      exact .lone hs hrun hmeans
    · have hlone : ∀ run v, s.toList = braced run → Plain run → ¬ Means scope run v :=
        fun run v hs hrun hmeans => h ⟨run, v, hs, hrun, hmeans⟩
      obtain ⟨toks, tail, hcut⟩ := exists_cut s.toList
      rw [interpolateText_of_not_lone hlone, pieces_of_cut hcut]
      exact .text hlone hcut (splices_iff.2 rfl)

/-! ### A value -/

/-- A list is mapped if its elements are. -/
theorem map_eq_iff_forall₂ {α β : Type} {f : α → β} {R : α → β → Prop} {xs : List α} {ys : List β}
    (h : ∀ x ∈ xs, ∀ y, f x = y ↔ R x y) : xs.map f = ys ↔ List.Forall₂ R xs ys := by
  induction xs generalizing ys with
  | nil => rw [List.forall₂_nil_left_iff, List.map_nil, eq_comm]
  | cons x xs ih =>
    obtain ⟨hx, hxs⟩ := List.forall_mem_cons.1 h
    cases ys with
    | nil => simp
    | cons y ys => rw [List.map_cons, List.cons.injEq, List.forall₂_cons, hx, ih hxs]

theorem interpolateItems_fst (scope : Scope) (items : List Value) :
    (interpolateItems scope items).1 = items.map fun v => (interpolate scope v).value := by
  induction items with
  | nil => rfl
  | cons v items ih =>
    rw [List.map_cons, ← ih]
    rfl

theorem interpolateFields_fst (scope : Scope) (fields : Table Value) :
    (interpolateFields scope fields).1 =
      fields.keys.zip (fields.values.map fun v => (interpolate scope v).value) := by
  induction fields with
  | nil => rfl
  | cons field fields ih =>
    change (field.1, (interpolate scope field.2).value) :: (interpolateFields scope fields).1 = _
    rw [ih]
    rfl

theorem interpolate_arr_value (scope : Scope) (items : List Value) :
    (interpolate scope (.arr items)).value =
      .arr (items.map fun v => (interpolate scope v).value) := by
  rw [← interpolateItems_fst]
  rfl

theorem interpolate_obj_value (scope : Scope) (fields : Table Value) :
    (interpolate scope (.obj fields)).value =
      .obj (fields.keys.zip (fields.values.map fun v => (interpolate scope v).value)) := by
  rw [← interpolateFields_fst]
  rfl

/-- **Interpolation reads every text of a value in one pass.** A text that is a single token with a
meaning becomes the value meant; in any other text the leftmost tokens that do not overlap are put in
place, or left as they are. All else is unchanged. -/
theorem interpolate_value_eq_iff (scope : Scope) (v w : Value) :
    (interpolate scope v).value = w ↔ Maps (Reads scope) v w := by
  induction v using Value.induction generalizing w with
  | null | bool b | num n =>
    rw [interpolate]
    constructor
    · rintro rfl
      constructor
    · rintro ⟨⟩
      rfl
  | str s =>
    rw [interpolate, ← reads_iff]
    exact ⟨.str, fun | .str h => h⟩
  | arr items ih =>
    rw [interpolate_arr_value]
    constructor
    · rintro rfl
      exact .arr ((map_eq_iff_forall₂ ih).1 rfl)
    · rintro (_ | _ | _ | _ | h)
      exact congrArg Value.arr ((map_eq_iff_forall₂ ih).2 h)
  | obj fields ih =>
    have hlength : fields.keys.length
        = (fields.values.map fun v => (interpolate scope v).value).length := by
      simp [Table.keys, Table.values]
    rw [interpolate_obj_value]
    constructor
    · rintro rfl
      obtain ⟨hkeys, hvalues⟩ := (Table.zip_eq_iff hlength).1 rfl
      exact .obj hkeys ((map_eq_iff_forall₂ ih).1 hvalues)
    · rintro (_ | _ | _ | _ | _ | ⟨hkeys, h⟩)
      exact congrArg Value.obj
        ((Table.zip_eq_iff hlength).2 ⟨hkeys, (map_eq_iff_forall₂ ih).2 h⟩)

/-- What is put in place of a token is not read again. -/
example : (interpolate ⟨.obj [("a", .str "\x7b\x7bstate.b\x7d\x7d"), ("b", .null)], none⟩
    (.str "x\x7b\x7b state.a \x7d\x7d")).value = .str "x\x7b\x7bstate.b\x7d\x7d" := by cbv

end Expr

end LivePanel
