import LivePanel.Expr.Condition
import LivePanel.Proofs.Expr.Splicing

/-!
# The conditions that texts spell

An expression is a literal or a path, behind a `!` or not; a text spells a condition if it is an
expression with blanks around it, or a token around one (`Spells`). The reader of conditions takes
off blanks and braces with no regard to what is inside, while tokens are found by their shape.

`evaluate_iff`: a text has a truth exactly if it spells a condition, any other text is an error that
carries it as written, and where a text is a token around a path, its truth is that of what
interpolation makes of it.
-/

namespace LivePanel.Expr

open Text

/-- A literal, or a path that is none, as it is written. -/
inductive IsTest : List Char → Test → Prop where
  | literalTrue : IsTest "true".toList (.constant true)
  | literalFalse : IsTest "false".toList (.constant false)
  | path {p : String} (hp : IsPath p.toList) (htrue : p ≠ "true") (hfalse : p ≠ "false") :
      IsTest p.toList (.path p)

/-- A test, or a `!` and a test with blanks between them or none. -/
inductive IsExpression : List Char → Condition → Prop where
  | plain {cs : List Char} {t : Test} (h : IsTest cs t) : IsExpression cs ⟨false, t⟩
  | negated {blanks cs : List Char} {t : Test} (hb : Blanks blanks) (h : IsTest cs t) :
      IsExpression ('!' :: (blanks ++ cs)) ⟨true, t⟩

/-- The text, trimmed, is an expression, or a token around one with blanks inside its braces or
none. -/
inductive Spells (s : String) (c : Condition) : Prop where
  | bare {cs : List Char} (hs : Trims s.toList cs) (h : IsExpression cs c)
  | token {before cs after : List Char} (hs : Trims s.toList (braced (before ++ cs ++ after)))
      (hb : Blanks before) (ha : Blanks after) (h : IsExpression cs c)

/-- What a test comes to: a literal to itself, a path to the truth of the value that it leads to, or
to false where it leads nowhere. -/
inductive Test.Yields (scope : Scope) : Test → Bool → Prop where
  | constant (b : Bool) : Yields scope (.constant b) b
  | resolved {p : String} {v : Value} (h : scope.resolve? p = some v) :
      Yields scope (.path p) v.truthy
  | unresolved {p : String} (h : scope.resolve? p = none) : Yields scope (.path p) false

/-! ### The characters of paths -/

theorem isBlank_of_isSegmentChar {c : Char} (h : isSegmentChar c = true) : isBlank c = false := by
  have hnat (d : Char) : c = d ↔ c.toNat = d.toNat := ⟨congrArg _, Char.toNat_inj.1⟩
  simp [isSegmentChar, isLetter, isDigit, hnat] at h
  simp [isBlank]
  omega

theorem IsPath.not_blank {cs : List Char} (h : IsPath cs) {c : Char} (hc : c ∈ cs) :
    isBlank c = false := by
  obtain ⟨first, name, segs, rfl, hfirst, hname, hsegs⟩ := h
  rcases List.mem_append.1 hc with hc | hc
  · rcases List.mem_cons.1 hc with rfl | hc
    · exact isBlank_of_isSegmentChar (isSegmentChar_of_isHeadChar hfirst)
    · exact isBlank_of_isSegmentChar (hname c hc)
  · obtain ⟨seg, hseg, hc⟩ := List.mem_flatMap.1 hc
    rcases List.mem_cons.1 hc with rfl | hc
    · decide
    · exact isBlank_of_isSegmentChar ((hsegs seg hseg).2 c hc)

theorem IsPath.exists_cons {cs : List Char} (h : IsPath cs) :
    ∃ c rest, cs = c :: rest ∧ isHeadChar c = true := by
  obtain ⟨c, name, segs, rfl, hc, -, -⟩ := h
  exact ⟨c, _, List.cons_append, hc⟩

/-- A test is written like a path, also where it is a literal. -/
theorem IsTest.isPath {cs : List Char} {t : Test} (h : IsTest cs t) : IsPath cs := by
  cases h with
  | literalTrue => exact isPath_iff.1 (by decide)
  | literalFalse => exact isPath_iff.1 (by decide)
  | path hp _ _ => exact hp

theorem IsTest.trimmed {cs : List Char} {t : Test} (h : IsTest cs t) :
    (∀ c ∈ cs.head?, isBlank c = false) ∧ ∀ c ∈ cs.getLast?, isBlank c = false :=
  ⟨fun _ hc => h.isPath.not_blank (List.mem_of_mem_head? hc),
    fun _ hc => h.isPath.not_blank (List.mem_of_mem_getLast? hc)⟩

theorem IsExpression.trimmed {cs : List Char} {c : Condition} (h : IsExpression cs c) :
    (∀ d ∈ cs.head?, isBlank d = false) ∧ ∀ d ∈ cs.getLast?, isBlank d = false := by
  cases h with
  | plain h => exact h.trimmed
  | @negated blanks cs t hb h =>
    obtain ⟨first, rest, rfl, -⟩ := h.isPath.exists_cons
    refine ⟨fun d hd => ?_, fun d hd => h.trimmed.2 d ?_⟩
    · obtain rfl : '!' = d := Option.some.inj hd
      decide
    · rwa [← List.cons_append, List.getLast?_append_of_ne_nil _ (List.cons_ne_nil _ _)] at hd

/-! ### Reading an expression -/

theorem test?_eq_some_iff {cs : List Char} {t : Test} : test? cs = some t ↔ IsTest cs t := by
  constructor
  · intro h
    obtain ⟨p, rfl⟩ : ∃ p : String, cs = p.toList := ⟨.ofList cs, String.toList_ofList.symm⟩
    rw [test?, String.ofList_toList] at h
    split at h
    · rename_i htrue
      obtain rfl := Option.some.inj h
      exact htrue ▸ .literalTrue
    · rename_i htrue
      split at h
      · rename_i hfalse
        obtain rfl := Option.some.inj h
        exact hfalse ▸ .literalFalse
      · rename_i hfalse
        split at h
        · rename_i hpath
          obtain rfl := Option.some.inj h
          exact .path (isPath_iff.1 hpath) htrue hfalse
        · cases h
  · rintro (_ | _ | ⟨hp, htrue, hfalse⟩)
    · rfl
    · rfl
    · simp only [test?, String.ofList_toList, htrue, hfalse, if_false, isPath_iff.2 hp, if_true]

/-- The condition that the characters spell as an expression. -/
def expression? : List Char → Option Condition
  | '!' :: rest => (test? (trimStartChars rest)).map (⟨true, ·⟩)
  | cs => (test? cs).map (⟨false, ·⟩)

theorem condition?_eq (s : String) :
    condition? s = expression? (unwrap (trimChars s.toList)) := rfl

theorem not_isTest_bang {rest : List Char} {t : Test} : ¬ IsTest ('!' :: rest) t := by
  intro h
  obtain ⟨c, more, hcs, hc⟩ := h.isPath.exists_cons
  obtain ⟨rfl, -⟩ := List.cons.inj hcs
  exact absurd hc (by decide)

theorem expression?_eq_some_iff {cs : List Char} {c : Condition} :
    expression? cs = some c ↔ IsExpression cs c := by
  rw [expression?.eq_def]
  split
  · rename_i rest
    rw [Option.map_eq_some_iff]
    constructor
    · rintro ⟨t, ht, rfl⟩
      obtain ⟨blanks, hrest, hblanks, -⟩ := exists_trimStartChars rest
      rw [hrest]
      exact .negated hblanks (test?_eq_some_iff.1 ht)
    · rintro (h | ⟨hb, h⟩)
      · exact absurd h not_isTest_bang
      · refine ⟨_, ?_, rfl⟩
        rw [trimStartChars_append hb, trimStartChars_of_head h.trimmed.1]
        exact test?_eq_some_iff.2 h
  · rename_i hbang
    rw [Option.map_eq_some_iff]
    constructor
    · rintro ⟨t, ht, rfl⟩
      exact .plain (test?_eq_some_iff.1 ht)
    · rintro (h | ⟨hb, h⟩)
      · exact ⟨_, test?_eq_some_iff.2 h, rfl⟩
      · exact absurd rfl (hbang _)

/-! ### Taking off the braces -/

theorem unwrap_braced (run : List Char) : unwrap (braced run) = trimChars run := by
  have hopen : dropHead? ['\x7b', '\x7b'] (braced run) = some (run ++ ['\x7d', '\x7d']) := by
    rw [dropHead?_eq_some_iff]
    simp [braced]
  rw [unwrap, hopen]
  dsimp only
  rw [dropTail?_eq_some_iff.2 rfl]

/-- What is taken off is a token's braces, or nothing. -/
theorem unwrap_cases (cs : List Char) : unwrap cs = cs ∨ ∃ run, cs = braced run := by
  rw [unwrap]
  split
  · exact .inl rfl
  · rename_i rest hopen
    split
    · exact .inl rfl
    · rename_i run hclose
      refine .inr ⟨run, ?_⟩
      rw [dropHead?_eq_some_iff.1 hopen, dropTail?_eq_some_iff.1 hclose]
      simp [braced]

theorem IsExpression.unwrap_eq {cs : List Char} {c : Condition} (h : IsExpression cs c) :
    unwrap cs = cs := by
  rcases unwrap_cases cs with heq | ⟨run, rfl⟩
  · exact heq
  · cases h with
    | plain h =>
      obtain ⟨d, rest, hcs, hd⟩ := h.isPath.exists_cons
      obtain ⟨rfl, -⟩ := List.cons.inj hcs
      exact absurd hd (by decide)

theorem condition?_eq_some_iff {s : String} {c : Condition} :
    condition? s = some c ↔ Spells s c := by
  rw [condition?_eq, expression?_eq_some_iff]
  constructor
  · intro h
    rcases unwrap_cases (trimChars s.toList) with heq | ⟨run, hrun⟩
    · rw [heq] at h
      exact .bare (trimChars_eq_iff.1 rfl) h
    · rw [hrun, unwrap_braced] at h
      obtain ⟨before, after, heq, hb, ha, -⟩ := trimChars_eq_iff.1 (Eq.refl (trimChars run))
      rw [heq] at hrun
      exact .token (trimChars_eq_iff.1 hrun) hb ha h
  · rintro (⟨hs, h⟩ | ⟨hs, hb, ha, h⟩)
    · rwa [trimChars_eq_iff.2 hs, h.unwrap_eq]
    · rw [trimChars_eq_iff.2 hs, unwrap_braced,
        trimChars_eq_iff.2 ⟨_, _, rfl, hb, ha, h.trimmed⟩]
      exact h

/-! ### Truth -/

variable {scope : Scope}

theorem Test.yields_iff {t : Test} {b : Bool} : t.Yields scope b ↔ t.holds scope = b := by
  constructor
  · rintro (_ | h | h)
    · rfl
    · simp [holds, h]
    · simp [holds, h]
  · rintro rfl
    cases t with
    | constant b => exact .constant b
    | path p =>
      rw [holds]
      cases h : scope.resolve? p with
      | none => exact .unresolved h
      | some v => exact .resolved h

theorem evaluate_of_spells {s : String} {c : Condition} (h : Spells s c) :
    evaluate scope s = .ok (c.holds scope) := by
  rw [evaluate, condition?_eq_some_iff.2 h]

theorem evaluate_of_not_spells {s : String} (h : ∀ c, ¬ Spells s c) :
    evaluate scope s = .error ⟨s⟩ := by
  cases hc : condition? s with
  | none => rw [evaluate, hc]
  | some c => exact absurd (condition?_eq_some_iff.1 hc) (h c)

/-- A text that is a token has no blanks to trim. -/
theorem trims_braced (run : List Char) : Trims (braced run) (braced run) := by
  refine ⟨[], [], by simp, by simp [Blanks], by simp [Blanks], fun c hc => ?_, fun c hc => ?_⟩
  · obtain rfl : '\x7b' = c := Option.some.inj hc
    decide
  · rw [braced, List.getLast?_append_of_ne_nil _ (by simp)] at hc
    obtain rfl : '\x7d' = c := Option.some.inj hc
    decide

/-- What interpolation makes of a text that is a token around a path. -/
theorem interpolateText_of_path {s : String} {run : List Char} {p : String}
    (hs : s.toList = braced run) (hrun : Plain run) (hp : Trims run p.toList)
    (hpath : IsPath p.toList) :
    interpolateText scope s =
      match scope.resolve? p with
      | some v => ⟨v, {}⟩
      | none => ⟨.str s, { missing := [p] }⟩ := by
  have hbody := trimChars_eq_iff.2 hp
  rw [interpolateText, pieces_eq_token_iff.2 ⟨run, hs, hrun, rfl, rfl⟩]
  simp only [notesOf, Scope.outcome, hbody, isPath_iff.2 hpath, if_true, String.ofList_toList, ← hs]
  cases scope.resolve? p <;> rfl

/-- **A text has a truth exactly if it spells a condition, and the truth of a token is that of the
value it stands for.** Any other text is refused as it was written, and a token around a path is
read as interpolation reads it. -/
theorem evaluate_iff (scope : Scope) (s : String) :
    (∀ b, evaluate scope s = .ok b ↔
      ∃ c a, Spells s c ∧ c.test.Yields scope a ∧ b = if c.negated then !a else a) ∧
    (∀ e, evaluate scope s = .error e ↔ e.text = s ∧ ∀ c, ¬ Spells s c) ∧
    ∀ (run : List Char) (p : String), s.toList = braced run → Plain run → Trims run p.toList →
      IsPath p.toList → p ≠ "true" → p ≠ "false" →
      evaluate scope s = .ok
        (if (interpolate scope (.str s)).notes.missing = [] then
          (interpolate scope (.str s)).value.truthy
        else false) := by
  refine ⟨fun b => ?_, fun e => ?_, fun run p hs hrun hp hpath htrue hfalse => ?_⟩
  · constructor
    · intro h
      by_cases hspells : ∃ c, Spells s c
      · obtain ⟨c, hc⟩ := hspells
        rw [evaluate_of_spells hc] at h
        refine ⟨c, c.test.holds scope, hc, Test.yields_iff.2 rfl, ?_⟩
        rw [← Except.ok.inj h, Condition.holds]
        cases c.negated <;> simp
      · rw [evaluate_of_not_spells (not_exists.1 hspells)] at h
        cases h
    · rintro ⟨c, a, hc, ha, rfl⟩
      rw [evaluate_of_spells hc, Condition.holds, Test.yields_iff.1 ha]
      cases c.negated <;> simp
  · by_cases hspells : ∃ c, Spells s c
    · obtain ⟨c, hc⟩ := hspells
      rw [evaluate_of_spells hc]
      exact ⟨nofun, fun h => absurd hc (h.2 c)⟩
    · have hnone := not_exists.1 hspells
      rw [evaluate_of_not_spells hnone, Except.error.injEq]
      exact ⟨fun h => ⟨h ▸ rfl, hnone⟩, fun h => congrArg SyntaxFault.mk h.1.symm⟩
  · have hspells : Spells s ⟨false, .path p⟩ := by
      obtain ⟨before, after, hbody, hb, ha, -⟩ := id hp
      exact .token (hbody ▸ hs ▸ trims_braced run) hb ha (.plain (.path hpath htrue hfalse))
    rw [evaluate_of_spells hspells, interpolate, interpolateText_of_path hs hrun hp hpath,
      Condition.holds, Test.holds]
    cases scope.resolve? p <;> simp

/-- A second `!` is no part of an expression, and blanks may follow the first. -/
example : evaluate ⟨.obj [("on", .bool true)], none⟩ "\x7b\x7b ! state.on \x7d\x7d" = .ok false ∧
    evaluate ⟨.obj [], none⟩ "!!state.on" = .error ⟨"!!state.on"⟩ := by
  decide +kernel

end LivePanel.Expr
