import LivePanel.Expr.Interpolate
import LivePanel.Proofs.Text.Cutting
import Mathlib.Data.List.Basic

/-!
# The tokens of a text, and well-formed paths

A token is written as two opening braces, a run without braces, and two closing braces. A text is cut
at its tokens from left to right: each time at the first place where one stands, going on behind it
(`Cut`). Every text can be cut (`exists_cut`), and where it is cut gives its pieces (`pieces_of_cut`).

A path of an expression, told as it is written: a name, then segments with a point before each of them
(`isPath_iff`).
-/

namespace LivePanel.Expr

open Text

/-- There are no braces in the run. -/
def Plain (run : List Char) : Prop := '\x7b' ∉ run ∧ '\x7d' ∉ run

/-- The run with two braces on either side. -/
def braced (run : List Char) : List Char := ['\x7b', '\x7b'] ++ run ++ ['\x7d', '\x7d']

/-- A token stands at the front of the text. -/
def StartsToken (cs : List Char) : Prop := ∃ run rest, cs = braced run ++ rest ∧ Plain run

/-- No token begins in `before` when `cs` follows it. -/
def TokenFree (before cs : List Char) : Prop :=
  ∀ skipped left, before = skipped ++ left → left ≠ [] → ¬ StartsToken (left ++ cs)

/-- A token of a text: what stands between it and the token before it, and its run. -/
structure Token where
  before : List Char
  run : List Char

/-- The tokens of a text, and what follows the last of them. -/
inductive Cut : List Char → List Token → List Char → Prop where
  | last {tail : List Char} (hfree : TokenFree tail []) : Cut tail [] tail
  | token {before run rest tail : List Char} {toks : List Token} (hrun : Plain run)
      (hfree : TokenFree before (braced run ++ rest)) (hrest : Cut rest toks tail) :
      Cut (before ++ (braced run ++ rest)) (⟨before, run⟩ :: toks) tail

/-! ### A token at the front -/

theorem isBrace_iff {c : Char} : isBrace c = true ↔ c = '\x7b' ∨ c = '\x7d' := by
  have hchar (d : Char) : c.toNat = d.toNat ↔ c = d := ⟨Char.toNat_inj.1, congrArg _⟩
  simp only [isBrace, Bool.or_eq_true, decide_eq_true_eq]
  exact or_congr (hchar '\x7b') (hchar '\x7d')

theorem plain_iff {run : List Char} : Plain run ↔ ∀ c ∈ run, (!isBrace c) = true := by
  constructor
  · intro h c hc
    rw [Bool.not_eq_true', ← Bool.not_eq_true, isBrace_iff]
    rintro (rfl | rfl)
    · exact h.1 hc
    · exact h.2 hc
  · intro h
    exact ⟨fun hc => absurd (h _ hc) (by decide), fun hc => absurd (h _ hc) (by decide)⟩

/-- The run of a token ends at its closing braces. -/
theorem Plain.takeWhile_eq {run : List Char} (h : Plain run) (rest : List Char) :
    (run ++ (['\x7d', '\x7d'] ++ rest)).takeWhile (fun c => !isBrace c) = run := by
  rw [List.takeWhile_append_of_pos (plain_iff.1 h), List.cons_append,
    List.takeWhile_cons_of_neg (by decide), List.append_nil]

theorem tokenAt?_braced {run : List Char} (h : Plain run) (rest : List Char) :
    tokenAt? (braced run ++ rest) = some (braced run, trimChars run) := by
  have htext : braced run ++ rest
      = ['\x7b', '\x7b'] ++ (run ++ (['\x7d', '\x7d'] ++ rest)) := by simp [braced]
  rw [tokenAt?, htext, dropHead?_append]
  simp only [h.takeWhile_eq, List.drop_left, dropHead?_append]
  rfl

theorem tokenAt?_eq_none {cs : List Char} (h : ¬ StartsToken cs) : tokenAt? cs = none := by
  rw [tokenAt?]
  split
  · rfl
  · rename_i rest hopen
    dsimp only
    split
    · rfl
    · rename_i behind hclose
      rw [dropHead?_eq_some_iff] at hopen hclose
      have hrest := List.prefix_iff_eq_append.1
        (List.takeWhile_prefix (l := rest) fun c => !isBrace c)
      refine absurd ⟨rest.takeWhile fun c => !isBrace c, behind, ?_, ?_⟩ h
      · rw [hopen, braced, List.append_assoc, List.append_assoc, ← hclose, hrest]
      · exact plain_iff.2 fun c hc => List.all_eq_true.1 List.all_takeWhile c hc

/-! ### The pieces of a text -/

/-- Characters that are passed over leave no pieces. -/
theorem piecesFrom_append (passed cs : List Char) :
    piecesFrom passed.length (passed ++ cs) = pieces cs := by
  induction passed with
  | nil => rfl
  | cons c passed ih => exact ih

theorem pieces_braced {run : List Char} (h : Plain run) (rest : List Char) :
    pieces (braced run ++ rest) = .token (braced run) (trimChars run) :: pieces rest := by
  obtain ⟨c, more, hcons⟩ : ∃ c more, braced run = c :: more := ⟨_, _, rfl⟩
  have hat := tokenAt?_braced h rest
  rw [hcons, List.cons_append] at hat ⊢
  rw [pieces, piecesFrom, hat]
  exact congrArg _ (piecesFrom_append more rest)

theorem pieces_append {before cs : List Char} (h : TokenFree before cs) :
    pieces (before ++ cs) = before.map .char ++ pieces cs := by
  induction before with
  | nil => rfl
  | cons c before ih =>
    have hnone := tokenAt?_eq_none (h [] (c :: before) rfl (List.cons_ne_nil _ _))
    have hrest : TokenFree before cs := fun skipped left hleft =>
      h (c :: skipped) left (congrArg (c :: ·) hleft)
    rw [List.cons_append] at hnone ⊢
    rw [pieces, piecesFrom, hnone, List.map_cons, List.cons_append]
    exact congrArg _ (ih hrest)

/-- The tokens with the characters before each of them, and then those of the tail. -/
def piecesOf (tail : List Char) : List Token → List Piece
  | [] => tail.map .char
  | tok :: toks =>
    tok.before.map .char ++ .token (braced tok.run) (trimChars tok.run) :: piecesOf tail toks

/-- **The pieces of a text are its tokens, where it is cut, and the characters between them.** -/
theorem pieces_of_cut {cs tail : List Char} {toks : List Token} (h : Cut cs toks tail) :
    pieces cs = piecesOf tail toks := by
  induction h with
  | last hfree => simpa [pieces, piecesFrom, piecesOf] using pieces_append hfree
  | token hrun hfree hrest ih => rw [pieces_append hfree, pieces_braced hrun, ih, piecesOf]

theorem pieces_eq_nil {cs : List Char} (h : pieces cs = []) : cs = [] := by
  cases cs with
  | nil => rfl
  | cons c cs =>
    rw [pieces, piecesFrom] at h
    split at h <;> cases h

/-! ### Every text can be cut -/

theorem TokenFree.cons {c : Char} {before cs : List Char} (hc : ¬ StartsToken (c :: before ++ cs))
    (h : TokenFree before cs) : TokenFree (c :: before) cs := by
  rintro skipped left hleft hne
  rcases List.cons_eq_append_iff.1 hleft with ⟨rfl, rfl⟩ | ⟨skipped, rfl, hbefore⟩
  · exact hc
  · exact h skipped left hbefore hne

/-- A text is without tokens, or there is a first. -/
theorem exists_first_token (cs : List Char) : TokenFree cs [] ∨
    ∃ before run rest, cs = before ++ (braced run ++ rest) ∧ Plain run ∧
      TokenFree before (braced run ++ rest) := by
  induction cs with
  | nil => exact .inl fun skipped left hleft hne => absurd (List.append_eq_nil_iff.1 hleft.symm).2 hne
  | cons c cs ih =>
    by_cases hat : StartsToken (c :: cs)
    · obtain ⟨run, rest, hcs, hrun⟩ := hat
      refine .inr ⟨[], run, rest, hcs, hrun, fun skipped left hleft hne => ?_⟩
      exact absurd (List.append_eq_nil_iff.1 hleft.symm).2 hne
    · rcases ih with hfree | ⟨before, run, rest, rfl, hrun, hfree⟩
      · exact .inl (hfree.cons (by simpa using hat))
      · exact .inr ⟨c :: before, run, rest, rfl, hrun, hfree.cons hat⟩

/-- One token is all there is if the text is written as one. -/
theorem pieces_eq_token_iff {cs raw body : List Char} : pieces cs = [.token raw body] ↔
    ∃ run, cs = braced run ∧ Plain run ∧ raw = braced run ∧ body = trimChars run := by
  constructor
  · intro h
    rcases exists_first_token cs with hfree | ⟨before, run, rest, rfl, hrun, hfree⟩
    · have hchars := pieces_append hfree
      rw [List.append_nil, h] at hchars
      cases cs <;> simp [pieces, piecesFrom] at hchars
    · rw [pieces_append hfree, pieces_braced hrun] at h
      cases before with
      | nil =>
        simp only [List.map_nil, List.nil_append, List.cons.injEq, Piece.token.injEq] at h
        obtain ⟨⟨rfl, rfl⟩, hrest⟩ := h
        exact ⟨run, by rw [pieces_eq_nil hrest, List.nil_append, List.append_nil], hrun, rfl, rfl⟩
      | cons c before => cases h
  · rintro ⟨run, rfl, hrun, rfl, rfl⟩
    have h := pieces_braced hrun []
    rwa [List.append_nil] at h

theorem exists_cut (cs : List Char) : ∃ toks tail, Cut cs toks tail := by
  induction hlen : cs.length using Nat.strongRecOn generalizing cs with
  | ind n ih =>
    rcases exists_first_token cs with hfree | ⟨before, run, rest, rfl, hrun, hfree⟩
    · exact ⟨[], cs, .last hfree⟩
    · obtain ⟨toks, tail, hrest⟩ := ih rest.length (by simp [← hlen, braced]; omega) rest rfl
      exact ⟨_, tail, .token hrun hfree hrest⟩

/-! ### Paths -/

/-- Characters of a segment, and at least one. -/
def IsSegment (seg : List Char) : Prop := seg ≠ [] ∧ ∀ c ∈ seg, isSegmentChar c = true

/-- A letter or an underscore, then characters of a segment, then segments behind points. -/
def IsPath (cs : List Char) : Prop :=
  ∃ (c : Char) (name : List Char) (segs : List (List Char)),
    cs = c :: name ++ segs.flatMap ('.' :: ·) ∧ isHeadChar c = true ∧
      (∀ d ∈ name, isSegmentChar d = true) ∧ ∀ seg ∈ segs, IsSegment seg

theorem isSegmentChar_of_isHeadChar {c : Char} (h : isHeadChar c = true) :
    isSegmentChar c = true := by
  simp only [isHeadChar, Bool.or_eq_true] at h
  simp only [isSegmentChar, Bool.or_eq_true]
  rcases h with h | h
  · exact .inl (.inl (.inl h))
  · exact .inl (.inr h)

theorem isSegment_iff {seg : List Char} :
    (!seg.isEmpty && seg.all isSegmentChar) = true ↔ IsSegment seg := by
  simp [IsSegment]

theorem IsSegment.point_not_mem {seg : List Char} (h : IsSegment seg) : '.' ∉ seg := fun hmem =>
  absurd (h.2 _ hmem) (by decide)

/-- **The characters are a well-formed path if they are written like one.** -/
theorem isPath_iff {cs : List Char} : isPath cs = true ↔ IsPath cs := by
  constructor
  · intro h
    obtain ⟨hhead, hall⟩ := Bool.and_eq_true_iff.1 h
    obtain ⟨first, segs, hcut⟩ := List.exists_cons_of_ne_nil (splitChars_ne_nil '.' cs)
    have heq := eq_of_splitChars '.' hcut
    simp only [hcut, List.all_cons, Bool.and_eq_true, List.all_eq_true] at hall
    obtain ⟨hfirst, hsegs⟩ := hall
    obtain ⟨hne, hchars⟩ := isSegment_iff.1 (Bool.and_eq_true_iff.2 (by simpa using hfirst))
    obtain ⟨c, name, rfl⟩ := List.exists_cons_of_ne_nil hne
    rw [heq] at hhead
    exact ⟨c, name, segs, heq, hhead, fun d hd => hchars d (List.mem_cons_of_mem _ hd),
      fun seg hseg => isSegment_iff.1 (by simpa using hsegs seg hseg)⟩
  · rintro ⟨c, name, segs, rfl, hc, hname, hsegs⟩
    have hfirst : IsSegment (c :: name) :=
      ⟨by simp, List.forall_mem_cons.2 ⟨isSegmentChar_of_isHeadChar hc, hname⟩⟩
    have hcut := splitChars_flatMap '.' hfirst.point_not_mem
      fun seg hseg => (hsegs seg hseg).point_not_mem
    refine Bool.and_eq_true_iff.2 ⟨hc, ?_⟩
    rw [hcut, List.all_eq_true]
    intro seg hseg
    rcases List.mem_cons.1 hseg with rfl | hseg
    · exact isSegment_iff.2 hfirst
    · exact isSegment_iff.2 (hsegs seg hseg)

end LivePanel.Expr
