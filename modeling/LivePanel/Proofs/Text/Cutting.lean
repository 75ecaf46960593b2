import LivePanel.Text.Blank
import LivePanel.Text.Split

/-!
# Pieces of text, and trimmed text

What cutting at a separator gives: one piece where the separator does not occur, and for two texts
with the separator between them the pieces of the one and then those of the other. The separator
stands in no piece. What is left of a text when its head is taken off, and when the blanks at its ends
are: `t` with blanks around it, where `t` neither begins nor ends with one (`trimChars_eq_iff`).
-/

namespace LivePanel

namespace Text

variable (sep : Char)

theorem splitChars_of_not_mem {cs : List Char} (h : sep ∉ cs) : splitChars sep cs = [cs] := by
  induction cs with
  | nil => rfl
  | cons c cs ih =>
    obtain ⟨hc, hcs⟩ := not_or.1 (mt List.mem_cons.2 h)
    simp [splitChars, Ne.symm hc, ih hcs]

theorem splitChars_append (as bs : List Char) :
    splitChars sep (as ++ sep :: bs) = splitChars sep as ++ splitChars sep bs := by
  induction as with
  | nil => simp [splitChars]
  | cons a as ih =>
    rw [List.cons_append, splitChars, splitChars]
    split
    · rw [ih, List.cons_append]
    · obtain ⟨piece, pieces, hp⟩ := List.exists_cons_of_ne_nil (splitChars_ne_nil sep as)
      rw [ih, hp]
      rfl

/-- Pieces without the separator in them, with the separator between them, are cut there. -/
theorem splitChars_flatMap {first : List Char} {others : List (List Char)} (h : sep ∉ first)
    (hothers : ∀ piece ∈ others, sep ∉ piece) :
    splitChars sep (first ++ others.flatMap (sep :: ·)) = first :: others := by
  induction others generalizing first with
  | nil => rw [List.flatMap_nil, List.append_nil, splitChars_of_not_mem sep h]
  | cons piece others ih =>
    obtain ⟨hpiece, hrest⟩ := List.forall_mem_cons.1 hothers
    rw [List.flatMap_cons, List.cons_append, splitChars_append, splitChars_of_not_mem sep h,
      ih hpiece hrest]
    rfl

/-- A text is its pieces with the separator between them. -/
theorem eq_of_splitChars {cs first : List Char} {others : List (List Char)}
    (h : splitChars sep cs = first :: others) : cs = first ++ others.flatMap (sep :: ·) := by
  induction cs generalizing first others with
  | nil =>
    obtain ⟨rfl, rfl⟩ := List.cons.inj h
    rfl
  | cons c cs ih =>
    rw [splitChars] at h
    split at h
    · rename_i hc
      obtain ⟨rfl, rfl⟩ := List.cons.inj h
      obtain ⟨piece, rest, hcut⟩ := List.exists_cons_of_ne_nil (splitChars_ne_nil sep cs)
      rw [hcut, List.flatMap_cons, List.nil_append, hc, List.cons_append, ← ih hcut]
    · obtain ⟨piece, rest, hcut⟩ := List.exists_cons_of_ne_nil (splitChars_ne_nil sep cs)
      rw [hcut] at h
      obtain ⟨rfl, rfl⟩ := List.cons.inj h
      rw [List.cons_append, ← ih hcut]

/-- Only nothing is cut into one piece with nothing in it. -/
theorem eq_nil_of_splitChars {cs : List Char} (h : splitChars sep cs = [[]]) : cs = [] := by
  cases cs with
  | nil => rfl
  | cons c cs =>
    rw [splitChars] at h
    split at h
    · exact absurd (List.cons.inj h).2 (splitChars_ne_nil sep cs)
    · split at h <;> cases h

/-- The separator stands in no piece. -/
theorem not_mem_of_mem_splitChars {cs piece : List Char} (h : piece ∈ splitChars sep cs) :
    sep ∉ piece := by
  induction cs generalizing piece with
  | nil => simp_all [splitChars]
  | cons c cs ih =>
    obtain ⟨first, others, hcut⟩ := List.exists_cons_of_ne_nil (splitChars_ne_nil sep cs)
    rw [splitChars] at h
    split at h
    · rcases List.mem_cons.1 h with rfl | h
      · simp
      · exact ih h
    · rename_i hc
      rw [hcut] at h
      rcases List.mem_cons.1 h with rfl | h
      · simpa [Ne.symm hc] using ih (hcut ▸ List.mem_cons_self)
      · exact ih (hcut ▸ List.mem_cons_of_mem _ h)

/-- A text has a first piece; it is empty only if others follow, or the text is empty. -/
theorem exists_splitAtChar (s : String) :
    ∃ piece rest, splitAtChar sep s = piece :: rest ∧ (s ≠ "" → rest = [] → piece ≠ "") := by
  obtain ⟨piece, rest, h⟩ := List.exists_cons_of_ne_nil (splitChars_ne_nil sep s.toList)
  refine ⟨.ofList piece, rest.map .ofList, by rw [splitAtChar, h, List.map_cons], ?_⟩
  intro hs hrest hpiece
  have hp : piece = [] := by simpa using hpiece
  rw [hp, List.map_eq_nil_iff.1 hrest] at h
  exact hs (String.toList_eq_nil_iff.1 (eq_nil_of_splitChars sep h))

theorem splitAtChar_of_not_mem {s : String} (h : sep ∉ s.toList) : splitAtChar sep s = [s] := by
  simp [splitAtChar, splitChars_of_not_mem sep h]

theorem not_mem_of_mem_splitAtChar {s piece : String} (h : piece ∈ splitAtChar sep s) :
    sep ∉ piece.toList := by
  obtain ⟨cs, hcs, rfl⟩ := List.mem_map.1 h
  simpa using not_mem_of_mem_splitChars sep hcs

theorem splitAtChar_append (mark : String) (h : mark.toList = [sep]) (a b : String) :
    splitAtChar sep (a ++ mark ++ b) = splitAtChar sep a ++ splitAtChar sep b := by
  have hab : (a ++ mark ++ b).toList = a.toList ++ sep :: b.toList := by simp [h]
  unfold splitAtChar
  rw [hab, splitChars_append, List.map_append]

/-! ### Heads and tails -/

theorem dropHead?_eq_some_iff {head cs rest : List Char} :
    dropHead? head cs = some rest ↔ cs = head ++ rest :=
  ⟨eq_append_of_dropHead?, fun h => h ▸ dropHead?_append head rest⟩

theorem dropTail?_eq_some_iff {tail cs rest : List Char} :
    dropTail? tail cs = some rest ↔ cs = rest ++ tail := by
  rw [dropTail?, Option.map_eq_some_iff]
  constructor
  · rintro ⟨reversed, hcs, rfl⟩
    rw [dropHead?_eq_some_iff] at hcs
    rw [← List.reverse_reverse cs, hcs, List.reverse_append, List.reverse_reverse]
  · rintro rfl
    exact ⟨rest.reverse, by rw [dropHead?_eq_some_iff, List.reverse_append],
      List.reverse_reverse rest⟩

theorem dropPrefix?_eq_some_iff {head s rest : String} :
    dropPrefix? head s = some rest ↔ s = head ++ rest := by
  rw [dropPrefix?, Option.map_eq_some_iff]
  constructor
  · rintro ⟨cs, hcs, rfl⟩
    rw [dropHead?_eq_some_iff] at hcs
    exact String.toList_inj.1 (by simpa using hcs)
  · rintro rfl
    exact ⟨rest.toList, by rw [dropHead?_eq_some_iff, String.toList_append], String.ofList_toList⟩

/-! ### Trimmed text -/

/-- All characters are blank. -/
def Blanks (cs : List Char) : Prop := ∀ c ∈ cs, isBlank c = true

/-- `cs` is `t` with blanks around it, and `t` neither begins nor ends with one. -/
def Trims (cs t : List Char) : Prop :=
  ∃ before after, cs = before ++ t ++ after ∧ Blanks before ∧ Blanks after ∧
    (∀ c ∈ t.head?, isBlank c = false) ∧ ∀ c ∈ t.getLast?, isBlank c = false

theorem trimStartChars_append {before : List Char} (h : Blanks before) (cs : List Char) :
    trimStartChars (before ++ cs) = trimStartChars cs := by
  induction before with
  | nil => rfl
  | cons c before ih =>
    rw [List.cons_append, trimStartChars, if_pos (h c List.mem_cons_self)]
    exact ih fun d hd => h d (List.mem_cons_of_mem _ hd)

theorem trimStartChars_of_head {cs : List Char} (h : ∀ c ∈ cs.head?, isBlank c = false) :
    trimStartChars cs = cs := by
  cases cs with
  | nil => rfl
  | cons c cs => exact trimStartChars_of_not_blank cs (h c rfl)

/-- The blanks at the start are all that is taken off there. -/
theorem exists_trimStartChars (cs : List Char) : ∃ before, cs = before ++ trimStartChars cs ∧
    Blanks before ∧ ∀ c ∈ (trimStartChars cs).head?, isBlank c = false := by
  induction cs with
  | nil => exact ⟨[], rfl, by simp [Blanks], by simp [trimStartChars]⟩
  | cons c cs ih =>
    rw [trimStartChars]
    split
    · rename_i hc
      obtain ⟨before, hcs, hbefore, hhead⟩ := ih
      exact ⟨c :: before, congrArg (c :: ·) hcs, List.forall_mem_cons.2 ⟨hc, hbefore⟩, hhead⟩
    · rename_i hc
      exact ⟨[], rfl, by simp [Blanks], by simpa using hc⟩

theorem trimEndChars_append {t after : List Char} (h : Blanks after)
    (ht : ∀ c ∈ t.getLast?, isBlank c = false) : trimEndChars (t ++ after) = t := by
  have hafter : Blanks after.reverse := fun c hc => h c (List.mem_reverse.1 hc)
  rw [trimEndChars, List.reverse_append, trimStartChars_append hafter,
    trimStartChars_of_head (by simpa using ht), List.reverse_reverse]

/-- The blanks at the end are all that is taken off there. -/
theorem exists_trimEndChars (cs : List Char) : ∃ after, cs = trimEndChars cs ++ after ∧
    Blanks after ∧ ∀ c ∈ (trimEndChars cs).getLast?, isBlank c = false := by
  obtain ⟨before, hcs, hbefore, hhead⟩ := exists_trimStartChars cs.reverse
  refine ⟨before.reverse, ?_, fun c hc => hbefore c (List.mem_reverse.1 hc), ?_⟩
  · rw [trimEndChars, ← List.reverse_append, ← hcs, List.reverse_reverse]
  · simpa [trimEndChars] using hhead

/-- **Trimming gives the text that there are only blanks around.** -/
theorem trimChars_eq_iff {cs t : List Char} : trimChars cs = t ↔ Trims cs t := by
  constructor
  · rintro rfl
    obtain ⟨before, hcs, hbefore, hhead⟩ := exists_trimStartChars cs
    obtain ⟨after, hcs', hafter, hlast⟩ := exists_trimEndChars (trimStartChars cs)
    refine ⟨before, after, ?_, hbefore, hafter, fun c hc => hhead c ?_, hlast⟩
    · rw [List.append_assoc, trimChars, ← hcs', ← hcs]
    · rw [hcs', Option.mem_def, List.head?_append]
      exact Option.or_eq_some_iff.2 (.inl hc)
  · rintro ⟨before, after, rfl, hbefore, hafter, hhead, hlast⟩
    rw [List.append_assoc, trimChars, trimStartChars_append hbefore]
    cases t with
    | nil =>
      have h := trimStartChars_append hafter []
      rw [List.append_nil] at h
      rw [List.nil_append, h]
      rfl
    | cons c t =>
      rw [List.cons_append, trimStartChars_of_not_blank _ (hhead c rfl), ← List.cons_append]
      exact trimEndChars_append hafter hlast

end Text

end LivePanel
