import LivePanel.Expr.Interpolate
import LivePanel.Template.Basic
import Mathlib.Data.List.Basic
import Mathlib.Data.List.Induction

/-!
# Texts in the order in which they are first seen

Lists of what was met on a walk hold each text once, at the place of its first occurrence
(`FirstSeen`). A list that is built by adding what is new at the end is of this kind
(`firstSeen_foldl`).
-/

namespace LivePanel

/-- `xs` holds the texts of `all` with the property, each once, in the order in which they first
occur there. -/
structure FirstSeen (P : String → Prop) (all xs : List String) : Prop where
  nodup : xs.Nodup
  mem_iff : ∀ x, x ∈ xs ↔ x ∈ all ∧ P x
  order : xs.Pairwise fun x y => all.idxOf x < all.idxOf y

open Template (addSeen)

theorem addSeen_of_mem {xs : List String} {x : String} (h : x ∈ xs) : addSeen xs x = xs := if_pos h

theorem addSeen_of_not_mem {xs : List String} {x : String} (h : x ∉ xs) :
    addSeen xs x = xs ++ [x] := if_neg h

/-- What is there already stays in front. -/
theorem prefix_foldl_addSeen (xs ys : List String) : xs <+: ys.foldl addSeen xs := by
  induction ys generalizing xs with
  | nil => exact List.prefix_rfl
  | cons y ys ih =>
    refine List.IsPrefix.trans ?_ (ih (addSeen xs y))
    by_cases h : y ∈ xs
    · exact (addSeen_of_mem h).symm ▸ List.prefix_rfl
    · exact (addSeen_of_not_mem h).symm ▸ List.prefix_append ..

theorem mem_foldl_addSeen {xs ys : List String} {x : String} :
    x ∈ ys.foldl addSeen xs ↔ x ∈ xs ∨ x ∈ ys := by
  induction ys generalizing xs with
  | nil => simp
  | cons y ys ih =>
    rw [List.foldl_cons, ih, List.mem_cons, ← or_assoc]
    by_cases h : y ∈ xs
    · rw [addSeen_of_mem h]
      constructor
      · exact Or.imp_left .inl
      · rintro ((hx | rfl) | hx)
        · exact .inl hx
        · exact .inl h
        · exact .inr hx
    · rw [addSeen_of_not_mem h, List.mem_append, List.mem_singleton]

/-- To add what was first seen in a list is to add the list. -/
theorem foldl_addSeen_foldl (xs ys zs : List String) :
    (zs.foldl addSeen ys).foldl addSeen xs = zs.foldl addSeen (ys.foldl addSeen xs) := by
  induction zs generalizing ys with
  | nil => rfl
  | cons z zs ih =>
    rw [List.foldl_cons, List.foldl_cons, ih]
    by_cases h : z ∈ ys
    · rw [addSeen_of_mem h, addSeen_of_mem (mem_foldl_addSeen.2 (.inr h))]
    · rw [addSeen_of_not_mem h, List.foldl_append]
      rfl

namespace FirstSeen

variable {P : String → Prop} {all xs : List String} {x : String}

theorem nil (P : String → Prop) : FirstSeen P [] [] := ⟨.nil, by simp, .nil⟩

/-- What comes later does not change what was seen first. -/
theorem idxOf_append (h : FirstSeen P all xs) (more : List String) {y : String} (hy : y ∈ xs) :
    (all ++ more).idxOf y = all.idxOf y :=
  List.idxOf_append_of_mem ((h.mem_iff y).1 hy).1

theorem order_append (h : FirstSeen P all xs) (more : List String) :
    xs.Pairwise fun x y => (all ++ more).idxOf x < (all ++ more).idxOf y :=
  h.order.imp_of_mem fun hx hy hlt => by rwa [h.idxOf_append more hx, h.idxOf_append more hy]

/-- A text without the property is passed over. -/
theorem skip (h : FirstSeen P all xs) (hx : ¬ P x) : FirstSeen P (all ++ [x]) xs := by
  refine ⟨h.nodup, fun y => ?_, h.order_append [x]⟩
  rw [h.mem_iff, List.mem_append, List.mem_singleton]
  constructor
  · exact And.imp_left .inl
  · rintro ⟨hy | rfl, hP⟩
    · exact ⟨hy, hP⟩
    · exact absurd hP hx

/-- A text with the property is added unless it is there. -/
theorem add (h : FirstSeen P all xs) (hx : P x) : FirstSeen P (all ++ [x]) (addSeen xs x) := by
  by_cases hmem : x ∈ xs
  · rw [addSeen_of_mem hmem]
    refine ⟨h.nodup, fun y => ?_, h.order_append [x]⟩
    rw [h.mem_iff, List.mem_append, List.mem_singleton]
    constructor
    · exact And.imp_left .inl
    · rintro ⟨hy | rfl, hP⟩
      · exact ⟨hy, hP⟩
      · exact (h.mem_iff y).1 hmem
  · have hnew : x ∉ all := fun hall => hmem ((h.mem_iff x).2 ⟨hall, hx⟩)
    rw [addSeen_of_not_mem hmem]
    refine ⟨List.nodup_append.2 ⟨h.nodup, List.pairwise_singleton .., ?_⟩, fun y => ?_, ?_⟩
    · rintro y hy _ hx' rfl
      exact hmem (List.mem_singleton.1 hx' ▸ hy)
    · rw [List.mem_append, List.mem_singleton, h.mem_iff, List.mem_append, List.mem_singleton,
        or_and_right]
      exact or_congr_right ⟨fun hy => ⟨hy, hy ▸ hx⟩, And.left⟩
    · refine List.pairwise_append.2 ⟨h.order_append [x], List.pairwise_singleton .., ?_⟩
      rintro y hy _ hx'
      cases List.mem_singleton.1 hx'
      have hlt : all.idxOf y < all.length := List.idxOf_lt_length_iff.2 ((h.mem_iff y).1 hy).1
      rw [h.idxOf_append [x] hy, List.idxOf_append_of_notMem hnew]
      omega

theorem eq_nil_iff (h : FirstSeen P all xs) : xs = [] ↔ ∀ x ∈ all, ¬ P x := by
  rw [List.eq_nil_iff_forall_not_mem]
  exact forall_congr' fun x => by rw [h.mem_iff, not_and]

end FirstSeen

/-- **What is added where it is new is what is first seen.** -/
theorem firstSeen_foldl (p : String → Bool) (all : List String) :
    FirstSeen (p · = true) all ((all.filter p).foldl addSeen []) := by
  induction all using List.reverseRecOn with
  | nil => exact .nil _
  | append_singleton all x ih =>
    rw [List.filter_append, List.foldl_append, List.filter_singleton]
    cases hx : p x with
    | true => exact ih.add hx
    | false => exact ih.skip (by simp [hx])

end LivePanel
