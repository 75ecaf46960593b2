import Mathlib.Data.List.Basic
import LivePanel.Proofs.Text.Cutting
import LivePanel.Proofs.Value.Ordered
import LivePanel.Source.Basic
import LivePanel.Watch.Scan

/-!
# The names on the way to a file

A file below a directory is known by three things: by the names on the way to it, by the path that
these make below the directory, and by the key that a source has for it. The watcher goes from a
path back to the names, and so does the source. Where the names are such as files have, nothing is
lost on these ways.

## What is proved

* `parts_join`: the parts of a path below a directory are those of the directory, and the names.
* `keyOf?_of_parts`: a source of files has the names, as a relative path, for the key.
* `isTemplate_join_iff`: whether a file is a template for the watcher is decided by its names.
-/

namespace LivePanel

namespace Path

open Text

/-! ### Names -/

/-- A name that a file may have. -/
structure IsName (name : String) : Prop where
  ne_empty : name ≠ ""
  ne_here : name ≠ "."
  ne_up : name ≠ ".."
  slash : '/' ∉ name.toList
  zero : Char.ofNat 0 ∉ name.toList
  short : name.utf8ByteSize ≤ nameLimit

/-- The names on the way to a file: a path of them is not too long. -/
structure AreNames (names : List String) : Prop where
  ne_nil : names ≠ []
  each : ∀ name ∈ names, IsName name
  short : (ofNames names).utf8ByteSize ≤ pathLimit

/-- A name that a path goes down by: what may stand between two slashes and leads neither back nor
nowhere. -/
structure IsPlain (name : String) : Prop where
  ne_empty : name ≠ ""
  ne_here : name ≠ "."
  ne_up : name ≠ ".."
  slash : '/' ∉ name.toList

instance (name : String) : Decidable (IsPlain name) :=
  decidable_of_iff (name ≠ "" ∧ name ≠ "." ∧ name ≠ ".." ∧ '/' ∉ name.toList)
    ⟨fun ⟨h₀, h₁, h₂, h₃⟩ => ⟨h₀, h₁, h₂, h₃⟩,
      fun h => ⟨h.ne_empty, h.ne_here, h.ne_up, h.slash⟩⟩

theorem IsName.plain {name : String} (h : IsName name) : IsPlain name :=
  ⟨h.ne_empty, h.ne_here, h.ne_up, h.slash⟩

theorem AreNames.plain {names : List String} (h : AreNames names) : ∀ name ∈ names, IsPlain name :=
  fun name hn => (h.each name hn).plain

theorem ofNames_cons (name : String) {names : List String} (h : names ≠ []) :
    ofNames (name :: names) = name ++ "/" ++ ofNames names := by
  cases names with
  | nil => exact absurd rfl h
  | cons => rfl

theorem splitAtChar_ofNames {names : List String} (hne : names ≠ [])
    (h : ∀ name ∈ names, IsPlain name) : splitAtChar '/' (ofNames names) = names := by
  induction names with
  | nil => exact absurd rfl hne
  | cons name rest ih =>
    have hname := splitAtChar_of_not_mem '/' (h name List.mem_cons_self).slash
    by_cases hrest : rest = []
    · subst hrest
      exact hname
    · rw [ofNames_cons name hrest, splitAtChar_append '/' "/" rfl, hname,
        ih hrest fun n hn => h n (List.mem_cons_of_mem _ hn)]
      rfl

theorem ofNames_ne_empty {names : List String} (hne : names ≠ [])
    (h : ∀ name ∈ names, IsPlain name) : ofNames names ≠ "" := by
  intro he
  have hs := splitAtChar_ofNames hne h
  rw [he] at hs
  exact (h "" (hs ▸ List.mem_singleton.2 rfl)).ne_empty rfl

theorem partOf?_of_isPlain {name : String} (h : IsPlain name) :
    partOf? name = some (.name name) := by
  unfold partOf?
  rw [if_neg h.ne_empty, if_neg h.ne_here, if_neg h.ne_up]

theorem filterMap_partOf? {names : List String} (h : ∀ name ∈ names, IsPlain name) :
    names.filterMap partOf? = names.map Part.name := by
  rw [List.filterMap_eq_map_iff_forall_eq_some]
  exact fun name hname => partOf?_of_isPlain (h name hname)

theorem names?_map_name (names : List String) : names? (names.map Part.name) = some names :=
  mapM_map_eq_some fun _ _ => rfl

/-! ### Paths below a directory -/

/-- The parts that the first of several segments stands for. -/
def lead (segment : String) : List Part :=
  if segment = "" then [.root] else if segment = "." then [.here] else (partOf? segment).toList

theorem lead_of_isPlain {name : String} (h : IsPlain name) : lead name = [.name name] := by
  rw [lead, if_neg h.ne_empty, if_neg h.ne_here, partOf?_of_isPlain h]
  rfl

/-- The parts of a path, from its first segment on. -/
theorem parts_of_segments {path segment : String} {rest : List String}
    (h : Text.splitAtChar '/' path = segment :: rest) (hne : rest = [] → segment ≠ "") :
    parts path = lead segment ++ rest.filterMap partOf? := by
  unfold parts lead
  rw [h]
  by_cases h₀ : segment = ""
  · obtain ⟨second, rest, rfl⟩ := List.exists_cons_of_ne_nil fun hr => hne hr h₀
    simp [h₀]
  · by_cases h₁ : segment = "."
    · simp [h₁]
    · rw [if_neg h₀, if_neg h₁]
      split
      · rename_i heq
        exact absurd (List.cons.inj heq).1 h₀
      · rename_i heq
        exact absurd (List.cons.inj heq).1 h₁
      · rw [List.filterMap_cons]
        cases partOf? segment <;> rfl

/-- The parts that a path adds to those of a directory when it goes on from there. -/
def partsBelow (path : String) : List Part := (splitAtChar '/' path).filterMap partOf?

theorem partsBelow_ofNames {names : List String} (hne : names ≠ [])
    (h : ∀ name ∈ names, IsPlain name) : partsBelow (ofNames names) = names.map .name := by
  rw [partsBelow, splitAtChar_ofNames hne h, filterMap_partOf? h]

theorem parts_ofNames {names : List String} (hne : names ≠ [])
    (h : ∀ name ∈ names, IsPlain name) : parts (ofNames names) = names.map .name := by
  obtain ⟨name, rest, rfl⟩ := List.exists_cons_of_ne_nil hne
  have hname := h name List.mem_cons_self
  rw [parts_of_segments (splitAtChar_ofNames hne h) fun _ => hname.ne_empty, lead_of_isPlain hname,
    filterMap_partOf? fun n hn => h n (List.mem_cons_of_mem _ hn)]
  rfl

/-- The parts of a path that goes on behind a slash. -/
theorem parts_append {dir : String} (path : String) {segment : String} {rest : List String}
    (hd : Text.splitAtChar '/' dir = segment :: rest) :
    parts (dir ++ "/" ++ path) = lead segment ++ rest.filterMap partOf? ++ partsBelow path := by
  obtain ⟨piece, pieces, hp, -⟩ := Text.exists_splitAtChar '/' path
  have hs : Text.splitAtChar '/' (dir ++ "/" ++ path) = segment :: (rest ++ piece :: pieces) := by
    rw [Text.splitAtChar_append '/' "/" rfl, hd, hp]
    rfl
  rw [parts_of_segments hs (by simp), List.filterMap_append, partsBelow, hp, List.append_assoc]

theorem endsWith_slash_iff (path : String) :
    path.endsWith "/" = true ↔ ∃ front : String, path = front ++ "/" := by
  rw [← String.endsWith_toSlice, String.Slice.endsWith_string_iff, String.copy_toSlice]
  constructor
  · rintro ⟨front, hf⟩
    refine ⟨.ofList front, String.toList_injective ?_⟩
    rw [← hf]
    simp
  · rintro ⟨front, rfl⟩
    exact ⟨front.toList, (String.toList_append ..).symm⟩

/-- A path that begins at the root says so. -/
theorem root_mem_parts {path : String} (h : isAbsolute path = true) : .root ∈ parts path := by
  rw [isAbsolute, String.startsWith_string_iff] at h
  obtain ⟨rest, hrest⟩ := h
  have hpath : path = "" ++ "/" ++ .ofList rest := String.toList_injective (by simp [← hrest])
  obtain ⟨piece, pieces, hp, -⟩ := Text.exists_splitAtChar '/' (.ofList rest)
  have hcut : Text.splitAtChar '/' path = "" :: piece :: pieces := by
    rw [hpath, Text.splitAtChar_append '/' "/" rfl, hp]
    rfl
  unfold parts
  rw [hcut]
  exact List.mem_cons_self

theorem isAbsolute_ofNames {names : List String} (hne : names ≠ [])
    (h : ∀ name ∈ names, IsPlain name) : isAbsolute (ofNames names) = false := by
  rw [← Bool.not_eq_true]
  intro habsolute
  have hroot := root_mem_parts habsolute
  rw [parts_ofNames hne h] at hroot
  simp at hroot

/-- The parts of a path below a directory are those of the directory, and what the path adds. -/
theorem parts_join_of_relative {dir path : String} (hdir : dir ≠ "") (h : isAbsolute path = false) :
    parts (join dir path) = parts dir ++ partsBelow path := by
  unfold join
  rw [h]
  obtain ⟨segment, rest, hd, hfirst⟩ := Text.exists_splitAtChar '/' dir
  by_cases hs : dir.endsWith "/" = true
  · obtain ⟨front, rfl⟩ := (endsWith_slash_iff dir).1 hs
    obtain ⟨segment', rest', hf, -⟩ := Text.exists_splitAtChar '/' front
    have hcut := Text.splitAtChar_append '/' "/" rfl front ""
    rw [String.append_empty, hf] at hcut
    rw [parts_of_segments hcut (by simp [Text.splitAtChar, Text.splitChars])]
    simpa [hdir, hs, partOf?, Text.splitAtChar, Text.splitChars] using parts_append path hf
  · rw [parts_of_segments hd (hfirst hdir)]
    simpa [hdir, hs] using parts_append path hd

/-- **The parts of a path below a directory are those of the directory, and the names.** -/
theorem parts_join (dir : String) {names : List String} (hne : names ≠ [])
    (h : ∀ name ∈ names, IsPlain name) :
    parts (join dir (ofNames names)) = parts dir ++ names.map .name := by
  by_cases hdir : dir = ""
  · subst hdir
    have hjoin : join "" (ofNames names) = ofNames names := by
      simp [join, isAbsolute_ofNames hne h]
    have hempty : parts "" = [] := rfl
    rw [hjoin, parts_ofNames hne h, hempty, List.nil_append]
  · rw [parts_join_of_relative hdir (isAbsolute_ofNames hne h), partsBelow_ofNames hne h]

theorem below?_of_parts {dir path : String} {below : List Part}
    (h : parts path = parts dir ++ below) : below? dir path = some below := by
  unfold below?
  rw [h, if_pos (List.isPrefixOf_iff_prefix.2 (List.prefix_append ..)), List.drop_left]

theorem below?_join (dir : String) {names : List String} (hne : names ≠ [])
    (h : ∀ name ∈ names, IsPlain name) :
    below? dir (join dir (ofNames names)) = some (names.map .name) :=
  below?_of_parts (parts_join dir hne h)

theorem name?_join (dir : String) {names : List String} (hne : names ≠ [])
    (h : ∀ name ∈ names, IsPlain name) :
    name? (join dir (ofNames names)) = names.getLast? := by
  unfold name?
  rw [parts_join dir hne h, List.getLast?_append, List.getLast?_map,
    List.getLast?_eq_some_getLast hne]
  rfl

end Path

open LivePanel.Path

/-- **A source of files has the names, as a relative path, for the key of the file**; the directory
itself has none. -/
theorem Source.keyOf?_of_parts {dir path : String} {names : List String} (canonical : Option String)
    (h : parts path = parts dir ++ names.map .name) :
    Source.keyOf? dir canonical path = if names = [] then none else some (ofNames names) := by
  unfold Source.keyOf?
  rw [below?_of_parts h, Option.some_or]
  dsimp only
  rw [Option.bind_some, names?_map_name]
  cases names <;> rfl

namespace Watch

/-- The names are those of a template: the last one is, and none is passed over. -/
def Names (extensions names : List String) : Prop :=
  ∃ name, names.getLast? = some name ∧ isTemplateName extensions name = true ∧
    ∀ n ∈ names, n ∉ ignoredNames

/-- A file below a directory is a template for the watcher if its names are those of one. -/
theorem isTemplate_join_iff (dir : String) {extensions names : List String} (hne : names ≠ [])
    (h : ∀ name ∈ names, IsPlain name) :
    isTemplate extensions dir (join dir (ofNames names)) = true ↔ Names extensions names := by
  have hkept : isIgnored (names.map .name) = false ↔ ∀ n ∈ names, n ∉ ignoredNames := by
    rw [isIgnored, List.any_map, List.any_eq_false]
    exact forall₂_congr fun n _ => not_congr decide_eq_true_iff
  unfold isTemplate Names
  rw [below?_join dir hne h, name?_join dir hne h, List.getLast?_eq_some_getLast hne,
    Option.getD_some, Bool.and_eq_true_iff, Bool.not_eq_true', hkept, and_comm]
  simp

end Watch

end LivePanel
