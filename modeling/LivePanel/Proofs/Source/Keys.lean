import LivePanel.Proofs.File.Names

/-!
# Keys of files

A source of files goes from a key to a path, and from a path back to a key. A key is any text: it
may have slashes that follow one another, points, and a slash at its end. Only its names count, and
a key that does anything but go down by names has no path.

## What is proved

* `parts_of_pathOf`: the path behind a key goes from the root down by the names of the key.
* `parts_of_keyOf?`: a path below the root that has a key goes down by the names of the key.
* `keys_and_paths`: keys and paths go back and forth without loss.
-/

namespace LivePanel

namespace Path

/-! ### What a path says of itself and below a directory -/

/-- A path adds its own parts to those of a directory, less the root or the point in front. -/
theorem parts_cases (path : String) :
    parts path = .root :: partsBelow path ∨ parts path = .here :: partsBelow path ∨
      parts path = partsBelow path := by
  unfold parts partsBelow
  split
  · rename_i hcut
    left
    rw [hcut]
    rfl
  · rename_i hcut
    right
    left
    rw [hcut]
    rfl
  · right
    right
    rfl

theorem partsBelow_subset (path : String) : partsBelow path ⊆ parts path := by
  intro p hp
  rcases parts_cases path with h | h | h <;> simp [h, hp]

/-- Below a directory a path goes down by plain names, or up. -/
theorem mem_partsBelow {path : String} {p : Part} (h : p ∈ partsBelow path) :
    p = .up ∨ ∃ name, p = .name name ∧ IsPlain name := by
  obtain ⟨segment, hsegment, hp⟩ := List.mem_filterMap.1 h
  unfold partOf? at hp
  by_cases hempty : segment = ""
  · simp [hempty] at hp
  by_cases hhere : segment = "."
  · simp [hhere] at hp
  by_cases hup : segment = ".."
  · left
    simpa [hup] using hp.symm
  · right
    have hslash := Text.not_mem_of_mem_splitAtChar '/' hsegment
    exact ⟨segment, by simpa [hempty, hhere, hup] using hp.symm, hempty, hhere, hup, hslash⟩

/-- The names in a path are plain. -/
theorem isPlain_of_mem_parts {path name : String} (h : .name name ∈ parts path) : IsPlain name := by
  have hbelow : .name name ∈ partsBelow path := by
    rcases parts_cases path with hp | hp | hp <;> simpa [hp] using h
  rcases mem_partsBelow hbelow with hup | ⟨name', hsame, hplain⟩
  · cases hup
  · cases hsame
    exact hplain

theorem isPlain_of_parts {path : String} {front : List Part} {names : List String}
    (h : parts path = front ++ names.map .name) : ∀ name ∈ names, IsPlain name := by
  intro name hname
  have hmem : .name name ∈ parts path := by
    rw [h]
    exact List.mem_append_right _ (List.mem_map_of_mem hname)
  exact isPlain_of_mem_parts hmem

/-- The names in a path. -/
def namesIn (path : String) : List String := (parts path).filterMap Part.name?

theorem namesIn_eq (path : String) : namesIn path = (partsBelow path).filterMap Part.name? := by
  unfold namesIn
  rcases parts_cases path with h | h | h <;> rw [h] <;> rfl

theorem map_name_filterMap_name? {ps : List Part} (h : ∀ p ∈ ps, ∃ name, p = .name name) :
    (ps.filterMap Part.name?).map Part.name = ps := by
  induction ps with
  | nil => rfl
  | cons p ps ih =>
    obtain ⟨⟨name, rfl⟩, hrest⟩ := List.forall_mem_cons.1 h
    simp [Part.name?, ih hrest]

/-- Names that make the same path below a directory are the same. -/
theorem ofNames_inj {names names' : List String} (hne : names ≠ []) (hne' : names' ≠ [])
    (h : ∀ name ∈ names, IsPlain name) (h' : ∀ name ∈ names', IsPlain name)
    (hsame : ofNames names = ofNames names') : names = names' := by
  rw [← splitAtChar_ofNames hne h, hsame, splitAtChar_ofNames hne' h']

end Path

namespace Source

open LivePanel.Path

variable {root key path : String}

/-! ### From a key to a path -/

theorem staysInside_iff {p : Part} : staysInside p = true ↔ p = .here ∨ ∃ name, p = .name name := by
  cases p <;> simp [staysInside]

theorem pathOf_eq_ok_iff : pathOf root key = .ok path ↔
    (key ≠ "" ∧ ∀ p ∈ parts key, p = .here ∨ ∃ name, p = .name name) ∧ join root key = path := by
  have hall : (∀ p ∈ parts key, p = .here ∨ ∃ name, p = .name name) ↔
      (parts key).all staysInside = true := by
    rw [List.all_eq_true]
    exact forall₂_congr fun p _ => staysInside_iff.symm
  rw [hall]
  unfold pathOf
  by_cases hkey : key = "" <;> by_cases hinside : (parts key).all staysInside = true <;>
    simp [hkey, hinside]

/-- **The path behind a key goes from the root down by the names of the key.** -/
theorem parts_of_pathOf (hroot : root ≠ "") (h : pathOf root key = .ok path) :
    parts path = parts root ++ (namesIn key).map .name := by
  obtain ⟨⟨-, hinside⟩, rfl⟩ := pathOf_eq_ok_iff.1 h
  have hrelative : isAbsolute key = false := by
    rw [← Bool.not_eq_true]
    intro habsolute
    simpa using hinside .root (root_mem_parts habsolute)
  have hnames : ∀ p ∈ partsBelow key, ∃ name, p = .name name := by
    intro p hp
    rcases mem_partsBelow hp with rfl | ⟨name, rfl, -⟩
    · simpa using hinside .up (partsBelow_subset key hp)
    · exact ⟨name, rfl⟩
  rw [parts_join_of_relative hroot hrelative, namesIn_eq, map_name_filterMap_name? hnames]

/-! ### From a path to a key -/

variable {canonical : Option String} {names : List String}

/-- Parts that are all names are made of them. -/
theorem eq_map_name_of_names? {ps : List Part} (h : names? ps = some names) :
    ps = names.map .name := by
  have hmap := map_eq_of_mapM (w := Part.name) (g := id) h fun p _ name hname => by
    cases p with
    | root | here | up => cases hname
    | name =>
      cases hname
      rfl
  rw [hmap, List.map_id]

/-- A path below the root that has a key goes from the root down by the names of the key. -/
theorem parts_of_keyOf? (hunder : parts root <+: parts path)
    (h : keyOf? root canonical path = some key) :
    ∃ names, names ≠ [] ∧ parts path = parts root ++ names.map .name ∧ key = ofNames names := by
  obtain ⟨below, hbelow⟩ := hunder
  unfold keyOf? at h
  rw [below?_of_parts hbelow.symm, Option.some_or] at h
  dsimp only at h
  rw [Option.bind_some] at h
  split at h
  · rename_i name rest hnames
    refine ⟨name :: rest, by simp, ?_, (Option.some.inj h).symm⟩
    rw [← hbelow, eq_map_name_of_names? hnames]
  · cases h

/-! ### Back and forth -/

/-- **Keys and paths go back and forth.** A key has a path if it is not empty and only goes down by
names, points apart, and the path goes from the root down by these names. The names are the key of
the path, where there are any. Every path that goes from the root down by names has a key, whose
path it is; so no two paths below the root have the same key. -/
theorem keys_and_paths {root : String} (hroot : root ≠ "") (canonical : Option String) :
    (∀ key, (∃ path, pathOf root key = .ok path) ↔
      key ≠ "" ∧ ∀ p ∈ parts key, p = .here ∨ ∃ name, p = .name name) ∧
    (∀ key path, pathOf root key = .ok path →
      parts path = parts root ++ (namesIn key).map .name ∧
      keyOf? root canonical path =
        if namesIn key = [] then none else some (Text.joinWith "/" (namesIn key))) ∧
    (∀ path names, names ≠ [] → parts path = parts root ++ names.map .name →
      ∃ key again, keyOf? root canonical path = some key ∧ pathOf root key = .ok again ∧
        parts again = parts path) ∧
    ∀ path path' key, parts root <+: parts path → parts root <+: parts path' →
      keyOf? root canonical path = some key → keyOf? root canonical path' = some key →
      parts path = parts path' := by
  refine ⟨fun key => ?_, fun key path h => ?_, fun path names hne h => ?_,
    fun path path' key hunder hunder' h h' => ?_⟩
  · simp only [pathOf_eq_ok_iff, exists_and_left, exists_eq', and_true]
  · have hparts := parts_of_pathOf hroot h
    exact ⟨hparts, keyOf?_of_parts canonical hparts⟩
  · have hplain := isPlain_of_parts h
    have hkey := keyOf?_of_parts canonical h
    rw [if_neg hne] at hkey
    refine ⟨ofNames names, join root (ofNames names), hkey,
      pathOf_eq_ok_iff.2 ⟨⟨ofNames_ne_empty hne hplain, ?_⟩, rfl⟩, ?_⟩
    · rw [parts_ofNames hne hplain]
      simp
    · rw [parts_join root hne hplain, h]
  · obtain ⟨names, hne, hparts, rfl⟩ := parts_of_keyOf? hunder h
    obtain ⟨names', hne', hparts', hsame⟩ := parts_of_keyOf? hunder' h'
    have hnames :=
      ofNames_inj hne hne' (isPlain_of_parts hparts) (isPlain_of_parts hparts') hsame
    rw [hparts, hparts', hnames]

theorem keys_and_paths_panels :
    "/srv/panels" ≠ "" ∧
      pathOf "/srv/panels" "./team//a.yaml" = .ok "/srv/panels/./team//a.yaml" ∧
      keyOf? "/srv/panels" none "/srv/panels/./team//a.yaml" = some "team/a.yaml" ∧
      (∃ key again, keyOf? "/srv/panels" none "/srv/panels/b.yaml" = some key ∧
        pathOf "/srv/panels" key = .ok again ∧ parts again = parts "/srv/panels/b.yaml") ∧
      (¬ ∃ path, pathOf "/srv/panels" "../secret.yaml" = .ok path) ∧
      ¬ ∃ path, pathOf "/srv/panels" "/etc/passwd" = .ok path := by
  obtain ⟨hok, hpath, hback, -⟩ := keys_and_paths (by decide : "/srv/panels" ≠ "") none
  have hjoin : pathOf "/srv/panels" "./team//a.yaml" = .ok "/srv/panels/./team//a.yaml" := by
    decide +kernel
  refine ⟨by decide, hjoin, ?_, hback _ ["b.yaml"] (by decide) (by decide +kernel), ?_, ?_⟩
  · rw [(hpath _ _ hjoin).2]
    decide +kernel
  · intro h
    have hup : Part.up ∈ parts "../secret.yaml" := by decide +kernel
    simpa using ((hok _).1 h).2 _ hup
  · intro h
    have hrooted : Part.root ∈ parts "/etc/passwd" := by decide +kernel
    simpa using ((hok _).1 h).2 _ hrooted

end Source

end LivePanel
