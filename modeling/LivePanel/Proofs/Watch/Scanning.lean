import Mathlib.Data.List.Nodup
import LivePanel.Proofs.File.Names
import LivePanel.Proofs.Value.Ordered

/-!
# What a scan finds

A scan does not look into directories that are passed over, nor into those that cannot be read, and
follows no links. Whether a file is a template is decided by all the names on the way to it; what is
neither a file nor a directory never is one. The two agree: a scan gives what one gets who goes
everywhere and keeps the templates.

## What is proved

* `mem_everyFile`: to go everywhere gives the files that are reached, each once.
* `collect_eq_filter`: a collection is what is left of this when only templates are kept.
* `pairwise_scan`: a scan is in order.
* `scan_eq_filter`: a scan gives the templates among the files that are reached.
-/

namespace LivePanel

open LivePanel.Path

/-! ### Trees -/

/-- A property holds of every entry if directories have it from what is in them, and all others
without more. -/
@[elab_as_elim]
theorem Entry.induction {motive : Entry → Prop}
    (file : ∀ content modified, motive (.file content modified))
    (special : ∀ content modified, motive (.special content modified))
    (link : ∀ target, motive (.link target))
    (directory : ∀ readable entries, (∀ x ∈ entries, motive x.2) →
      motive (.directory readable entries))
    (e : Entry) : motive e :=
  @Entry.rec motive (fun entries => ∀ x ∈ entries, motive x.2) (fun x => motive x.2)
    file special link directory
    (fun _ h => nomatch h) (fun _ _ hx hrest => List.forall_mem_cons.2 ⟨hx, hrest⟩)
    (fun _ _ he => he) e

/-- A tree as there is on a disk: in every directory the names are different from one another, and
plain. -/
inductive Entry.WellNamed : Entry → Prop where
  | file (content : ByteArray) (modified : Nat) : WellNamed (.file content modified)
  | special (content : ByteArray) (modified : Nat) : WellNamed (.special content modified)
  | link (target : String) : WellNamed (.link target)
  | directory {entries : List (String × Entry)} (readable : Bool)
      (distinct : (entries.map (·.1)).Nodup) (plain : ∀ x ∈ entries, IsPlain x.1)
      (below : ∀ x ∈ entries, WellNamed x.2) : WellNamed (.directory readable entries)

/-- The names lead down to a file with the content, through directories that can be read and over no
link. -/
inductive Entry.Reaches : Entry → List String → ByteArray → Prop where
  | here {content : ByteArray} {modified : Nat} : Reaches (.file content modified) [] content
  | inside {entries : List (String × Entry)} {name : String} {e : Entry} {names : List String}
      {content : ByteArray} : (name, e) ∈ entries → Reaches e names content →
        Reaches (.directory true entries) (name :: names) content

theorem Entry.Reaches.plain {e : Entry} {names : List String} {content : ByteArray}
    (h : e.Reaches names content) (he : e.WellNamed) : ∀ name ∈ names, IsPlain name := by
  induction h with
  | here => exact fun _ h => nomatch h
  | inside hmem _ ih =>
    cases he with
    | directory _ _ hplain hbelow =>
      exact List.forall_mem_cons.2 ⟨hplain _ hmem, ih (hbelow _ hmem)⟩

theorem Entry.Reaches.ne_nil {readable : Bool} {entries : List (String × Entry)}
    {names : List String} {content : ByteArray}
    (h : Reaches (.directory readable entries) names content) : names ≠ [] := by
  cases h
  exact List.cons_ne_nil _ _

namespace Watch

/-! ### Going everywhere -/

mutual
/-- All files in an entry that stands under a path of names. -/
def everyFile (path : List String) : Entry → List Found
  | .file content _ => [⟨path, content⟩]
  | .special .. => []
  | .link _ => []
  | .directory readable entries => if readable then everyFileIn path entries else []

/-- All files in the entries of a directory. -/
def everyFileIn (path : List String) : List (String × Entry) → List Found
  | [] => []
  | (name, e) :: rest => everyFile (path ++ [name]) e ++ everyFileIn path rest
end

theorem everyFileIn_eq (path : List String) (entries : List (String × Entry)) :
    everyFileIn path entries = entries.flatMap fun x => everyFile (path ++ [x.1]) x.2 := by
  induction entries with
  | nil => rfl
  | cons x rest ih => rw [everyFileIn, ih, List.flatMap_cons]

/-- **To go everywhere gives the files that are reached.** -/
theorem mem_everyFile {path : List String} {e : Entry} {f : Found} :
    f ∈ everyFile path e ↔ ∃ names, f.names = path ++ names ∧ e.Reaches names f.content := by
  induction e using Entry.induction generalizing path with
  | file content modified =>
    obtain ⟨names, content'⟩ := f
    simp only [everyFile, List.mem_singleton, Found.mk.injEq]
    constructor
    · rintro ⟨rfl, rfl⟩
      exact ⟨[], by simp, .here⟩
    · rintro ⟨_, rfl, h⟩
      cases h
      simp
  | special | link =>
    simp only [everyFile, List.not_mem_nil, false_iff]
    rintro ⟨_, _, h⟩
    cases h
  | directory readable entries ih =>
    cases readable with
    | false =>
      simp only [everyFile, Bool.false_eq_true, if_false, List.not_mem_nil, false_iff]
      rintro ⟨_, _, h⟩
      cases h
    | true =>
      simp only [everyFile, if_true, everyFileIn_eq, List.mem_flatMap]
      constructor
      · rintro ⟨⟨name, e⟩, hmem, hf⟩
        obtain ⟨names, hnames, hreach⟩ := (ih _ hmem).1 hf
        exact ⟨name :: names, by simp [hnames], .inside hmem hreach⟩
      · rintro ⟨_, hnames, h⟩
        cases h with
        | inside hmem hreach =>
          exact ⟨_, hmem, (ih _ hmem).2 ⟨_, by simp [hnames], hreach⟩⟩

/-- Where the names in every directory are different, no file is met twice. -/
theorem nodup_everyFile {e : Entry} (h : e.WellNamed) (path : List String) :
    ((everyFile path e).map (·.names)).Nodup := by
  induction h generalizing path with
  | file => simp [everyFile]
  | special | link => simp [everyFile]
  | @directory entries readable hdistinct _ _ ih =>
    cases readable with
    | false => simp [everyFile]
    | true =>
      simp only [everyFile, if_true, everyFileIn_eq, List.map_flatMap]
      refine List.nodup_flatMap.2 ⟨fun x hx => ih x hx _, ?_⟩
      refine (List.pairwise_map.1 hdistinct).imp fun {x y} hne => ?_
      intro names hx hy
      obtain ⟨f, hf, rfl⟩ := List.mem_map.1 hx
      obtain ⟨g, hg, hsame⟩ := List.mem_map.1 hy
      obtain ⟨below, hbelow, -⟩ := mem_everyFile.1 hf
      obtain ⟨below', hbelow', -⟩ := mem_everyFile.1 hg
      simp only [hbelow, hbelow', List.append_assoc, List.append_cancel_left_eq] at hsame
      exact hne (List.cons.inj hsame).1.symm

/-! ### Passing over -/

instance (extensions names : List String) : Decidable (Names extensions names) :=
  decidable_of_iff
    (names.getLast?.any (isTemplateName extensions) = true ∧ ∀ n ∈ names, n ∉ ignoredNames)
    (by
      unfold Names
      cases names.getLast? <;> simp)

/-- What is below a name that is passed over is no template. -/
theorem filter_everyFile_of_ignored {extensions path : List String} {name : String}
    (h : name ∈ ignoredNames) (e : Entry) :
    ((everyFile (path ++ [name]) e).filter fun f => Names extensions f.names) = [] := by
  rw [List.filter_eq_nil_iff]
  intro f hf
  obtain ⟨names, hnames, -⟩ := mem_everyFile.1 hf
  rw [decide_eq_true_iff]
  rintro ⟨_, _, _, hall⟩
  exact hall name (by simp [hnames]) h

theorem collect_file (extensions path : List String) (content : ByteArray) (modified : Nat) :
    collect extensions path (.file content modified) =
      if Names extensions path then [⟨path, content⟩] else [] := by
  rw [collect]
  by_cases h : Names extensions path
  · obtain ⟨name, hlast, hname, hall⟩ := id h
    simp only [hlast, hname, if_pos h]
    simpa using hall
  · rw [if_neg h]
    cases hlast : path.getLast? with
    | none => rfl
    | some name =>
      refine if_neg fun hc => h ⟨name, hlast, ?_⟩
      simpa using hc

/-- What is collected in a directory is what is left of all files in it when the templates are kept,
if it is so for each of the entries. -/
theorem collectAll_eq_filter {extensions : List String} {entries : List (String × Entry)}
    (h : ∀ x ∈ entries, ∀ path,
      collect extensions path x.2 = (everyFile path x.2).filter fun f => Names extensions f.names)
    (path : List String) :
    collectAll extensions path entries =
      (everyFileIn path entries).filter fun f => Names extensions f.names := by
  induction entries with
  | nil => rfl
  | cons x rest ih =>
    obtain ⟨name, e⟩ := x
    obtain ⟨hx, hrest⟩ := List.forall_mem_cons.1 h
    rw [everyFileIn, List.filter_append, ← ih hrest]
    cases e with
    | file => rw [collectAll, hx]; exact nofun
    | special => rw [collectAll, hx]; exact nofun
    | link => rw [collectAll, hx]; exact nofun
    | directory readable inside =>
      rw [collectAll]
      split
      · rename_i hignored
        rw [filter_everyFile_of_ignored hignored]
      · rw [hx]

/-- **Passing directories over makes no difference**: what is collected is what is left of all files
when the templates are kept. -/
theorem collect_eq_filter (extensions path : List String) (e : Entry) :
    collect extensions path e =
      (everyFile path e).filter fun f => Names extensions f.names := by
  induction e using Entry.induction generalizing path with
  | file content modified =>
    rw [collect_file, everyFile]
    split <;> simp [*]
  | special | link =>
    rw [collect, everyFile]
    rfl
  | directory readable entries ih =>
    rw [collect, everyFile]
    split
    · exact collectAll_eq_filter (fun x hx path => ih x hx path) path
    · rfl

/-- Names are in order if they are the same, or the first come before the others by the first place
where they differ. -/
theorem inOrder_iff {as bs : List String} :
    inOrder as bs = true ↔ as = bs ∨ List.Lex (· < ·) as bs := by
  induction as generalizing bs with
  | nil =>
    refine iff_of_true rfl ?_
    cases bs with
    | nil => exact .inl rfl
    | cons => exact .inr .nil
  | cons a as ih =>
    cases bs with
    | nil =>
      refine iff_of_false Bool.false_ne_true ?_
      rintro (h | h) <;> cases h
    | cons b bs =>
      rw [inOrder]
      by_cases hab : a = b
      · subst hab
        rw [if_pos rfl, ih]
        constructor
        · rintro (rfl | h)
          · exact .inl rfl
          · exact .inr (.cons h)
        · rintro (h | h)
          · exact .inl (List.cons.inj h).2
          · cases h with
            | rel h => exact absurd h (String.lt_irrefl a)
            | cons h => exact .inr h
      · rw [if_neg hab, decide_eq_true_iff]
        constructor
        · intro h
          exact .inr (.rel h)
        · rintro (h | h)
          · exact absurd (List.cons.inj h).1 hab
          · cases h with
            | rel h => exact h
            | cons => exact absurd rfl hab

theorem inOrder_trans {as bs cs : List String} (h : inOrder as bs = true)
    (h' : inOrder bs cs = true) : inOrder as cs = true := by
  rcases inOrder_iff.1 h with rfl | hab
  · exact h'
  rcases inOrder_iff.1 h' with rfl | hbc
  · exact h
  exact inOrder_iff.2 (.inr (List.lex_trans String.lt_trans hab hbc))

theorem inOrder_total (as bs : List String) : (inOrder as bs || inOrder bs as) = true := by
  induction as generalizing bs with
  | nil => rfl
  | cons a as ih =>
    cases bs with
    | nil => rfl
    | cons b bs =>
      rw [inOrder, inOrder]
      by_cases hab : a = b
      · rw [if_pos hab, if_pos hab.symm]
        exact ih bs
      · rw [if_neg hab, if_neg (Ne.symm hab), Bool.or_eq_true, decide_eq_true_iff,
          decide_eq_true_iff]
        by_cases hlt : b < a
        · exact .inr hlt
        · exact .inl (Table.lt_of_not_lt hab hlt)

/-- **A scan is in order, and no file is in it twice.** -/
theorem pairwise_scan {e : Entry} (h : e.WellNamed) (extensions : List String) :
    (scan extensions e).Pairwise fun f g => List.Lex (· < ·) f.names g.names := by
  have hsorted : (scan extensions e).Pairwise fun f g => inOrder f.names g.names = true := by
    apply List.pairwise_mergeSort
    · exact fun _ _ _ => inOrder_trans
    · exact fun f g => inOrder_total f.names g.names
  have hcollect : ((collect extensions [] e).map (·.names)).Nodup := by
    rw [collect_eq_filter]
    exact (nodup_everyFile h []).sublist (List.filter_sublist.map _)
  have hdistinct : ((scan extensions e).map (·.names)).Nodup :=
    ((List.mergeSort_perm _ _).map _).nodup_iff.2 hcollect
  refine hsorted.imp₂ (fun f g hle hne => ?_) (List.pairwise_map.1 hdistinct)
  exact (inOrder_iff.1 hle).resolve_left hne

/-! ### Scan and filter -/

/-- **A scan gives, in order, the templates among the files that are reached.** Which these are is
decided by the whole path of each, and to pass directories over on the way changes nothing of it. -/
theorem scan_eq_filter (root : String) (extensions : List String) {readable : Bool}
    {entries : List (String × Entry)} (h : Entry.WellNamed (.directory readable entries)) :
    let dir := Entry.directory readable entries
    let found := scan extensions dir
    (∀ f, f ∈ found ↔ dir.Reaches f.names f.content ∧
      isTemplate extensions root (join root (ofNames f.names)) = true) ∧
    found.Pairwise (fun f g => List.Lex (· < ·) f.names g.names) ∧
    found.Perm ((everyFile [] dir).filter fun f =>
      isTemplate extensions root (join root (ofNames f.names))) := by
  intro dir found
  have hreached : ∀ f, f ∈ everyFile [] dir ↔ dir.Reaches f.names f.content := by
    intro f
    simp [mem_everyFile]
  have hfilter : collect extensions [] dir = (everyFile [] dir).filter fun f =>
      isTemplate extensions root (join root (ofNames f.names)) := by
    rw [collect_eq_filter]
    refine List.filter_congr fun f hf => ?_
    have hf := (hreached f).1 hf
    rw [Bool.eq_iff_iff, decide_eq_true_iff]
    exact (isTemplate_join_iff root hf.ne_nil (hf.plain h)).symm
  have hperm : found.Perm (collect extensions [] dir) := List.mergeSort_perm _ _
  rw [hfilter] at hperm
  refine ⟨fun f => ?_, pairwise_scan h extensions, hperm⟩
  rw [hperm.mem_iff, List.mem_filter, hreached]

/-- A directory with templates at two depths, a link, a directory that cannot be read, one that is
passed over, a file that is no template, and a pipe that has the name of one. -/
def shelf : Entry :=
  .directory true
    [("nested", .directory true [("loop", .link ".."), ("b.panel.yml", .file ⟨#[98]⟩ 1)]),
      ("node_modules", .directory true [("c.yaml", .file ⟨#[99]⟩ 1)]),
      ("locked", .directory false [("d.yaml", .file ⟨#[100]⟩ 1)]),
      ("notes.txt", .file ⟨#[101]⟩ 1), ("pipe.yaml", .special .empty 1),
      ("a.yaml", .file ⟨#[97]⟩ 1)]

theorem wellNamed_shelf : shelf.WellNamed := by
  refine .directory true (by decide) (by decide +kernel) ?_
  simp only [List.forall_mem_cons, List.not_mem_nil, IsEmpty.forall_iff, implies_true, and_true]
  refine ⟨.directory true (by decide) (by decide +kernel) ?_,
    .directory true (by decide) (by decide +kernel) ?_,
    .directory false (by decide) (by decide +kernel) ?_, .file _ _, .special _ _, .file _ _⟩
  · simpa using ⟨.link _, .file _ _⟩
  · simpa using .file _ _
  · simpa using .file _ _

/-- What is found on the shelf are the two templates in directories that are looked into. -/
theorem scan_eq_filter_shelf :
    shelf.WellNamed ∧ ((scan defaultExtensions shelf).map (·.names)).Perm
      [["nested", "b.panel.yml"], ["a.yaml"]] := by
  obtain ⟨-, -, hperm⟩ := scan_eq_filter "/srv/panels" defaultExtensions wellNamed_shelf
  refine ⟨wellNamed_shelf, (hperm.map _).trans (.of_eq ?_)⟩
  decide +kernel

end Watch

end LivePanel
