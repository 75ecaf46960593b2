import Mathlib.Data.Finset.Basic
import Mathlib.Data.Finset.Dedup
import Mathlib.Data.Set.Function
import LivePanel.Digest.Blake3
import LivePanel.Proofs.Value.Ordered
import LivePanel.Watch.Known

/-!
# What a watcher tells of its files

A watcher looks at paths, one after the other, and keeps the digests of what it read. Whoever hears
its notices can keep a set of paths: those that were known at first, and from then on each path that
is added, until it is removed. The two never get out of step, whatever is observed at which path and
in whatever order.

## What is proved

* `Tracks.look`: each look keeps the digests in step with the notices and with what was read.
* `notice_eq_due`: the notice of a look is due by what was told and read before.
* `notices_keep_step`: both, after any observations.
-/

namespace LivePanel.Watch

/-! ### Observations -/

/-- What comes of reading the file at a path. -/
inductive Reading where
  | content (content : ByteArray)
  | gone
  | unreadable (reason : String)

/-- What a look shows where that comes of reading. -/
def Reading.sight : Reading → Sight
  | content c => .content (Blake3.ofBytes c)
  | gone => .gone
  | unreadable reason => .unreadable reason

/-- The content that was read. -/
def Reading.content? : Reading → Option ByteArray
  | content c => some c
  | _ => none

/-- A look at a path. -/
structure Observation where
  path : String
  reading : Reading

namespace Known

/-- What is known when files of these contents have been hashed. -/
def ofContents (primed : Table ByteArray) : Known := primed.map fun e => (e.1, Blake3.ofBytes e.2)

/-- What is known after some observations. -/
def after (k : Known) (h : List Observation) : Known :=
  h.foldl (fun k o => (k.look o.path o.reading.sight).2) k

/-- What is told of some observations, one notice after the other. -/
def told (k : Known) : List Observation → List Notice
  | [] => []
  | o :: rest =>
    (k.look o.path o.reading.sight).1.toList ++ told (k.look o.path o.reading.sight).2 rest

theorem after_append (k : Known) (h : List Observation) (o : Observation) :
    k.after (h ++ [o]) = ((k.after h).look o.path o.reading.sight).2 := by
  simp [after]

theorem told_append (k : Known) (h : List Observation) (o : Observation) :
    k.told (h ++ [o]) = k.told h ++ ((k.after h).look o.path o.reading.sight).1.toList := by
  induction h generalizing k with
  | nil => simp [told, after]
  | cons o' h ih => simp [told, ih, after]

theorem get?_ofContents (primed : Table ByteArray) (path : String) :
    (ofContents primed).get? path = (primed.get? path).map Blake3.ofBytes := by
  induction primed with
  | nil => rfl
  | cons e primed ih =>
    by_cases he : e.1 = path
    · simp [ofContents, Table.get?, he]
    · simpa [ofContents, Table.get?, he] using ih

end Known

/-! ### What a consumer makes of the notices -/

/-- The paths of a consumer after a notice. -/
def Notice.follow (paths : Finset String) : Notice → Finset String
  | added path => insert path paths
  | removed path => paths.erase path
  | changed _ => paths
  | trouble _ => paths

/-- The paths of a consumer after some notices. -/
def follow (paths : Finset String) (told : List Notice) : Finset String :=
  told.foldl Notice.follow paths

@[simp] theorem follow_nil (paths : Finset String) : follow paths [] = paths := rfl

@[simp] theorem follow_append (paths : Finset String) (told told' : List Notice) :
    follow paths (told ++ told') = follow (follow paths told) told' := List.foldl_append

/-- The content that was read last at a path, where there is one. -/
def lastRead (primed : Table ByteArray) (h : List Observation) (path : String) :
    Option ByteArray :=
  ((h.filterMap fun o => if o.path = path then o.reading.content? else none).getLast?).or
    (primed.get? path)

theorem lastRead_nil (primed : Table ByteArray) (path : String) :
    lastRead primed [] path = primed.get? path := rfl

theorem lastRead_append (primed : Table ByteArray) (h : List Observation) (o : Observation)
    (path : String) : lastRead primed (h ++ [o]) path =
      (if o.path = path then o.reading.content? else none).or (lastRead primed h path) := by
  unfold lastRead
  rw [List.filterMap_append, List.getLast?_append, Option.or_assoc]
  congr 1
  split
  · cases hc : o.reading.content? <;> simp [hc, ‹o.path = path›]
  · simp [‹¬ o.path = path›]

/-- A content that was read, be it when the watcher was primed or later. -/
def WasRead (primed : Table ByteArray) (h : List Observation) (c : ByteArray) : Prop :=
  (∃ path, primed.get? path = some c) ∨ ∃ o ∈ h, o.reading = .content c

theorem wasRead_of_lastRead {primed : Table ByteArray} {h : List Observation} {path : String}
    {c : ByteArray} (hc : lastRead primed h path = some c) : WasRead primed h c := by
  unfold lastRead at hc
  rcases Option.or_eq_some_iff.1 hc with hlast | ⟨-, hprimed⟩
  · obtain ⟨o, ho, hread⟩ := List.mem_filterMap.1 (List.mem_of_getLast? hlast)
    split at hread
    · refine .inr ⟨o, ho, ?_⟩
      cases hr : o.reading <;> simp_all [Reading.content?]
    · cases hread
  · exact .inl ⟨path, hprimed⟩

/-- Contents are compared byte by byte. -/
local instance decEqContent : DecidableEq ByteArray := ByteArray.instDecidableEq

/-- The notice that is due where a consumer has the paths `paths` and these contents were read
last. -/
def due (paths : Finset String) (last : String → Option ByteArray) (o : Observation) :
    Option Notice :=
  match o.reading with
  | .content c =>
    if o.path ∉ paths then some (.added o.path)
    else if last o.path = some c then none
    else some (.changed o.path)
  | .gone => if o.path ∈ paths then some (.removed o.path) else none
  | .unreadable reason => some (.trouble ("Hash failed for " ++ o.path ++ ": " ++ reason))

/-! ### They keep step -/

/-- The known paths are those of the consumer, each with the digest of what was read last. -/
def Tracks (k : Known) (paths : Finset String) (last : String → Option ByteArray) : Prop :=
  ∀ path, (path ∈ paths → ∃ c, last path = some c ∧ k.get? path = some (Blake3.ofBytes c)) ∧
    (path ∉ paths → k.get? path = none)

namespace Tracks

variable {k : Known} {paths : Finset String} {last : String → Option ByteArray}

theorem has_iff (h : Tracks k paths last) (path : String) : k.has path = true ↔ path ∈ paths := by
  unfold Table.has
  by_cases hp : path ∈ paths
  · obtain ⟨c, -, hget⟩ := (h path).1 hp
    simp [hget, hp]
  · simp [(h path).2 hp, hp]

/-- **Each look keeps the digests in step with the notices.** -/
theorem look (h : Tracks k paths last) (o : Observation) :
    Tracks (k.look o.path o.reading.sight).2
      (follow paths (k.look o.path o.reading.sight).1.toList)
      (fun path => (if o.path = path then o.reading.content? else none).or (last path)) := by
  obtain ⟨here, reading⟩ := o
  cases reading with
  | content c =>
    have hpaths : ∀ path, path ∈ follow paths (k.look here (.content (Blake3.ofBytes c))).1.toList ↔
        path = here ∨ path ∈ paths := by
      intro path
      by_cases hp : here ∈ paths
      · obtain ⟨c', -, hget⟩ := (h here).1 hp
        have hsame : path = here → path ∈ paths := fun heq => heq ▸ hp
        simp only [Known.look, hget]
        split <;> simpa [follow, Notice.follow] using hsame
      · simp [Known.look, (h here).2 hp, follow, Notice.follow]
    intro path
    show (path ∈ follow paths (k.look here (.content (Blake3.ofBytes c))).1.toList → _) ∧
      (path ∉ follow paths (k.look here (.content (Blake3.ofBytes c))).1.toList → _)
    rw [hpaths]
    by_cases hpath : here = path
    · subst hpath
      simp [Known.look, Reading.sight, Reading.content?]
    · simpa [Known.look, Reading.sight, Table.get?_put_of_ne _ _ hpath, hpath, Ne.symm hpath]
        using h path
  | gone =>
    intro path
    by_cases hp : here ∈ paths
    · have hhas := (h.has_iff here).2 hp
      by_cases hpath : here = path
      · subst hpath
        simp [Known.look, Reading.sight, hhas, follow, Notice.follow, Table.get?_erase]
      · simpa [Known.look, Reading.sight, hhas, follow, Notice.follow, Table.get?_erase, hpath,
          Ne.symm hpath] using h path
    · have hhas : k.has here = false := by
        rw [Bool.eq_false_iff]
        exact mt (h.has_iff here).1 hp
      by_cases hpath : here = path
      · subst hpath
        simp [Known.look, Reading.sight, hhas, Table.get?_erase, hp]
      · simpa [Known.look, Reading.sight, hhas, Table.get?_erase, hpath] using h path
  | unreadable reason =>
    intro path
    simpa [Known.look, Reading.sight, Reading.content?, follow, Notice.follow] using h path

/-- **The notice of a look is the one that is due**, if no content that was read has the digest of
another. -/
theorem notice_eq_due (h : Tracks k paths last) (o : Observation)
    (hfree : ∀ c c', last o.path = some c → o.reading = .content c' →
      Blake3.ofBytes c = Blake3.ofBytes c' → c = c') :
    (k.look o.path o.reading.sight).1 = due paths last o := by
  obtain ⟨here, reading⟩ := o
  cases reading with
  | content c' =>
    by_cases hp : here ∈ paths
    · obtain ⟨c, hlast, hget⟩ := (h here).1 hp
      have hsame : Blake3.ofBytes c = Blake3.ofBytes c' ↔ c = c' :=
        ⟨hfree c c' hlast rfl, fun heq => heq ▸ rfl⟩
      simp [Known.look, Reading.sight, due, hget, hp, hlast, hsame]
    · simp [Known.look, Reading.sight, due, (h here).2 hp, hp]
  | gone => simp only [Known.look, Reading.sight, due, h.has_iff]
  | unreadable => rfl

end Tracks

theorem tracks_ofContents (primed : Table ByteArray) :
    Tracks (.ofContents primed) primed.keys.toFinset (lastRead primed []) := by
  intro path
  rw [lastRead_nil, Known.get?_ofContents, List.mem_toFinset, Table.keys]
  refine ⟨fun hp => ?_, fun hp => ?_⟩
  · obtain ⟨e, he, rfl⟩ := List.mem_map.1 hp
    obtain ⟨c, hc⟩ := Option.isSome_iff_exists.1 (Table.has_of_mem he)
    exact ⟨c, hc, by rw [hc, Option.map_some]⟩
  · cases hget : primed.get? path with
    | none => rfl
    | some c => exact absurd (List.mem_map.2 ⟨_, Table.mem_of_get? hget, rfl⟩) hp

/-- After any observations the watcher and the consumer are in step. -/
theorem tracks_after (primed : Table ByteArray) (h : List Observation) :
    Tracks ((Known.ofContents primed).after h)
      (follow primed.keys.toFinset ((Known.ofContents primed).told h)) (lastRead primed h) := by
  induction h using List.reverseRecOn with
  | nil => exact tracks_ofContents primed
  | append_singleton h o ih =>
    rw [Known.after_append, Known.told_append, follow_append]
    have hnext := ih.look o
    rwa [← funext (lastRead_append primed h o)] at hnext

/-- **A watcher keeps step with whoever hears its notices.** After any observations the known paths
are those of a consumer who started from the primed ones, adds what is added and takes away what is
removed, and each of them has the digest of the content that was read last. Every look tells what is
due: that a path is added only where it was not known, that it is changed only where it was known
with another content, that it is removed only where it was known, what prevented reading, and
nothing else. -/
theorem notices_keep_step (primed : Table ByteArray) (h : List Observation)
    (hfree : Set.InjOn Blake3.ofBytes { c | WasRead primed h c }) :
    let k := Known.ofContents primed
    (∀ path, (k.after h).has path = true ↔ path ∈ follow primed.keys.toFinset (k.told h)) ∧
    (∀ path digest, (k.after h).get? path = some digest →
      ∃ c, lastRead primed h path = some c ∧ digest = Blake3.ofBytes c) ∧
    ∀ front o rest, h = front ++ o :: rest →
      k.told (front ++ [o]) = k.told front ++
        (due (follow primed.keys.toFinset (k.told front)) (lastRead primed front) o).toList := by
  intro k
  have htracks := tracks_after primed h
  refine ⟨htracks.has_iff, fun path digest hget => ?_, ?_⟩
  · by_cases hp : path ∈ follow primed.keys.toFinset (k.told h)
    · obtain ⟨c, hlast, hc⟩ := (htracks path).1 hp
      exact ⟨c, hlast, Option.some.inj (hget.symm.trans hc)⟩
    · exact absurd (hget.symm.trans ((htracks path).2 hp)) (Option.some_ne_none _)
  · rintro front o rest rfl
    rw [Known.told_append, (tracks_after primed front).notice_eq_due]
    intro c c' hlast hread hdigest
    refine hfree ?_ (.inr ⟨o, by simp, hread⟩) hdigest
    exact (wasRead_of_lastRead hlast).imp_right fun ⟨o', ho', hc⟩ => ⟨o', by simp [ho'], hc⟩

/-- A file is saved as it was, then with another content, and then it is gone; another one appears;
and the first one cannot be read any more. -/
def saves : List Observation :=
  [⟨"a.yaml", .content ⟨#[49]⟩⟩, ⟨"a.yaml", .content ⟨#[50]⟩⟩, ⟨"b.yaml", .gone⟩,
    ⟨"a.yaml", .gone⟩, ⟨"b.yaml", .content ⟨#[49]⟩⟩, ⟨"a.yaml", .unreadable "denied"⟩]

theorem notices_keep_step_saves :
    Set.InjOn Blake3.ofBytes { c | WasRead [("a.yaml", ⟨#[49]⟩)] saves c } ∧
      (Known.ofContents [("a.yaml", ⟨#[49]⟩)]).told saves =
        [.changed "a.yaml", .removed "a.yaml", .added "b.yaml",
          .trouble "Hash failed for a.yaml: denied"] ∧
      ∀ path, ((Known.ofContents [("a.yaml", ⟨#[49]⟩)]).after saves).has path = true ↔
        path = "b.yaml" := by
  have hne : Blake3.ofBytes ⟨#[49]⟩ ≠ Blake3.ofBytes ⟨#[50]⟩ := by decide +kernel
  have hread : ∀ c, WasRead [("a.yaml", ⟨#[49]⟩)] saves c → c = ⟨#[49]⟩ ∨ c = ⟨#[50]⟩ := by
    rintro c (⟨path, hpath⟩ | ⟨o, ho, hc⟩)
    · simp only [Table.get?, Option.ite_none_right_eq_some, Option.some.injEq] at hpath
      exact .inl hpath.2.symm
    · simp only [saves, List.mem_cons, List.not_mem_nil, or_false] at ho
      rcases ho with rfl | rfl | rfl | rfl | rfl | rfl <;> cases hc <;> simp
  have hfree : Set.InjOn Blake3.ofBytes { c | WasRead [("a.yaml", ⟨#[49]⟩)] saves c } := by
    intro c hc c' hc' heq
    rcases hread c hc with rfl | rfl <;> rcases hread c' hc' with rfl | rfl
    · rfl
    · exact absurd heq hne
    · exact absurd heq.symm hne
    · rfl
  have htold : (Known.ofContents [("a.yaml", ⟨#[49]⟩)]).told saves =
      [.changed "a.yaml", .removed "a.yaml", .added "b.yaml",
        .trouble "Hash failed for a.yaml: denied"] := by
    simp [Known.told, saves, Known.look, Known.ofContents, Reading.sight, Table.get?, Table.put,
      Table.erase, Table.has, hne]
  obtain ⟨hknown, -⟩ := notices_keep_step [("a.yaml", ⟨#[49]⟩)] saves hfree
  have hleft : ∀ path, path ∈ follow ["a.yaml"].toFinset
      [.changed "a.yaml", .removed "a.yaml", .added "b.yaml",
        .trouble "Hash failed for a.yaml: denied"] ↔ path = "b.yaml" := by
    simp [follow, Notice.follow]
  refine ⟨hfree, htold, fun path => (hknown path).trans ?_⟩
  rw [htold]
  exact hleft path

end LivePanel.Watch
