import LivePanel.Rehearsal.Theatre
import LivePanel.Watch.Scan

/-!
# Rehearsals under a watcher

A rehearsal with a directory of files that is watched. Every change of a file is looked at
before the next one, and what the watcher has to tell is handled at once.
-/

namespace LivePanel.Rehearsal

open LivePanel.Orchestra

/-- A rehearsal under a watcher: the directory, the extensions of its templates, the templates that
the watcher knows, and the number of changes so far. -/
structure Vigil where
  theatre : Theatre
  root : String
  extensions : List String
  known : Watch.Known := []
  changes : Nat := 1

namespace Vigil

/-- A disk that holds nothing but a directory of files. -/
def diskOf (root : String) (files : Entry) : Disk := ⟨Entry.empty.put [root] files, []⟩

/-- The files. -/
def files (v : Vigil) : Entry :=
  match v.theatre.source.shelf with
  | .files disk root => (disk.find root).toOption.getD .empty
  | _ => .empty

/-- Put other files in place. -/
def withFiles (v : Vigil) (files : Entry) : Vigil :=
  let shelf := .files (diskOf v.root files) v.root
  { v with
    theatre := { v.theatre with source := { v.theatre.source with shelf := shelf } }
    changes := v.changes + 1 }

/-- The names on the way to a file. -/
def names (file : String) : List String := (Path.parts file).filterMap Path.Part.name?

/-- Give a cue. -/
def give (v : Vigil) (c : Cue) : Reply × Vigil :=
  let out := v.theatre.give c
  (out.1, { v with theatre := out.2 })

/-- Begin to watch. The templates that are there are known from the start. -/
def watch (v : Vigil) : Reply × Vigil :=
  let known := (Watch.scan v.extensions v.files).foldl
    (fun k f => Table.put k (Path.join v.root (Path.ofNames f.names)) (Blake3.ofBytes f.content)) []
  let (r, v) := v.give (.deed (.errand (.watch v.root)))
  match r with
  | .outcome (.watching (.ok _)) => (r, { v with known := known })
  | _ => (r, v)

/-- What a look at a file shows. -/
def sight (v : Vigil) (file : String) : Watch.Sight :=
  match v.files.read (names file) with
  | .ok content => .content (Blake3.ofBytes content)
  | .error .notFound => .gone
  | .error e => .unreadable e.message

/-- Look at a file, and handle what there is to tell. -/
def look (v : Vigil) (file : String) : Vigil :=
  let path := Path.join v.root (Path.ofNames (names file))
  if Watch.isTemplate v.extensions v.root path then
    let (notice, known) := v.known.look path (v.sight file)
    let v := { v with known := known }
    match notice with
    | none => v
    | some n => (v.give (.deed (.errand (.notice n)))).2
  else v

/-- Write a file. -/
def write (v : Vigil) (file : String) (content : ByteArray) : Vigil :=
  (v.withFiles (v.files.put (names file) (.file content v.changes))).look file

/-- Remove a file. -/
def remove (v : Vigil) (file : String) : Vigil :=
  (v.withFiles (v.files.erase (names file))).look file

/-- Give a file another name. -/
def rename (v : Vigil) (file target : String) : Vigil :=
  match v.files.find (names file) with
  | .error _ => v
  | .ok e =>
    ((v.withFiles ((v.files.erase (names file)).put (names target) e)).look file).look target

end Vigil

end LivePanel.Rehearsal
