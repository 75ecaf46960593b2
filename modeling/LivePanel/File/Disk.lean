import LivePanel.File.Path
import LivePanel.File.Tree

/-!
# Files at paths

All the files that a program may look at: a tree from the root on, and the directory that
relative paths start from. A path is followed segment by segment, each from a directory;
a path that ends in a slash asks for a directory. Names and paths have a limit in octets.
-/

namespace LivePanel

/-- A tree of files, and the way from its root to the directory that relative paths start from. -/
structure Disk where
  root : Entry
  here : List String := []

namespace Path

/-- The most octets of a name. -/
def nameLimit : Nat := 255

/-- The most octets of a path. -/
def pathLimit : Nat := 4095

/-- Why nothing can stand at a path, whatever there is. -/
def fault? (path : String) : Option FileError :=
  if path.toList.contains (Char.ofNat 0) then some .zeroInName
  else if path.isEmpty then some .notFound
  else if path.utf8ByteSize > pathLimit then some .nameTooLong
  else none

/-- Whether a path can only be that of a directory. -/
def asksDirectory (path : String) : Bool := path.endsWith "/"

end Path

namespace Disk

/-- Go on by a segment from the directory under some names. -/
def step (d : Disk) (names : List String) (segment : String) : Except FileError (List String) :=
  match d.root.find names with
  | .error e => .error e
  | .ok (.file ..) | .ok (.special ..) => .error .notDirectory
  | .ok (.link _) => .error .notFound
  | .ok (.directory ..) =>
    if segment = "." then .ok names
    else if segment = ".." then .ok names.dropLast
    else if segment.utf8ByteSize > Path.nameLimit then .error .nameTooLong
    else .ok (names ++ [segment])

/-- Follow segments from the directory under some names. -/
def follow (d : Disk) (names : List String) : List String → Except FileError (List String)
  | [] => .ok names
  | segment :: rest => (d.step names segment).bind fun names => d.follow names rest

/-- The names of the directory that a path starts from. -/
def startOf (d : Disk) (path : String) : List String := if Path.isAbsolute path then [] else d.here

/-- The names that a path leads to; there need not be anything under the last one. -/
def namesOf (d : Disk) (path : String) : Except FileError (List String) :=
  match Path.fault? path with
  | some e => .error e
  | none => d.follow (d.startOf path) (Path.segments path)

/-- What stands at a path. -/
def find (d : Disk) (path : String) : Except FileError Entry :=
  match (d.namesOf path).bind d.root.find with
  | .ok (.file content modified) =>
    if Path.asksDirectory path then .error .notDirectory else .ok (.file content modified)
  | .ok (.special content modified) =>
    if Path.asksDirectory path then .error .notDirectory else .ok (.special content modified)
  | .ok (.link _) => .error .notFound
  | other => other

/-- The content of the file at a path. -/
def read (d : Disk) (path : String) : Except FileError ByteArray :=
  (d.find path).bind fun e => e.read []

/-- Whether a directory stands at a path. -/
def hasDirectory (d : Disk) (path : String) : Bool :=
  match d.find path with
  | .ok (.directory ..) => true
  | _ => false

/-- The path from the root, without points, of what stands at a path. -/
def canonical? (d : Disk) (path : String) : Option String :=
  match d.find path with
  | .ok _ => (d.namesOf path).toOption.map fun names => "/" ++ Path.ofNames names
  | .error _ => none

end Disk

end LivePanel
