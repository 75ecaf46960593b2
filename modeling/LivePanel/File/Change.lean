import LivePanel.File.Disk

/-!
# Changing what stands at paths

Directories and files are made, and files taken away. A directory can be made with all
those on the way to it.
-/

namespace LivePanel.Disk

/-- Put something under names. -/
def put (d : Disk) (names : List String) (e : Entry) : Disk := { d with root := d.root.put names e }

/-- The last segment of a path, and the names that it leads to. There has to be a directory that it
is followed from. -/
def endOf (d : Disk) (path : String) : Except FileError (Option String × List String) :=
  match Path.fault? path with
  | some e => .error e
  | none => do
    let segments := Path.segments path
    let names ← d.follow (d.startOf path) segments.dropLast
    match segments.getLast? with
    | none => return (none, names)
    | some last => return (some last, ← d.step names last)

/-- Whether a last segment is a name, and no point. -/
def isName (segment : Option String) : Bool := segment.any fun s => s ≠ "." && s ≠ ".."

/-- Make a directory, where there is nothing yet. -/
def makeDirectory (d : Disk) (path : String) : Except FileError Disk := do
  let (last, names) ← d.endOf path
  if !isName last then throw .alreadyThere
  match d.root.find names with
  | .ok _ => throw .alreadyThere
  | .error .notFound => return d.put names .empty
  | .error e => throw e

/-- Make the first of some directories, the rest of which are those on the way to it. One that
stands already will do. -/
def makeWay (d : Disk) : List String → Except FileError Disk
  | [] => .ok d
  | path :: above =>
    let settle := fun (d : Disk) (r : Except FileError Disk) =>
      match r with
      | .ok d => Except.ok d
      | .error e => if d.hasDirectory path then .ok d else .error e
    match d.makeDirectory path with
    | .error .notFound => (d.makeWay above).bind fun d => settle d (d.makeDirectory path)
    | r => settle d r

/-- Make a directory and those on the way to it. -/
def makeDirectories (d : Disk) (path : String) : Except FileError Disk :=
  d.makeWay (Path.ancestors path)

/-- Open a file to add to it; one that is not there is made. -/
def openToAdd (d : Disk) (path : String) : Except FileError Disk := do
  let (_, names) ← d.endOf path
  match d.root.find names with
  | .ok (.directory ..) => throw .isDirectory
  | .ok _ => if Path.asksDirectory path then throw .notDirectory else return d
  | .error .notFound =>
    if Path.asksDirectory path then throw .isDirectory
    else return d.put names (.file ByteArray.empty 0)
  | .error e => throw e

/-- Take a file away, if one stands at a path. -/
def removeFile? (d : Disk) (path : String) : Option Disk := do
  let (last, names) ← (d.endOf path).toOption
  if !isName last || Path.asksDirectory path then none
  else
    match d.root.find names with
    | .ok (.directory ..) | .error _ => none
    | .ok _ => some { d with root := d.root.erase names }

end LivePanel.Disk
