import LivePanel.Value.Table

/-!
# Trees of files

A directory and all that is in it: files with their content and the time of their last
change, links, directories, of which some cannot be read, and pipes, sockets and devices,
which may be read like files but are none.
-/

namespace LivePanel

/-- What stands under a name in a directory. -/
inductive Entry where
  | file (content : ByteArray) (modified : Nat)
  | special (content : ByteArray) (modified : Nat)
  | link (target : String)
  | directory (readable : Bool) (entries : List (String × Entry))
deriving Inhabited

/-- Why a file could not be read, or a directory not be made. -/
inductive FileError where
  | notFound
  | isDirectory
  | notDirectory
  | denied
  | alreadyThere
  | nameTooLong
  | zeroInName
deriving DecidableEq

/-- The wording of the error. -/
def FileError.message : FileError → String
  | notFound => "No such file or directory (os error 2)"
  | isDirectory => "Is a directory (os error 21)"
  | notDirectory => "Not a directory (os error 20)"
  | denied => "Permission denied (os error 13)"
  | alreadyThere => "File exists (os error 17)"
  | nameTooLong => "File name too long (os error 36)"
  | zeroInName => "file name contained an unexpected NUL byte"

namespace Entry

/-- A directory with nothing in it. -/
def empty : Entry := directory true []

/-- What stands under a path of names. -/
def find (e : Entry) : List String → Except FileError Entry
  | [] => .ok e
  | name :: rest =>
    match e with
    | directory _ entries =>
      match Table.get? entries name with
      | some f => f.find rest
      | none => .error .notFound
    | link _ => .error .notFound
    | file .. | special .. => .error .notDirectory

/-- Put something under a path of names; directories on the way are made. -/
def put (e : Entry) (path : List String) (f : Entry) : Entry :=
  match path with
  | [] => f
  | name :: rest =>
    match e with
    | directory readable entries =>
      let old := (Table.get? entries name).getD empty
      directory readable (Table.put entries name (old.put rest f))
    | _ => directory true [(name, empty.put rest f)]

/-- Take away what stands under a path of names. -/
def erase (e : Entry) : List String → Entry
  | [] => e
  | name :: rest =>
    match e with
    | directory readable entries =>
      if rest.isEmpty then directory readable (Table.erase entries name)
      else
        match Table.get? entries name with
        | some f => directory readable (Table.put entries name (f.erase rest))
        | none => directory readable entries
    | other => other

/-- The content of the file under a path of names. -/
def read (e : Entry) (path : List String) : Except FileError ByteArray :=
  match e.find path with
  | .ok (file content _) | .ok (special content _) => .ok content
  | .ok (link _) => .error .notFound
  | .ok (directory ..) => .error .isDirectory
  | .error e => .error e

end Entry

end LivePanel
