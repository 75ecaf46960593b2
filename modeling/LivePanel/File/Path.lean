import LivePanel.Text.Split

/-!
# Paths of files

A path is a text; what it says is its parts. Slashes that follow one another count as
one, a slash at the end counts for nothing, and a point stands for nothing but at the
front of a relative path. Paths are compared by their parts.
-/

namespace LivePanel.Path

/-- A part of a path. -/
inductive Part where
  | root
  | here
  | up
  | name (s : String)
deriving DecidableEq, Inhabited

/-- A part as text. -/
def Part.text : Part → String
  | root => "/"
  | here => "."
  | up => ".."
  | name s => s

/-- The name that a part is. -/
def Part.name? : Part → Option String
  | name s => some s
  | _ => none

/-- The part that a segment between slashes stands for. -/
def partOf? (segment : String) : Option Part :=
  if segment = "" then none
  else if segment = "." then none
  else if segment = ".." then some .up
  else some (.name segment)

/-- The parts of a path. -/
def parts (path : String) : List Part :=
  match Text.splitAtChar '/' path with
  | "" :: second :: rest => .root :: (second :: rest).filterMap partOf?
  | "." :: rest => .here :: rest.filterMap partOf?
  | segments => segments.filterMap partOf?

/-- The names that parts are, where all of them are names. -/
def names? (ps : List Part) : Option (List String) := ps.mapM Part.name?

/-- The name at the end of a path. -/
def name? (path : String) : Option String := (parts path).getLast?.bind Part.name?

/-- The parts of a path below another. -/
def below? (dir path : String) : Option (List Part) :=
  let front := parts dir
  let all := parts path
  if front.isPrefixOf all then some (all.drop front.length) else none

/-- Whether a path begins at the root. -/
def isAbsolute (path : String) : Bool := path.startsWith "/"

/-- A path below another, unless it begins at the root itself. -/
def join (dir path : String) : String :=
  if isAbsolute path then path
  else if dir.isEmpty || dir.endsWith "/" then dir ++ path
  else dir ++ "/" ++ path

/-- The path that parts make. -/
def ofParts : List Part → String
  | .root :: rest => "/" ++ Text.joinWith "/" (rest.map Part.text)
  | ps => Text.joinWith "/" (ps.map Part.text)

/-- A path, and those of the directories on the way to it, from the last one to the first. -/
def ancestors (path : String) : List String :=
  let above := (parts path).dropLast
  path :: (List.range above.length).reverse.map fun n => ofParts (above.take (n + 1))

/-- The path of the directory that a path is in. -/
def parent? (path : String) : Option String := (ancestors path).tail.head?

/-- What stands between the slashes of a path, where something stands there. -/
def segments (path : String) : List String := (Text.splitAtChar '/' path).filter (· ≠ "")

/-- Names as a relative path. -/
def ofNames (names : List String) : String := Text.joinWith "/" names

end LivePanel.Path
