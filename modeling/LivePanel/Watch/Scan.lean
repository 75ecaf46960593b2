import LivePanel.File.Tree
import LivePanel.Watch.Filter

/-!
# Finding templates

The templates that a directory holds, at any depth, in the order of the names on the way
to them. Directories that cannot be read or are not looked into are passed over, so is what
is neither a file nor a directory, and links are not followed.
-/

namespace LivePanel.Watch

/-- A file found: the names on the way to it, and its content. -/
structure Found where
  names : List String
  content : ByteArray

mutual
/-- The templates in an entry that stands under a path of names. -/
def collect (extensions : List String) (path : List String) : Entry → List Found
  | .file content _ =>
    match path.getLast? with
    | some name =>
      if isTemplateName extensions name && !path.any (· ∈ ignoredNames) then [⟨path, content⟩]
      else []
    | none => []
  | .special .. => []
  | .link _ => []
  | .directory readable entries =>
    if readable then collectAll extensions path entries else []

/-- The templates in the entries of a directory. -/
def collectAll (extensions : List String) (path : List String) : List (String × Entry) → List Found
  | [] => []
  | (name, .directory readable entries) :: rest =>
    (if name ∈ ignoredNames then []
      else collect extensions (path ++ [name]) (.directory readable entries)) ++
      collectAll extensions path rest
  | (name, e) :: rest =>
    collect extensions (path ++ [name]) e ++ collectAll extensions path rest
end

/-- Whether names come before others, by the first place where they differ, or are the same. -/
def inOrder : List String → List String → Bool
  | [], _ => true
  | _ :: _, [] => false
  | a :: as, b :: bs => if a = b then inOrder as bs else a < b

/-- The templates in a directory, in order. -/
def scan (extensions : List String) (dir : Entry) : List Found :=
  (collect extensions [] dir).mergeSort fun a b => inOrder a.names b.names

end LivePanel.Watch
