import LivePanel.Value.Table

/-!
# Known templates

A watcher knows template files by the digests of their content. What it sees when it
looks at a path makes a notice when the path appears, disappears, or has another content
than before.
-/

namespace LivePanel.Watch

/-- What a watcher tells. -/
inductive Notice where
  | added (path : String)
  | changed (path : String)
  | removed (path : String)
  | trouble (message : String)
deriving DecidableEq

/-- What a look at a path shows. -/
inductive Sight where
  | content (digest : String)
  | gone
  | unreadable (reason : String)
deriving DecidableEq

/-- The digests of the known paths. -/
abbrev Known := Table String

/-- Look at a path. -/
def Known.look (k : Known) (path : String) (sight : Sight) : Option Notice × Known :=
  match sight with
  | .content digest =>
    let notice :=
      match k.get? path with
      | none => some (.added path)
      | some before => if before = digest then none else some (.changed path)
    (notice, k.put path digest)
  | .gone => (if k.has path then some (.removed path) else none, k.erase path)
  | .unreadable reason =>
    (some (.trouble ("Hash failed for " ++ path ++ ": " ++ reason)), k)

end LivePanel.Watch
