import LivePanel.Value.Table

/-!
# Requests

What the program is asked to do: to validate templates, to analyze or build one of them,
or to watch a directory of them; and how it is to go about it.
-/

namespace LivePanel.Command

/-- How results are written. -/
inductive Style where
  | pretty
  | json
deriving DecidableEq, Inhabited

/-- The names of the styles. -/
def Style.names : Table Style := [("pretty", .pretty), ("json", .json)]

/-- What the program is to do. -/
inductive Order where
  | validate (files : List String)
  | analyze (file : String)
  | build (file : String) (state : Option String)
  | watch (directory : Option String) (hotReload : Bool)
deriving DecidableEq

/-- A request: what to do, whether to log in detail, how to write the results, the file of a
catalogue of blocks, and the root of the project. -/
structure Request where
  order : Order
  verbose : Bool := false
  style : Style := .pretty
  catalogue : Option String := none
  root : Option String := none
deriving DecidableEq

end LivePanel.Command
