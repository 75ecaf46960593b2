import LivePanel.Text.Blank
import LivePanel.Value.Basic

/-!
# The state store

The state that panels read and actions write: an object with a count of the
writes. A path may begin with `state.`; a write creates the objects that its
path walks through, appends at the end of an array, and otherwise leaves the
store as it was.
-/

namespace LivePanel.State

/-- Why a write was refused. -/
inductive WriteError where
  | invalidPath (path : String)
  | notAContainer (path segment : String)
  | indexOutOfBounds (path : String) (index : Nat)
deriving DecidableEq

/-- The wording of the error. -/
def WriteError.message : WriteError → String
  | .invalidPath p => "invalid state path '" ++ p ++ "'"
  | .notAContainer p s =>
    "state path '" ++ p ++ "' crosses a non-container value at '" ++ s ++ "'"
  | .indexOutOfBounds p i => "index " ++ toString i ++ " out of bounds for state path '" ++ p ++ "'"

/-- A path without blanks at its ends and without a leading `state.`. -/
def relative (path : String) : String :=
  let p := Text.trim path
  (Text.dropPrefix? "state." p).getD p

/-- The segments of a relative path; `none` where one of them is empty. -/
def segments? (path : String) : Option (List String) :=
  let segs := Text.splitAtChar '.' path
  if segs.any String.isEmpty then none else some segs

/-- The obstacle that a write meets on its way. -/
inductive Obstacle where
  | scalar (segment : String)
  | beyond (index : Nat)
deriving DecidableEq

/-- The value that a walk goes on with where a member is null or absent. -/
def orObject : Option Value → Value
  | none => .obj []
  | some .null => .obj []
  | some v => v

/-- `target` with `v` written at the segments. -/
def write (v : Value) : List String → Value → Except Obstacle Value
  | [], _ => .ok v
  | s :: rest, .obj fields =>
    match write v rest (orObject (Table.get? fields s)) with
    | .ok w => .ok (.obj (Table.put fields s w))
    | .error e => .error e
  | s :: rest, .arr items =>
    match Text.index? s.toList with
    | none => .error (.scalar s)
    | some i =>
      if i = items.length then
        match write v rest (.obj []) with
        | .ok w => .ok (.arr (items ++ [w]))
        | .error e => .error e
      else
        match items[i]? with
        | none => .error (.beyond i)
        | some slot =>
          match write v rest slot with
          | .ok w => .ok (.arr (items.set i w))
          | .error e => .error e
  | s :: _, _ => .error (.scalar s)

/-- A store: its value and the number of writes so far. -/
structure Store where
  value : Value
  revision : Nat

/-- An object as it is; an empty object for anything else. -/
def asObject (v : Value) : Value := if v.isObj then v else .obj []

namespace Store

/-- A store that nothing has been written to. -/
def ofValue (v : Value) : Store := ⟨asObject v, 0⟩

/-- The store that holds an empty object. -/
def empty : Store := ofValue (.obj [])

/-- The value at a path. -/
def get? (s : Store) (path : String) : Option Value := s.value.lookup? (relative path)

/-- Write `v` at a path. -/
def set (s : Store) (path : String) (v : Value) : Except WriteError Store :=
  match segments? (relative path) with
  | none => .error (.invalidPath (relative path))
  | some segs =>
    match write v segs s.value with
    | .ok w => .ok ⟨w, s.revision + 1⟩
    | .error (.scalar seg) => .error (.notAContainer path seg)
    | .error (.beyond i) => .error (.indexOutOfBounds path i)

/-- Replace the whole state. -/
def replace (s : Store) (v : Value) : Store := ⟨asObject v, s.revision + 1⟩

end Store

end LivePanel.State
