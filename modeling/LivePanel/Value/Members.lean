import LivePanel.Value.Basic

/-!
# Members with something in place of what is absent

Readers of the members of an object that never fail: a member that is absent or of
another form counts as null, the empty text, falsehood or the empty list.
-/

namespace LivePanel.Value

/-- The member under a key, or null. -/
def member (v : Value) (k : String) : Value := (v.field? k).getD .null

/-- The text under a key, if there is one. -/
def memberText? (v : Value) (k : String) : Option String := (v.field? k).bind asStr?

/-- The text under a key, or the empty text. -/
def memberText (v : Value) (k : String) : String := (v.memberText? k).getD ""

/-- Whether there is truth under a key; `default` stands for another form. -/
def memberFlag (v : Value) (k : String) (default : Bool) : Bool :=
  match v.field? k with
  | some (.bool b) => b
  | _ => default

/-- The count under a key, if there is one. -/
def memberNat? (v : Value) (k : String) : Option Nat :=
  match v.field? k with
  | some (.num (.int n)) => some n.toNat
  | _ => none

/-- The elements under a key. -/
def memberItems (v : Value) (k : String) : List Value :=
  match v.field? k with
  | some (.arr items) => items
  | _ => []

/-- The texts under a key. -/
def memberTexts (v : Value) (k : String) : List String := (v.memberItems k).filterMap asStr?

end LivePanel.Value
