import LivePanel.Template.Basic

/-!
# The arena of a template

The components of a template laid out in one list, each behind its children, with
the positions of its children in place of the children themselves.
-/

namespace LivePanel.Template

/-- A component whose children are positions of the arena. -/
structure Slot where
  location : Location
  kind : ComponentKind
  condition : Option String
  props : Table Value
  bindings : Table String
  icons : List Icon
  children : List Nat

/-- Components in one list, and the positions of those at the top. -/
structure Arena where
  slots : List Slot
  roots : List Nat

mutual
/-- The slots of a tree laid out from position `next` on, and the position of its root. -/
def place (next : Nat) (c : Component) : List Slot × Nat :=
  match c with
  | ⟨location, kind, condition, props, bindings, icons, children⟩ =>
    let below := placeAll next children
    (below.1 ++ [⟨location, kind, condition, props, bindings, icons, below.2⟩],
      next + below.1.length)

/-- The slots of several trees laid out from position `next` on, and the positions of their
roots. -/
def placeAll (next : Nat) : List Component → List Slot × List Nat
  | [] => ([], [])
  | c :: rest =>
    let first := place next c
    let others := placeAll (next + first.1.length) rest
    (first.1 ++ others.1, first.2 :: others.2)
end

/-- The arena of a template. -/
def arena (t : Template) : Arena :=
  let laid := placeAll 0 t.components
  ⟨laid.1, laid.2⟩

/-- The positions reached from one, itself first, over at most `fuel` levels. -/
def Arena.walkFrom (a : Arena) : Nat → Nat → List Nat
  | 0, _ => []
  | fuel + 1, i =>
    match a.slots[i]? with
    | none => []
    | some s => i :: s.children.flatMap (a.walkFrom fuel)

/-- The positions in the order of the document. -/
def Arena.walk (a : Arena) : List Nat := a.roots.flatMap (a.walkFrom a.slots.length)

end LivePanel.Template
