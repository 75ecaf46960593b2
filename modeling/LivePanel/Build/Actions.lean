import LivePanel.Build.Problem

/-!
# Checking the actions of a template

Every place that names an action is checked, in a fixed order: the components in the
order of the document, the bindings of each before its icons, then the events, then the
actions by name. Names that the template does not define are errors; actions that no
place names are warnings.
-/

namespace LivePanel.Build

/-- An action named at a place. -/
structure Mention where
  action : String
  path : String
deriving DecidableEq

/-- The actions that icons name, the first icon at position `i`. -/
def iconMentions (path : String) (i : Nat) : List Icon → List Mention
  | [] => []
  | icon :: rest =>
    (icon.action.map fun a => ⟨a, path ++ ".icons[" ++ toString i ++ "].action"⟩).toList ++
      iconMentions path (i + 1) rest

/-- The actions that a component names. -/
def componentMentions (c : Component) : List Mention :=
  let path := Location.text c.location
  c.bindings.map (fun b => ⟨b.2, path ++ ".on." ++ b.1⟩) ++ iconMentions path 0 c.icons

/-- The actions that events name, the first event at position `i`. -/
def eventMentions (i : Nat) : List EventBinding → List Mention
  | [] => []
  | e :: rest => ⟨e.action, "events[" ++ toString i ++ "].action"⟩ :: eventMentions (i + 1) rest

/-- The actions that an action calls. -/
def actionMentions (name : String) (a : Action) : List Mention :=
  a.calls.map (⟨·, "actions." ++ name⟩)

/-- All places that name an action. -/
def mentions (t : Template) : List Mention :=
  t.walk.flatMap componentMentions ++ eventMentions 0 t.events ++
    t.actions.flatMap fun e => actionMentions e.1 e.2

/-- The names that the template does not define. -/
def unknownActions (t : Template) : List Error :=
  ((mentions t).filter fun m => !Table.has t.actions m.action).map fun m =>
    .unknownAction m.action m.path

/-- The actions that no place names. -/
def unusedActions (t : Template) : List Warning :=
  ((Table.keys t.actions).filter (· ∉ t.referencedActions)).map .unusedAction

end LivePanel.Build
