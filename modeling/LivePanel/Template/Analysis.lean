import LivePanel.Template.Json

/-!
# Analysis

What a template declares, found without building it.
-/

namespace LivePanel.Template

/-- A summary of a text. -/
structure Analysis where
  name : Option String := none
  version : Option String := none
  componentCount : Nat := 0
  actionCount : Nat := 0
  eventCount : Nat := 0
  blocks : List String := []
  problems : List SyntaxProblem
  valid : Bool

/-- The summary of what a text gives. -/
def Outcome.analysis (o : Outcome) : Analysis :=
  match o.template with
  | none => { problems := o.problems, valid := o.clean }
  | some t =>
    { name := t.name
      version := t.version
      componentCount := t.arena.slots.length
      actionCount := t.actions.length
      eventCount := t.events.length
      blocks := t.referencedBlocks
      problems := o.problems
      valid := o.clean }

/-- The JSON form of a summary. -/
def Analysis.toValue (a : Analysis) : Value :=
  .obj [("name", Value.ofOption a.name), ("version", Value.ofOption a.version),
    ("componentCount", Value.ofNat a.componentCount), ("actionCount", Value.ofNat a.actionCount),
    ("eventCount", Value.ofNat a.eventCount), ("blocks", Value.ofStrings a.blocks),
    ("errors", .arr (a.problems.map SyntaxProblem.toValue)), ("valid", .bool a.valid)]

end LivePanel.Template
