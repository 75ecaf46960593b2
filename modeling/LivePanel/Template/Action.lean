import LivePanel.Value.Basic

/-!
# Actions

What a template can do: write state, send a message, branch, ask the assistant,
and sequences of these. A step may also call an action of the template by name.
-/

namespace LivePanel

/-- An action, or a step of one. -/
inductive Action where
  | call (name : String)
  | setState (path : String) (value : Value)
  | send (message : String) (payload : Value)
  | branch (branches : List (String × Action))
  | request (prompt : String) (context : Value) (storeAs : Option String) (onSuccess : List Action)
  | sequence (steps : List Action)
deriving Inhabited

namespace Action

/-- The name of an action's kind. -/
def kind : Action → String
  | call _ => "call"
  | setState .. => "state_update"
  | send .. => "message_dispatch"
  | branch _ => "conditional_branch"
  | request .. => "external_request"
  | sequence _ => "sequence"

mutual
/-- The steps inside an action at any depth, each before the steps inside it. -/
def steps : Action → List Action
  | call _ => []
  | setState .. => []
  | send .. => []
  | branch branches => stepsOfBranches branches
  | request _ _ _ onSuccess => stepsOfList onSuccess
  | sequence ss => stepsOfList ss

/-- The steps of a list and the steps inside them. -/
def stepsOfList : List Action → List Action
  | [] => []
  | a :: rest => a :: (steps a ++ stepsOfList rest)

/-- The steps of the branches and the steps inside them. -/
def stepsOfBranches : List (String × Action) → List Action
  | [] => []
  | (_, a) :: rest => a :: (steps a ++ stepsOfBranches rest)
end

/-- The name that a step calls. -/
def called? : Action → Option String
  | call name => some name
  | _ => none

/-- The names called inside an action, in order. -/
def calls (a : Action) : List String := a.steps.filterMap called?

end Action

end LivePanel
