import LivePanel.Value.Basic

/-!
# Deep merge

Laying one value over another: objects are merged member by member, and
everywhere else the upper value replaces the lower one.
-/

namespace LivePanel.Value

mutual
/-- `overlay` laid over `base`. -/
def merge (base overlay : Value) : Value :=
  match overlay with
  | obj upper =>
    match base with
    | obj fields => obj (mergeFields fields upper)
    | _ => obj upper
  | other => other

/-- The members `upper` laid over `fields`, one after the other. -/
def mergeFields (fields : List (String × Value)) (upper : List (String × Value)) :
    List (String × Value) :=
  match upper with
  | [] => fields
  | (k, v) :: rest =>
    let merged :=
      match Table.get? fields k with
      | some below => merge below v
      | none => v
    mergeFields (Table.put fields k merged) rest
end

end LivePanel.Value
