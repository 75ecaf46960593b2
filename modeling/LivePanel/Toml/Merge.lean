import LivePanel.Toml.Basic

/-!
# Laying one tree over another

Tables are merged member by member, and everywhere else the upper tree replaces the
lower one. A moment is no table.
-/

namespace LivePanel.Toml.Datum

mutual
/-- `overlay` laid over `base`. -/
def merge (base overlay : Datum) : Datum :=
  match overlay with
  | table upper =>
    match base with
    | table members => table (mergeMembers members upper)
    | _ => table upper
  | other => other

/-- The members `upper` laid over `members`, one after the other. -/
def mergeMembers (members : List (String × Datum)) (upper : List (String × Datum)) :
    List (String × Datum) :=
  match upper with
  | [] => members
  | (k, d) :: rest =>
    let merged :=
      match Table.get? members k with
      | some below => merge below d
      | none => d
    mergeMembers (Table.set members k merged) rest
end

end LivePanel.Toml.Datum
