import Swimlane.Table
import Swimlane.Value.Basic

/-!
# Laying values over one another

- `Value.overlay`: a value laid over another. Mappings are joined member by member, and a member
  that both have is laid over in turn; any other value takes the place of what was there.
-/

namespace Swimlane.Value

mutual
/-- A value laid over another. -/
def overlay (base : Value) : Value → Value
  | map members =>
    match base with
    | map below => map (overlayMembers below members)
    | _ => map members
  | v => v

/-- Members laid over others. -/
def overlayMembers (base : List (Value × Value)) : List (Value × Value) → List (Value × Value)
  | [] => base
  | (k, v) :: rest =>
    let below := ((base.find? fun p => p.1.sameKey k).map (·.2)).getD .null
    overlayMembers (put k (overlay below v) base) rest
end

/-- Named values laid over others. -/
def overlayAll (base : List (String × Value)) : List (String × Value) → List (String × Value)
  | [] => base
  | (name, v) :: rest =>
    overlayAll (Table.put name (overlay ((base.lookup name).getD .null) v) base) rest

end Swimlane.Value
