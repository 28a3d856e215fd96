import Forge.Json.Value
import Forge.Text.Search
import Forge.Time.Stamp

/-!
# Readable companions of time stamps

A document shows its times twice: beside a member whose name ends in `_at` and whose value is a
time in milliseconds stands a companion, whose name has `_iso` added and whose value is the text
of the time. `withStamps` adds the companions at every depth.
-/

namespace Forge.Json

/-- Whether the member of this name may hold a time. -/
def namesTime (key : String) : Bool :=
  Text.endsWith "_at" key

/-- The name of the companion of a member. -/
def companionName (key : String) : String :=
  key ++ "_iso"

/-- The text of a value that is a time in milliseconds. -/
def stampText? : Json → Option String
  | .int ms => Stamp.isoText? ms
  | _ => none

/-- The members after `key` has been added with the value `shown`, and its companion if
`value` is a time. -/
def addMember (key : String) (value shown : Json) (done : List (String × Json)) :
    List (String × Json) :=
  let done := Named.put key shown done
  match (if namesTime key then stampText? value else none) with
  | some s => Named.put (companionName key) (.str s) done
  | none => done

mutual

/-- The value with the companions of all its times. -/
def withStamps : Json → Json
  | .arr vs => .arr (itemsWithStamps vs)
  | .obj ms => .obj (membersWithStamps [] ms)
  | v => v

/-- Every item with its companions. -/
def itemsWithStamps : List Json → List Json
  | [] => []
  | v :: vs => withStamps v :: itemsWithStamps vs

/-- The members `done` followed by the given ones with their companions. -/
def membersWithStamps (done : List (String × Json)) : List (String × Json) → List (String × Json)
  | [] => done
  | (k, v) :: ms => membersWithStamps (addMember k v (withStamps v) done) ms

end

end Forge.Json
