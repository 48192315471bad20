import ConditionQuery.Text.Basic

/-! The paths under which a hub answers, and the methods that each admits. -/
namespace ConditionQuery

inductive Method where
  | get
  | head
  | post
  | delete
  | options
  | other (name : String)
  deriving DecidableEq, Repr

namespace Method

def name : Method → String
  | .get => "GET"
  | .head => "HEAD"
  | .post => "POST"
  | .delete => "DELETE"
  | .options => "OPTIONS"
  | .other name => name

def ofName (name : String) : Method :=
  ([.get, .head, .post, .delete, .options].find? fun m => m.name == name).getD (.other name)

end Method

/-- Ids stand as in the path. -/
inductive Route where
  | status
  | compile
  | conditions
  | condition (id : String)
  | binding (id : String)
  deriving DecidableEq, Repr

namespace Route

/-- The route of a path, of which the part after a question mark does not count. -/
def ofPath? (path : String) : Option Route :=
  let segments := Text.split (· == '/') (path.toList.takeWhile (· != '?'))
  match segments.map String.ofList with
  | ["", "api", "status"] => some .status
  | ["", "api", "compile"] => some .compile
  | ["", "api", "conditions"] => some .conditions
  | ["", "api", "conditions", id] => if id = "" then none else some (.condition id)
  | ["", "api", "conditions", id, "bind"] => if id = "" then none else some (.binding id)
  | _ => none

def allowed : Route → List Method
  | .status => [.get, .head]
  | .compile => [.post]
  | .conditions => [.get, .head, .post]
  | .condition _ => [.get, .head, .delete]
  | .binding _ => [.post]

end Route

end ConditionQuery
