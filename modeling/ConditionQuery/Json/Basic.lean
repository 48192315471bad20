import ConditionQuery.Decimal.Binary64

/-! JSON values. Integers and doubles are different kinds of number, and an object is the list of
its members as written, which may repeat a key. The canonical form of a value has its keys sorted
and each key once. -/
namespace ConditionQuery

inductive Json where
  | null
  | bool (b : Bool)
  | int (n : Int)
  | double (d : Binary64)
  | string (s : String)
  | array (items : List Json)
  | object (members : List (String × Json))
  deriving Inhabited

namespace Json

abbrev Members := List (String × Json)

def Members.get? (members : Members) (key : String) : Option Json :=
  (members.find? fun m => m.1 == key).map (·.2)

/-- The members in the order of their keys, each key once; a key already there takes the new
value. -/
def Members.insert (key : String) (value : Json) : Members → Members
  | [] => [(key, value)]
  | (k, v) :: rest =>
    if key < k then (key, value) :: (k, v) :: rest
    else if key = k then (key, value) :: rest
    else (k, v) :: Members.insert key value rest

/-- Sorts members by key; of members with one key the last is kept. -/
def Members.sort (members : Members) : Members :=
  members.foldl (fun sorted (k, v) => sorted.insert k v) []

mutual

/-- Keys sorted and each key once, at every level. -/
def canonical : Json → Json
  | .array items => .array (canonicalItems items)
  | .object members => .object (Members.sort (canonicalMembers members))
  | .null => .null
  | .bool b => .bool b
  | .int n => .int n
  | .double d => .double d
  | .string s => .string s

def canonicalItems : List Json → List Json
  | [] => []
  | item :: rest => canonical item :: canonicalItems rest

def canonicalMembers : Members → Members
  | [] => []
  | (key, value) :: rest => (key, canonical value) :: canonicalMembers rest

end

def get? (v : Json) (key : String) : Option Json :=
  match v with
  | .object members => Members.get? members key
  | _ => none

def string? : Json → Option String
  | .string s => some s
  | _ => none

def isString (v : Json) : Bool := v.string?.isSome

def strings (items : List String) : Json := .array (items.map .string)

end Json
end ConditionQuery
