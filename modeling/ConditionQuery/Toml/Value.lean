/-! TOML values. A table remembers how it came to be, as that decides who may still add to it. -/
namespace ConditionQuery.Toml

inductive Origin where
  | header
  /-- Opened on the way to a header further down. -/
  | ancestor
  | dotted
  /-- Written between braces, and complete. -/
  | inline
  deriving DecidableEq, Repr

inductive Value where
  | string (s : String)
  | integer (n : Int)
  | float
  | boolean (b : Bool)
  | moment
  | array (items : List Value)
  | table (origin : Origin) (members : List (String × Value))
  /-- The tables under a doubly bracketed header, the newest first. -/
  | tables (items : List (List (String × Value)))
  deriving Inhabited

abbrev Members := List (String × Value)

namespace Members

def get? (members : Members) (key : String) : Option Value :=
  (members.find? fun m => m.1 == key).map (·.2)

def set (members : Members) (key : String) (value : Value) : Members :=
  (key, value) :: members.filter fun m => m.1 != key

end Members
end ConditionQuery.Toml
