import ConditionQuery.Condition.Holder

/-! Names for the values of a condition that is being compiled. Constants and stream variables are
counted separately; a name says whether the value is the pattern of a text search. -/
namespace ConditionQuery

/-- What the names of pattern contents begin with. -/
def patternMark : String := "pattern-"

/-- How many names have been given to constants and to stream variables. -/
structure PlaceholderNames where
  constants : Nat
  streamVariables : Nat
  deriving DecidableEq, Repr

namespace PlaceholderNames

def start : PlaceholderNames := ⟨0, 0⟩

def constant (pattern : Bool) (names : PlaceholderNames) : String × PlaceholderNames :=
  ((if pattern then patternMark ++ "value" else "const") ++ names.constants.repr,
    { names with constants := names.constants + 1 })

def streamVariable (pattern : Bool) (names : PlaceholderNames) : String × PlaceholderNames :=
  ((if pattern then patternMark ++ "variable" else "streamVar") ++ names.streamVariables.repr,
    { names with streamVariables := names.streamVariables + 1 })

end PlaceholderNames

def isPatternName (name : String) : Bool := patternMark.toList.isPrefixOf name.toList

/-- The values that names stand for, the newest first. -/
abbrev PlaceholderTable := List (String × ValueHolder)

namespace PlaceholderTable

def get? (table : PlaceholderTable) (name : String) : Option ValueHolder :=
  (table.find? fun entry => entry.1 == name).map (·.2)

def insert (table : PlaceholderTable) (name : String) (holder : ValueHolder) : PlaceholderTable :=
  (name, holder) :: table

end PlaceholderTable

/-- A name as it stands in the text of a condition. -/
def marker (name : String) : String := "[" ++ name ++ "]"

end ConditionQuery
