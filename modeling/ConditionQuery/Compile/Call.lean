import ConditionQuery.Condition.Expr

/-! The functions that a condition may call, and why a tree that calls others cannot be compiled. -/
namespace ConditionQuery

inductive CompileError where
  | unsupportedFunction (name : String)
  /-- An argument of the most recent value that is no attribute of the table, as it is shown. -/
  | lastArgument (shown : String)
  /-- A number of attributes other than two for the most recent value. -/
  | lastCount (found : Nat)
  deriving DecidableEq, Repr

def CompileError.message : CompileError → String
  | .unsupportedFunction name =>
    "conditions support only sum(), avg(), min(), max(), str:contains() and " ++
      "incrementalAggregator:last(), but function '" ++ name ++ "' was specified"
  | .lastArgument shown =>
    "incrementalAggregator:last() cannot be lowered: " ++
      "arguments must be table attributes, found '" ++ shown ++ "'"
  | .lastCount found =>
    "incrementalAggregator:last() cannot be lowered: " ++
      "expected a value attribute and a join attribute, found " ++ toString found ++
      " attribute(s)"

inductive Call where
  | aggregate
  | contains
  /-- The most recent value of an attribute. -/
  | last
  deriving DecidableEq, Repr

namespace Call

def aggregates : List String := ["sum", "avg", "min", "max"]

def supported : List String := aggregates ++ ["str:contains", "incrementalAggregator:last"]

def ofName? (space : Option String) (name : String) : Option Call :=
  match functionSpace space with
  | none => if name ∈ aggregates then some .aggregate else none
  | some space =>
    if space = "str" ∧ name = "contains" then some .contains
    else if space = "incrementalAggregator" ∧ name = "last" then some .last
    else none

def ofName (space : Option String) (name : String) : Except CompileError Call :=
  match ofName? space name with
  | some call => .ok call
  | none => .error (.unsupportedFunction (qualifiedName space name))

end Call

namespace Expr

/-- A call of the most recent value with one argument, which takes its join key from the equation
that it stands in. -/
def isSingleLast : Expr → Bool
  | .function space name [_] => Call.ofName? space name == some .last
  | _ => false

/-- The part an expression plays in the comparison that it is an operand of. -/
inductive Role where
  | free
  /-- The attribute that serves the other operand as its join key. -/
  | joinKey
  /-- A call of the most recent value joined on the attribute. -/
  | keyedBy (key : String)
  deriving DecidableEq, Repr

def roles (op : CompareOp) (left right : Expr) : Role × Role :=
  match op, left, right with
  | .equal, left, .storeVariable _ key _ =>
    if left.isSingleLast then (.keyedBy key, .joinKey) else (.free, .free)
  | .equal, .storeVariable _ key _, right =>
    if right.isSingleLast then (.joinKey, .keyedBy key) else (.free, .free)
  | _, _, _ => (.free, .free)

def lastOperands : List Expr → Except CompileError (List String)
  | [] => .ok []
  | .storeVariable _ attr _ :: rest => do return attr :: (← lastOperands rest)
  | arg :: _ => .error (.lastArgument arg.display)

/-- The value attribute and the join key of a call of the most recent value. -/
def lastPair (role : Role) (operands : List String) : Except CompileError (String × String) :=
  let operands := match role, operands with
    | .keyedBy key, [value] => [value, key]
    | _, operands => operands
  match operands with
  | [value, key] => .ok (value, key)
  | _ => .error (.lastCount operands.length)

end Expr
end ConditionQuery
