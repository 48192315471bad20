import ConditionQuery.Condition.AttributeType
import ConditionQuery.Condition.Literal
import ConditionQuery.Condition.Operator
import ConditionQuery.Text.Basic

/-! Predicate trees over the attributes of an event and of a table. -/
namespace ConditionQuery

inductive Expr where
  | and (left right : Expr)
  | or (left right : Expr)
  | not (operand : Expr)
  | compare (op : CompareOp) (left right : Expr)
  | isNull (operand : Expr)
  | isIn (storeId : String) (operand : Expr)
  | math (op : MathOp) (left right : Expr)
  | function (space : Option String) (name : String) (args : List Expr)
  | constant (value : Literal) (type : AttributeType)
  | streamVariable (id : String) (streamId : Option String) (type : AttributeType)
  | storeVariable (storeId attr : String) (type : AttributeType)
  deriving Repr, Inhabited

/-- The namespace of a function without the blanks around it; a blank one counts as none. -/
def functionSpace (space : Option String) : Option String :=
  (space.map Text.trim).filter (· ≠ "")

def qualifiedName (space : Option String) (name : String) : String :=
  match functionSpace space with
  | some space => space ++ ":" ++ name
  | none => name

namespace Expr

mutual

/-- The tree in the form of the stream query language. -/
def display : Expr → String
  | .and left right => "(" ++ display left ++ " and " ++ display right ++ ")"
  | .or left right => "(" ++ display left ++ " or " ++ display right ++ ")"
  | .not operand => "not (" ++ display operand ++ ")"
  | .compare op left right =>
    "(" ++ display left ++ " " ++ op.display ++ " " ++ display right ++ ")"
  | .isNull operand => display operand ++ " is null"
  | .isIn storeId operand => display operand ++ " in " ++ storeId
  | .math op left right => "(" ++ display left ++ " " ++ op.token ++ " " ++ display right ++ ")"
  | .function space name args =>
    qualifiedName space name ++ "(" ++ ", ".intercalate (displayArgs args) ++ ")"
  | .constant value _ => value.display
  | .streamVariable id _ _ => id
  | .storeVariable storeId attr _ => storeId ++ "." ++ attr

def displayArgs : List Expr → List String
  | [] => []
  | arg :: rest => display arg :: displayArgs rest

end

mutual

/-- The attributes of tables that the tree names, in the order of a walk. -/
def storeAttributes : Expr → List String
  | .and left right | .or left right | .compare _ left right | .math _ left right =>
    storeAttributes left ++ storeAttributes right
  | .not operand | .isNull operand | .isIn _ operand => storeAttributes operand
  | .function _ _ args => storeAttributesOfArgs args
  | .constant _ _ | .streamVariable _ _ _ => []
  | .storeVariable _ attr _ => [attr]

def storeAttributesOfArgs : List Expr → List String
  | [] => []
  | arg :: rest => storeAttributes arg ++ storeAttributesOfArgs rest

end

end Expr
end ConditionQuery
