import ConditionQuery.Compile.Compiled

/-! Statements that run a compiled condition against its table. -/
namespace ConditionQuery.CompiledCondition

inductive Projection where
  | rows
  | count
  deriving DecidableEq, Repr

def Projection.text : Projection → String
  | .rows => "SELECT *"
  | .count => "SELECT VALUE COUNT(1)"

/-- The statement with the given text of the condition; an empty text leaves all rows. -/
def statement (c : CompiledCondition) (projection : Projection) (text : String) : String :=
  projection.text ++ " FROM " ++ c.table ++
    (if c.join.hasSubSelect then
      " JOIN (SELECT " ++ c.join.subSelectText ++ " FROM " ++ c.table ++ ") AS " ++
        c.join.aliasName ++ " ON " ++ c.join.aggregateJoinText
    else "") ++
    (if text.isEmpty then "" else " WHERE " ++ text)

/-- A membership condition counts, any other condition selects. -/
def projection (c : CompiledCondition) : Projection := if c.membership then .count else .rows

def selectStatement (c : CompiledCondition) : String := c.statement .rows c.text

def existsStatement (c : CompiledCondition) : String := c.statement .count c.text

def query (c : CompiledCondition) : String := c.statement c.projection c.text

end ConditionQuery.CompiledCondition
