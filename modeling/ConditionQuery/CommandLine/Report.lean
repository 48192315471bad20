import ConditionQuery.Compile.Statement
import ConditionQuery.Text.Grid

/-! A compiled condition as it is shown to a reader. -/
namespace ConditionQuery.CommandLine

def parameterHeader : List String := ["ordinal", "holder", "name", "type", "pattern"]

def parameterRow (c : CompiledCondition) (ordinal : Nat) (holder : ValueHolder) : List String :=
  let name := match holder with
    | .constant value _ => value.display
    | .event id _ => id
  [toString ordinal, holder.kind.name, name, holder.type.label,
    if c.isPattern ordinal then "true" else "false"]

/-- A line that is there only if there is something to list. -/
def listLine (label text : String) (entries : List String) : String :=
  if entries.isEmpty then "" else label ++ text ++ "\n"

def report (c : CompiledCondition) : String :=
  "Condition: " ++ c.text ++ "\n" ++
    (if c.parameterCount = 0 then ""
      else Text.grid parameterHeader
        (c.parameters.entries.map fun (ordinal, holder) => parameterRow c ordinal holder)) ++
    listLine "Sub-select: " c.join.subSelectText c.join.subSelect ++
    listLine "Join on:    " c.join.outerJoinText c.join.outerJoin ++
    "Query:      " ++ c.query ++ "\n" ++
    "Exists:     " ++ c.existsStatement ++ "\n"

end ConditionQuery.CommandLine
