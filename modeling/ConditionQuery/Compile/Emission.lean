import ConditionQuery.Compile.Call
import ConditionQuery.Compile.Compiled
import ConditionQuery.Compile.Options

/-! Compiling a predicate tree. One walk writes the text of the condition, in which a marker stands
for each value, and collects the values and the fragments of the join. -/
namespace ConditionQuery

structure Draft where
  text : String
  placeholders : PlaceholderTable
  names : PlaceholderNames
  join : CorrelatedJoin
  /-- The next value is the pattern of a text search. -/
  patternNext : Bool

def Draft.start (options : CompileOptions) : Draft :=
  ⟨"", [], .start, .empty options.subqueryAlias, false⟩

/-- Whether a token follows a text without a blank between them: at the start, after an opening
parenthesis, and before a closing one or a comma. -/
def isGlued (text token : String) : Bool :=
  text.isEmpty || text.back? == some '(' ||
    token.toList.head? == some ')' || token.toList.head? == some ','

def addToken (text token : String) : String :=
  (if isGlued text token then text else text ++ " ") ++ token

abbrev Emit := StateT Draft (Except CompileError)

namespace Emit

def token (t : String) : Emit Unit :=
  modify fun d => { d with text := addToken d.text t }

def value (name : String) (names : PlaceholderNames) (holder : ValueHolder) : Emit Unit :=
  modify fun d =>
    { d with
      text := addToken d.text (marker name)
      placeholders := d.placeholders.insert name holder
      names := names
      patternNext := false }

def constant (v : Literal) (type : AttributeType) : Emit Unit := do
  let d ← get
  let (name, names) := d.names.constant d.patternNext
  value name names (.constant v type)

def streamVariable (id : String) (type : AttributeType) : Emit Unit := do
  let d ← get
  let (name, names) := d.names.streamVariable d.patternNext
  value name names (.event id type)

/-- An attribute of the table. Unless it follows a projection or serves as a join key, it is
correlated with the sub-select. -/
def storeVariable (options : CompileOptions) (role : Expr.Role) (attr : String) : Emit Unit := do
  if options.afterSelect then token attr
  else
    let qualified := options.table ++ "." ++ attr
    token qualified
    if role ≠ .joinKey then
      modify fun d =>
        let fragment := qualified ++ " = " ++ d.join.aliasName ++ "." ++ attr
        { d with join := { d.join with outerJoin := d.join.outerJoin ++ [fragment] } }

/-- The most recent value of an attribute: its greatest value, joined with a sub-select of the
greatest key. -/
def last (options : CompileOptions) (value key : String) : Emit Unit := do
  modify fun d =>
    let qualified := options.table ++ "." ++ key
    let projection := "MAX(" ++ qualified ++ ") AS MAX_" ++ key
    let fragment := qualified ++ " = " ++ d.join.aliasName ++ ".MAX_" ++ key
    { d with
      join := { d.join with
        subSelect := d.join.subSelect ++ [projection]
        aggregateJoin := d.join.aggregateJoin ++ [fragment]
        outerJoin := d.join.outerJoin ++ [fragment] } }
  token ("MAX(" ++ options.table ++ "." ++ value ++ ")")

/-- Sets whether the next value is a pattern, and answers what was set before. -/
def exchangePattern (patternNext : Bool) : Emit Bool :=
  modifyGet fun d => (d.patternNext, { d with patternNext := patternNext })

end Emit

namespace Expr
open Emit

mutual

def emit (options : CompileOptions) (role : Role) : Expr → Emit Unit
  | .and left right => do
    token "("; token "("; emit options .free left; token ")"
    token "AND"; emit options .free right; token ")"
  | .or left right => do
    token "("; token "("; emit options .free left; token ")"
    token "OR"; emit options .free right; token ")"
  | .not operand => do token "NOT"; token "("; emit options .free operand; token ")"
  | .compare op left right => do
    let (leftRole, rightRole) := roles op left right
    token "("; emit options leftRole left
    token op.token; emit options rightRole right; token ")"
  | .isNull operand => do emit options .free operand; token "IS NULL"
  | .isIn _ operand => do token "IN"; emit options .free operand
  | .math op left right => do
    token "("; emit options .free left; token op.token; emit options .free right; token ")"
  | .function space name args => do
    match ← Call.ofName space name with
    | .aggregate => token (name ++ "("); emitArgs options true args; token ")"
    | .contains =>
      token "CONTAINS("
      let outer ← exchangePattern true
      emitArgs options true args
      let _ ← exchangePattern outer
      token ")"
    | .last =>
      let (value, key) ← lastPair role (← lastOperands args)
      last options value key
  | .constant v type => Emit.constant v type
  | .streamVariable id _ type => Emit.streamVariable id type
  | .storeVariable _ attr _ => Emit.storeVariable options role attr

def emitArgs (options : CompileOptions) (first : Bool) : List Expr → Emit Unit
  | [] => return ()
  | arg :: rest => do
    if !first then token ","
    emit options .free arg
    emitArgs options false rest

end

/-- Whether the tree asks for membership in a table. -/
def isMembership : Expr → Bool
  | .isIn _ _ => true
  | _ => false

def finish (e : Expr) (options : CompileOptions) (d : Draft) : CompiledCondition :=
  let p := parametrize d.text d.placeholders
  { table := options.table
    text := p.text
    parameters := p.parameters
    patternOrdinals := p.patternOrdinals
    markerOffsets := p.markerOffsets
    join := d.join
    membership := e.isMembership }

def compile (e : Expr) (options : CompileOptions) : Except CompileError CompiledCondition := do
  let (_, draft) ← (emit options .free e).run (.start options)
  return e.finish options draft

end Expr
end ConditionQuery
