import ConditionQuery.Compile.Emission
import ConditionQuery.Proofs.PlaceholderNames

/-! What a walk does, said without the walk: the first fault of a tree, or else the entries that it
makes in a draft, in their order. -/
namespace ConditionQuery

/-- One thing that a walk adds to a draft. -/
inductive Entry where
  | token (t : String)
  | value (pattern : Bool) (holder : ValueHolder)
  /-- An attribute of the table that equals the sub-select's. -/
  | correlated (attr : String)
  /-- A sub-select of the greatest key. -/
  | latest (key : String)

namespace Draft

variable (options : CompileOptions)

def write (d : Draft) : Entry → Draft
  | .token t => { d with text := addToken d.text t }
  | .value pattern holder =>
    let named := d.names.next holder.kind pattern
    { d with
      text := addToken d.text (marker named.1)
      placeholders := d.placeholders.insert named.1 holder
      names := named.2 }
  | .correlated attr =>
    let fragment := options.table ++ "." ++ attr ++ " = " ++ d.join.aliasName ++ "." ++ attr
    { d with join := { d.join with outerJoin := d.join.outerJoin ++ [fragment] } }
  | .latest key =>
    let qualified := options.table ++ "." ++ key
    let fragment := qualified ++ " = " ++ d.join.aliasName ++ ".MAX_" ++ key
    { d with
      join := { d.join with
        subSelect := d.join.subSelect ++ ["MAX(" ++ qualified ++ ") AS MAX_" ++ key]
        aggregateJoin := d.join.aggregateJoin ++ [fragment]
        outerJoin := d.join.outerJoin ++ [fragment] } }

/-- The draft after some entries; `pattern` says whether the next value is a pattern. -/
def after (entries : List Entry) (pattern : Bool) (d : Draft) : Draft :=
  { entries.foldl (write options) d with patternNext := pattern }

theorem write_patternNext (pattern : Bool) (d : Draft) (entry : Entry) :
    write options { d with patternNext := pattern } entry =
      { write options d entry with patternNext := pattern } := by
  cases entry <;> rfl

theorem foldl_write_patternNext (pattern : Bool) (entries : List Entry) (d : Draft) :
    entries.foldl (write options) { d with patternNext := pattern } =
      { entries.foldl (write options) d with patternNext := pattern } := by
  induction entries generalizing d with
  | nil => rfl
  | cons entry entries ih => rw [List.foldl_cons, write_patternNext, ih, List.foldl_cons]

theorem after_after (first second : List Entry) (p q : Bool) (d : Draft) :
    after options second q (after options first p d) = after options (first ++ second) q d := by
  simp only [after, foldl_write_patternNext, List.foldl_append]

@[simp] theorem after_next (entries : List Entry) (pattern : Bool) (d : Draft) :
    (after options entries pattern d).patternNext = pattern := rfl

end Draft

namespace Expr

mutual

/-- The tree has a value that is not inside a text search. -/
def hasOwnValue : Expr → Bool
  | .and left right | .or left right | .compare _ left right | .math _ left right =>
    hasOwnValue left || hasOwnValue right
  | .not operand | .isNull operand | .isIn _ operand => hasOwnValue operand
  | .function space name args =>
    match Call.ofName? space name with
    | some .aggregate => someHasOwnValue args
    | _ => false
  | .constant _ _ | .streamVariable _ _ _ => true
  | .storeVariable _ _ _ => false

def someHasOwnValue : List Expr → Bool
  | [] => false
  | arg :: rest => hasOwnValue arg || someHasOwnValue rest

end

/-- What a call of the most recent value is given: the value attribute and the join key. -/
def lastCall (role : Role) (args : List Expr) : Except CompileError (String × String) :=
  lastOperands args >>= lastPair role

def faultOf {α : Type} : Except CompileError α → Option CompileError
  | .error err => some err
  | .ok _ => none

mutual

/-- Why the tree cannot be compiled; the first fault in the order of a walk counts. -/
def fault (role : Role) : Expr → Option CompileError
  | .and left right | .or left right | .math _ left right =>
    (fault .free left).or (fault .free right)
  | .compare op left right =>
    (fault (roles op left right).1 left).or (fault (roles op left right).2 right)
  | .not operand | .isNull operand | .isIn _ operand => fault .free operand
  | .function space name args =>
    match Call.ofName? space name with
    | none => some (.unsupportedFunction (qualifiedName space name))
    | some .last => faultOf (lastCall role args)
    | some _ => faultOfArgs args
  | .constant _ _ | .streamVariable _ _ _ | .storeVariable _ _ _ => none

def faultOfArgs : List Expr → Option CompileError
  | [] => none
  | arg :: rest => (fault .free arg).or (faultOfArgs rest)

end

/-- A column of the table, as it stands in the text. -/
def columnText (options : CompileOptions) (attr : String) : String :=
  if options.afterSelect then attr else options.table ++ "." ++ attr

/-- The entries of an attribute. Correlated are those that neither follow a projection nor serve as
a join key. -/
def columnEntries (options : CompileOptions) (role : Role) (attr : String) : List Entry :=
  .token (columnText options attr) ::
    if options.afterSelect || role == .joinKey then [] else [.correlated attr]

def lastEntries (options : CompileOptions) :
    Except CompileError (String × String) → List Entry
  | .error _ => []
  | .ok (value, key) => [.latest key, .token ("MAX(" ++ options.table ++ "." ++ value ++ ")")]

mutual

/-- The entries of a tree without faults; `pattern` says whether its first value is a pattern. -/
def entries (options : CompileOptions) (role : Role) (pattern : Bool) : Expr → List Entry
  | .and left right =>
    [.token "(", .token "("] ++ entries options .free pattern left ++
      [.token ")", .token "AND"] ++
      entries options .free (pattern && !left.hasOwnValue) right ++ [.token ")"]
  | .or left right =>
    [.token "(", .token "("] ++ entries options .free pattern left ++
      [.token ")", .token "OR"] ++
      entries options .free (pattern && !left.hasOwnValue) right ++ [.token ")"]
  | .not operand =>
    [.token "NOT", .token "("] ++ entries options .free pattern operand ++ [.token ")"]
  | .compare op left right =>
    [.token "("] ++ entries options (roles op left right).1 pattern left ++
      [.token op.token] ++
      entries options (roles op left right).2 (pattern && !left.hasOwnValue) right ++ [.token ")"]
  | .isNull operand => entries options .free pattern operand ++ [.token "IS NULL"]
  | .isIn _ operand => [.token "IN"] ++ entries options .free pattern operand
  | .math op left right =>
    [.token "("] ++ entries options .free pattern left ++ [.token op.token] ++
      entries options .free (pattern && !left.hasOwnValue) right ++ [.token ")"]
  | .function space name args =>
    match Call.ofName? space name with
    | none => []
    | some .aggregate =>
      [.token (name ++ "(")] ++ entriesOfArgs options pattern true args ++ [.token ")"]
    | some .contains =>
      [.token "CONTAINS("] ++ entriesOfArgs options true true args ++ [.token ")"]
    | some .last => lastEntries options (lastCall role args)
  | .constant v type => [.value pattern (.constant v type)]
  | .streamVariable id _ type => [.value pattern (.event id type)]
  | .storeVariable _ attr _ => columnEntries options role attr

def entriesOfArgs (options : CompileOptions) (pattern first : Bool) : List Expr → List Entry
  | [] => []
  | arg :: rest =>
    (if first then [] else [.token ","]) ++ entries options .free pattern arg ++
      entriesOfArgs options (pattern && !arg.hasOwnValue) false rest

end

end Expr

end ConditionQuery
