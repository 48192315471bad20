import ConditionQuery.Proofs.Printing
import ConditionQuery.Proofs.Skeleton

/-! The printed tree with positional markers, one equation for each kind of tree. -/
namespace ConditionQuery.Expr

variable {options : CompileOptions}

mutual

theorem printed_const (s : String) (k k' : Nat) (e : Expr) :
    e.printed options (fun _ => s) k = e.printed options (fun _ => s) k' := by
  cases e with
  | and left right | or left right | compare op left right | math op left right =>
    have first := printed_const s k k' left
    have second := printed_const s (k + left.holders.length) (k' + left.holders.length) right
    simp only [printed, first, second]
  | not operand | isNull operand | isIn storeId operand =>
    have inner := printed_const s k k' operand
    simp only [printed, inner]
  | function space name args =>
    have inner := printedArgs_const s k k' args
    simp only [printed, inner]
  | constant v type | streamVariable id streamId type | storeVariable storeId attr type => rfl

theorem printedArgs_const (s : String) (k k' : Nat) (args : List Expr) :
    printedArgs options (fun _ => s) k args = printedArgs options (fun _ => s) k' args := by
  cases args with
  | nil => rfl
  | cons arg rest =>
    have first := printed_const s k k' arg
    have others := printedArgs_const s (k + arg.holders.length) (k' + arg.holders.length) rest
    simp only [printedArgs, first, others]

end

/-- The characters of the tree printed with positional markers. -/
def shown (options : CompileOptions) (e : Expr) : List Char :=
  (e.printed options (fun _ => "?") 1).toList

/-- Arguments as they are shown, the text beginning after a separator unless they are first. -/
def shownArgs (options : CompileOptions) (args : List Expr) : List Char :=
  (", ".intercalate (printedArgs options (fun _ => "?") 1 args)).toList

theorem toList_printed (k : Nat) (e : Expr) :
    (e.printed options (fun _ => "?") k).toList = e.shown options := by
  rw [shown, printed_const "?" k 1]

theorem shownArgs_singleton (arg : Expr) : shownArgs options [arg] = arg.shown options := by
  simp [shownArgs, printedArgs, shown]

theorem shownArgs_cons_cons (arg second : Expr) (rest : List Expr) :
    shownArgs options (arg :: second :: rest) =
      arg.shown options ++ ',' :: ' ' :: shownArgs options (second :: rest) := by
  have others : printedArgs options (fun _ => "?") (1 + arg.holders.length) (second :: rest) =
      printedArgs options (fun _ => "?") 1 (second :: rest) := printedArgs_const ..
  rw [shownArgs, printedArgs, others, shownArgs, printedArgs, String.intercalate_cons_cons]
  simp [shown]

section Shown

variable (options : CompileOptions) (left right operand : Expr) (rest : List Char)

theorem shown_and : (Expr.and left right).shown options ++ rest =
    '(' :: '(' :: (left.shown options ++ ')' :: ' ' :: ("AND".toList ++
      ' ' :: (right.shown options ++ ')' :: rest))) := by
  rw [shown, printed]
  simp [toList_printed]

theorem shown_or : (Expr.or left right).shown options ++ rest =
    '(' :: '(' :: (left.shown options ++ ')' :: ' ' :: ("OR".toList ++
      ' ' :: (right.shown options ++ ')' :: rest))) := by
  rw [shown, printed]
  simp [toList_printed]

theorem shown_compare (op : CompareOp) : (Expr.compare op left right).shown options ++ rest =
    '(' :: (left.shown options ++ ' ' :: (op.token.toList ++
      ' ' :: (right.shown options ++ ')' :: rest))) := by
  rw [shown, printed]
  simp [toList_printed]

theorem shown_math (op : MathOp) : (Expr.math op left right).shown options ++ rest =
    '(' :: (left.shown options ++ ' ' :: (op.token.toList ++
      ' ' :: (right.shown options ++ ')' :: rest))) := by
  rw [shown, printed]
  simp [toList_printed]

theorem shown_not : (Expr.not operand).shown options ++ rest =
    "NOT".toList ++ ' ' :: '(' :: (operand.shown options ++ ')' :: rest) := by
  rw [shown, printed]
  simp [toList_printed]

theorem shown_isNull : (Expr.isNull operand).shown options ++ rest =
    operand.shown options ++ (" IS NULL".toList ++ rest) := by
  rw [shown, printed]
  simp [toList_printed]

theorem shown_isIn (storeId : String) : (Expr.isIn storeId operand).shown options ++ rest =
    "IN".toList ++ ' ' :: (operand.shown options ++ rest) := by
  rw [shown, printed]
  simp [toList_printed]

theorem shown_aggregate {space : Option String} {name : String}
    (named : Call.ofName? space name = some .aggregate) (args : List Expr) :
    (Expr.function space name args).shown options ++ rest =
      name.toList ++ '(' :: (shownArgs options args ++ ')' :: rest) := by
  simp [shown, printed, named, shownArgs]

theorem shown_contains {space : Option String} {name : String}
    (named : Call.ofName? space name = some .contains) (args : List Expr) :
    (Expr.function space name args).shown options ++ rest =
      "CONTAINS".toList ++ '(' :: (shownArgs options args ++ ')' :: rest) := by
  simp [shown, printed, named, shownArgs]

theorem shown_last {role : Role} {space : Option String} {name value key : String}
    {args : List Expr} (named : Call.ofName? space name = some .last)
    (accepted : lastCall role args = .ok (value, key)) :
    (Expr.function space name args).shown options ++ rest =
      "MAX".toList ++ '(' :: ((options.table ++ "." ++ value).toList ++ ')' :: rest) := by
  rw [shown, printed]
  simp [named, lastText_of_lastCall accepted]

theorem shown_constant (v : Literal) (type : AttributeType) :
    (Expr.constant v type).shown options ++ rest = '?' :: rest := by
  simp [shown, printed]

theorem shown_streamVariable (id : String) (streamId : Option String) (type : AttributeType) :
    (Expr.streamVariable id streamId type).shown options ++ rest = '?' :: rest := by
  simp [shown, printed]

theorem shown_storeVariable (storeId attr : String) (type : AttributeType) :
    (Expr.storeVariable storeId attr type).shown options ++ rest =
      (columnText options attr).toList ++ rest := by
  rw [shown, printed]

end Shown

end ConditionQuery.Expr
