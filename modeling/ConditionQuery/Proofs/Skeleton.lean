import ConditionQuery.Proofs.PrintedTree

/-! What the text of a condition tells about its tree, and a reader that finds it in the text. -/
namespace ConditionQuery

/-- A tree without what its text does not show: its values, the tables of its attributes, and the
join keys of its calls. -/
inductive Skeleton where
  | and (left right : Skeleton)
  | or (left right : Skeleton)
  | not (operand : Skeleton)
  | compare (op : CompareOp) (left right : Skeleton)
  | isNull (operand : Skeleton)
  | isIn (operand : Skeleton)
  | math (op : MathOp) (left right : Skeleton)
  | call (space : Option String) (name : String) (args : List Skeleton)
  | value
  | attribute (name : String)
  deriving Repr

namespace Expr

mutual

def skeleton : Expr → Skeleton
  | .and left right => .and (skeleton left) (skeleton right)
  | .or left right => .or (skeleton left) (skeleton right)
  | .not operand => .not (skeleton operand)
  | .compare op left right => .compare op (skeleton left) (skeleton right)
  | .isNull operand => .isNull (skeleton operand)
  | .isIn _ operand => .isIn (skeleton operand)
  | .math op left right => .math op (skeleton left) (skeleton right)
  | .function space name args =>
    let shown := skeletons args
    .call (functionSpace space) name
      (if Call.ofName? space name = some .last then shown.take 1 else shown)
  | .constant _ _ | .streamVariable _ _ _ => .value
  | .storeVariable _ attr _ => .attribute attr

def skeletons : List Expr → List Skeleton
  | [] => []
  | arg :: rest => skeleton arg :: skeletons rest

end

mutual

/-- No test for membership is tested for null. -/
def noNullOverIn : Expr → Bool
  | .and left right | .or left right | .compare _ left right | .math _ left right =>
    noNullOverIn left && noNullOverIn right
  | .not operand | .isIn _ operand => noNullOverIn operand
  | .isNull operand => !operand.isMembership && noNullOverIn operand
  | .function _ _ args => noNullOverInArgs args
  | .constant _ _ | .streamVariable _ _ _ | .storeVariable _ _ _ => true

def noNullOverInArgs : List Expr → Bool
  | [] => true
  | arg :: rest => noNullOverIn arg && noNullOverInArgs rest

end

end Expr

namespace Skeleton

/-- What stands between two neighbours of a text. -/
inductive Item where
  | whole (s : Skeleton)
  /-- A skeleton in parentheses of its own. -/
  | group (s : Skeleton)
  deriving Repr

/-- The skeleton with the tests for null that follow it. -/
def suffixed (s : Skeleton) : List Char → Item × List Char
  | ' ' :: 'I' :: 'S' :: ' ' :: 'N' :: 'U' :: 'L' :: 'L' :: rest => suffixed (.isNull s) rest
  | rest => (.whole s, rest)

/-- What a sign makes of the item before it and the skeleton after it. -/
def joined? : Item → List Char → Option (Skeleton → Skeleton)
  | .group s, ['A', 'N', 'D'] => some (.and s)
  | .group s, ['O', 'R'] => some (.or s)
  | .whole s, ['='] => some (.compare .equal s)
  | .whole s, ['!', '='] => some (.compare .notEqual s)
  | .whole s, ['>'] => some (.compare .greaterThan s)
  | .whole s, ['>', '='] => some (.compare .greaterThanEqual s)
  | .whole s, ['<'] => some (.compare .lessThan s)
  | .whole s, ['<', '='] => some (.compare .lessThanEqual s)
  | .whole s, ['+'] => some (.math .add s)
  | .whole s, ['-'] => some (.math .subtract s)
  | .whole s, ['*'] => some (.math .multiply s)
  | .whole s, ['/'] => some (.math .divide s)
  | .whole s, ['%'] => some (.math .mod s)
  | _, _ => none

/-- An operand may begin with the character. -/
def beginsOperand (c : Char) : Bool := c == '?' || c == '(' || isWordChar c

/-- Whether a word before the text is a keyword, and not an attribute. -/
def takesOperand : List Char → Bool
  | ' ' :: c :: rest => beginsOperand c && !"IS NULL".toList.isPrefixOf (c :: rest)
  | _ => false

/-- The name after a table and a dot. -/
def unqualified (options : CompileOptions) (word : List Char) : String :=
  String.ofList (word.drop (options.table.toList.length + 1))

def columnName (options : CompileOptions) (word : List Char) : String :=
  if options.afterSelect then String.ofList word else unqualified options word

/-- Arguments, the first of which begins the text; `n` bounds their number. -/
def readArgs (read : List Char → Option (Item × List Char)) :
    (n : Nat) → List Char → Option (List Skeleton × List Char)
  | _, ')' :: rest => some ([], rest)
  | 0, _ => none
  | n + 1, cs =>
    match read cs with
    | some (.whole s, ')' :: rest) => some ([s], rest)
    | some (.whole s, ',' :: ' ' :: rest) =>
      (readArgs read n rest).map fun (ss, rest) => (s :: ss, rest)
    | _ => none

/-- A call of the function, the text beginning after its opening parenthesis. -/
def readCall (options : CompileOptions) (read : List Char → Option (Item × List Char))
    (name cs : List Char) : Option (Item × List Char) :=
  if name = "MAX".toList then
    let value := unqualified options (cs.takeWhile isWordChar)
    match cs.dropWhile isWordChar with
    | ')' :: rest =>
      some (suffixed (.call (some "incrementalAggregator") "last" [.attribute value]) rest)
    | _ => none
  else
    (readArgs read cs.length cs).map fun (args, rest) =>
      suffixed
        (if name = "CONTAINS".toList then .call (some "str") "contains" args
        else .call none (String.ofList name) args)
        rest

/-- What begins with the word. -/
def readWord (options : CompileOptions) (read : List Char → Option (Item × List Char))
    (word cs : List Char) : Option (Item × List Char) :=
  match cs with
  | '(' :: rest => readCall options read word rest
  | _ =>
    if takesOperand cs then
      match read cs.tail with
      | some (.group s, rest) => if word = "NOT".toList then some (suffixed (.not s) rest) else none
      | some (.whole s, rest) => if word = "IN".toList then some (.whole (.isIn s), rest) else none
      | none => none
    else some (suffixed (.attribute (columnName options word)) cs)

/-- What begins with an opening parenthesis, the text beginning after it. -/
def readGroup (read : List Char → Option (Item × List Char)) (cs : List Char) :
    Option (Item × List Char) :=
  match read cs with
  | some (.whole s, ')' :: rest) => some (.group s, rest)
  | some (item, ' ' :: rest) =>
    match joined? item (rest.takeWhile (· ≠ ' ')), read (rest.dropWhile (· ≠ ' ')).tail with
    | some join, some (.whole s, ')' :: rest) => some (suffixed (join s) rest)
    | _, _ => none
  | _ => none

/-- The item at the start of a text, and the text after it; `n` bounds the length of the item. -/
def readItem (options : CompileOptions) : (n : Nat) → List Char → Option (Item × List Char)
  | 0, _ => none
  | _ + 1, '?' :: rest => some (suffixed .value rest)
  | n + 1, '(' :: rest => readGroup (readItem options n) rest
  | n + 1, cs =>
    readWord options (readItem options n) (cs.takeWhile isWordChar) (cs.dropWhile isWordChar)

/-- The skeleton that a text shows. -/
def read (options : CompileOptions) (text : String) : Option Skeleton :=
  match readItem options text.toList.length text.toList with
  | some (.whole s, []) => some s
  | _ => none

end Skeleton
end ConditionQuery
