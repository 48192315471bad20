import ConditionQuery.Json.Numeral
import ConditionQuery.Json.StringBody

/-! Reading JSON values, and passing over values that are not wanted. Values that are read may nest
127 brackets deep. -/
namespace ConditionQuery.Json.Reading

def maxDepth : Nat := 127

def word : List Char → Reading Unit
  | [] => return ()
  | c :: cs => do
    match ← peek? with
    | none => fail .endInValue
    | some d =>
      if d ≠ c then failNext .expectedWord
      skip
      word cs

/-- Whether another item of a list follows; passes over the comma before it. -/
def hasItem (first : Bool) : Reading Bool := do
  match ← token? with
  | none => failNext .endInList
  | some ']' => return false
  | some ',' =>
    if first then return true
    skip
    match ← token? with
    | none => failNext .endInValue
    | some ']' => failNext .trailingComma
    | some _ => return true
  | some _ => if first then return true else failNext .expectedListEnd

/-- Whether another member of an object follows; passes over the comma before it. -/
def hasMember (first : Bool) : Reading Bool := do
  match ← token? with
  | none => failNext .endInObject
  | some '}' => return false
  | some c =>
    if first then
      if c = '"' then return true else failNext .keyNotString
    else
      if c ≠ ',' then failNext .expectedObjectEnd
      skip
      match ← token? with
      | none => failNext .endInValue
      | some '"' => return true
      | some '}' => failNext .trailingComma
      | some _ => failNext .keyNotString

def colon : Reading Unit := do
  match ← token? with
  | none => failNext .endInObject
  | some ':' => skip
  | some _ => failNext .expectedColon

def itemsFrom {α : Type} (item : Nat → Reading α) : Nat → Nat → Reading (List α)
  | 0, _ => failNext .endInList
  | fuel + 1, index => do
    if ← hasItem (index == 0) then
      let a ← under (.index index) (item index)
      return a :: (← itemsFrom item fuel (index + 1))
    else return []

def items {α : Type} (item : Nat → Reading α) : Reading (List α) := do
  itemsFrom item ((← rest).length + 1) 0

/-- Runs the reader on each member that follows, beginning at its key's quote. -/
def membersFrom {α : Type} (member : α → Reading α) : Nat → Bool → α → Reading α
  | 0, _, _ => failNext .endInObject
  | fuel + 1, first, a => do
    if ← hasMember first then membersFrom member fuel false (← member a) else return a

def members {α : Type} (member : α → Reading α) (start : α) : Reading α := do
  membersFrom member ((← rest).length + 1) true start

def key : Reading String := do skip; string

def member {α : Type} (value : Reading α) : Reading (String × α) := do
  let k ← key
  colon
  return (k, ← under (.key k) value)

/-- A value whose items and members are read by the given reader; `none` where no bracket may be
opened any more. -/
def valueWith (nested : Option (Reading Json)) : Reading Json := do
  match ← token? with
  | none => failNext .endInValue
  | some 'n' => skip; word "ull".toList; return .null
  | some 't' => skip; word "rue".toList; return .bool true
  | some 'f' => skip; word "alse".toList; return .bool false
  | some '-' => skip; number false
  | some '"' => skip; return .string (← string)
  | some '[' =>
    match nested with
    | none => failNext .tooDeep
    | some inner =>
      skip
      let content ← items fun _ => inner
      skip
      return .array content
  | some '{' =>
    match nested with
    | none => failNext .tooDeep
    | some inner =>
      skip
      let content ← members (fun ms => return (← member inner) :: ms) []
      skip
      return .object content.reverse
  | some c => if isDigit c then number true else failNext .expectedValue

/-- A value; the number says how deep brackets may still nest. -/
def value : Nat → Reading Json
  | 0 => valueWith none
  | depth + 1 => valueWith (some (value depth))

inductive Bracket where
  | list
  | object
  deriving DecidableEq

def Bracket.closing : Bracket → Char
  | .list => ']'
  | .object => '}'

mutual

/-- Passes over a value and on to the end of the brackets it stands in, the innermost first. -/
def passFrom : Nat → List Bracket → Reading Unit
  | 0, _ => failNext .endInValue
  | fuel + 1, waiting => do
    match ← token? with
    | none => failNext .endInValue
    | some 'n' => skip; word "ull".toList; passRest fuel waiting true
    | some 't' => skip; word "rue".toList; passRest fuel waiting true
    | some 'f' => skip; word "alse".toList; passRest fuel waiting true
    | some '-' => skip; passNumber; passRest fuel waiting true
    | some '"' => skip; passString; passRest fuel waiting true
    | some '[' => skip; passRest fuel (.list :: waiting) false
    | some '{' => skip; passRest fuel (.object :: waiting) false
    | some c =>
      if isDigit c then passNumber; passRest fuel waiting true
      else failNext .expectedValue

/-- Continues after a value, or after an opening bracket. -/
def passRest : Nat → List Bracket → Bool → Reading Unit
  | _, [], _ => return ()
  | 0, _ :: _, _ => failNext .endInValue
  | fuel + 1, bracket :: outer, afterValue => do
    match ← token? with
    | none => failNext (match bracket with | .list => .endInList | .object => .endInObject)
    | some c =>
      if c = bracket.closing then skip; passRest fuel outer true
      else
        if afterValue then
          if c ≠ ',' then
            failNext
              (match bracket with | .list => .expectedListEnd | .object => .expectedObjectEnd)
          skip
        if bracket = .object then
          match ← token? with
          | none => failNext .endInObject
          | some '"' => skip; passString; colon
          | some _ => failNext .keyNotString
        passFrom fuel (bracket :: outer)

end

def pass : Reading Unit := do passFrom (2 * (← rest).length + 2) []

end Reading

def parse (text : String) : Except Failure Json := Reading.run (Reading.value Reading.maxDepth) text

end ConditionQuery.Json
