import ConditionQuery.Json.Decode
import ConditionQuery.Json.Reader

/-! Reading a text as a value of a wanted shape. The text is checked against the shape while it is
read, so the first fault in the text counts, whether it is of the text or of the shape; what is
read is the value without the members that the shape does not know. -/
namespace ConditionQuery.Json

/-- A reader for values of one shape; the number says how deep brackets may still nest. -/
abbrev Shape := Nat → Reading Json

namespace Shape
open Reading

/-- Reads any value only to say that it is not the expected one. Brackets are not opened. -/
def unexpected {α : Type} (expected : String) : Reading α := do
  match ← token? with
  | none => failNext .endInValue
  | some 'n' => skip; word "ull".toList; Reading.mismatch (.invalidType .null expected)
  | some 't' => skip; word "rue".toList; Reading.mismatch (.invalidType (.bool true) expected)
  | some 'f' => skip; word "alse".toList; Reading.mismatch (.invalidType (.bool false) expected)
  | some '-' => skip; wrong (← number false)
  | some '"' => skip; wrong (.string (← Reading.string))
  | some '[' => Reading.mismatch (.invalidType .sequence expected)
  | some '{' => Reading.mismatch (.invalidType .map expected)
  | some c => if isDigit c then wrong (← number true) else failNext .expectedValue
where
  wrong (v : Json) : Reading α := Reading.mismatch (.invalidType (found v) expected)

def any : Shape := value

def bool : Shape := fun _ => do
  match ← token? with
  | some 't' => skip; word "rue".toList; return .bool true
  | some 'f' => skip; word "alse".toList; return .bool false
  | _ => unexpected "a boolean"

def string : Shape := fun _ => do
  match ← token? with
  | some '"' => skip; return .string (← Reading.string)
  | _ => unexpected "a string"

def naturalNumber : Reading Nat := do
  match ← token? with
  | some '-' => skip; sized (← number false)
  | some c => if isDigit c then sized (← number true) else unexpected "usize"
  | none => unexpected "usize"
where
  sized (n : Json) : Reading Nat := do
    match decodeSize n with
    | .ok n => return n
    | .error failure => throw (failure.placedAt (← get).position)

def size : Shape := fun _ => do return .int (← naturalNumber)

def option (shape : Shape) : Shape := fun depth => do
  match ← token? with
  | some 'n' => skip; word "ull".toList; return .null
  | _ => shape depth

def nested {α : Type} (depth : Nat) (reader : Nat → Reading α) : Reading α :=
  match depth with
  | 0 => failNext .tooDeep
  | depth + 1 => do skip; reader depth

/-- Where a list that failed is left: after its bracket, or after the comma before more items. -/
def settleList : Reading Unit := do
  match ← token? with
  | some ']' => skip
  | some ',' => skip; skipWhile isGap
  | _ => return ()

def settleObject : Reading Unit := do
  if (← token?) = some '}' then skip

/-- The end of a list of which enough items were read. -/
def endList : Reading Unit := do
  match ← token? with
  | none => failNext .endInList
  | some ']' => skip
  | some ',' =>
    skip
    if (← token?) = some ']' then failNext .trailingComma else failNext .trailingCharacters
  | some _ => failNext .trailingCharacters

def list (item : Shape) : Shape := fun depth => do
  match ← token? with
  | some '[' =>
    nested depth fun depth => do
      let content ← settledBy settleList (items fun _ => item depth)
      skip
      return .array content
  | _ => unexpected "a sequence"

def map (entry : Nat → Reading (String × Json)) : Shape := fun depth => do
  match ← token? with
  | some '{' =>
    nested depth fun depth => do
      let content ← settledBy settleObject
        (members (fun ms => return (← entry depth) :: ms) [])
      skip
      return .object content.reverse
  | _ => unexpected "a map"

def table : Shape := map fun depth => member (value depth)

def numericKey : Reading String := do
  skip
  match ← peek? with
  | some c => if !isDigit c && c != '-' then fail .keyNotNumeric
  | none => fail .keyNotNumeric
  let n ← naturalNumber
  if (← peek?) ≠ some '"' then failNext .expectedQuote
  skip
  return toString n

def numbered (item : Shape) : Shape :=
  map fun depth => do
    let key ← numericKey
    colon
    return (key, ← under (.key key) (item depth))

def known (names : List String) (name : String) : Reading String := do
  if name ∈ names then return name
  else Reading.mismatch (.unknownVariant name names)

def identifier (names : List String) : Reading String := do
  match ← token? with
  | some '"' => skip; known names (← Reading.string)
  | _ => unexpected "variant identifier"

def unit : Reading Unit := do
  match ← token? with
  | some 'n' => skip; word "ull".toList
  | _ => unexpected "unit"

/-- A name, as a string or as the only key of an object. -/
def choice (names : List String) : Shape := fun depth => do
  match ← token? with
  | none => failNext .endInValue
  | some '"' => return .string (← identifier names)
  | some '{' =>
    nested depth fun _ => do
      let name ← identifier names
      colon
      unit
      match ← token? with
      | none => fail .endInObject
      | some '}' => skip; return .string name
      | some _ => fail .expectedValue
  | some _ => failNext .expectedValue

inductive Presence where
  | required
  /-- It may be left out of an object, and has a place in every list. -/
  | omittable
  /-- It may be left out of both. -/
  | optional
  deriving DecidableEq, Repr

structure Field where
  name : String
  presence : Presence
  shape : Shape

def recordItems (title : Title) (depth : Nat) : Nat → List Field → Reading (List Json)
  | _, [] => return []
  | index, field :: fields => do
    if ← hasItem (index == 0) then
      let v ← under (.index index) (field.shape depth)
      return v :: (← recordItems title depth (index + 1) fields)
    else if field.presence = .optional then recordItems title depth (index + 1) fields
    else unplaced (.invalidLength index title.expected)

/-- One more member of a record written as an object. -/
def recordMember (fields : List Field) (depth : Nat) (seen : Members) : Reading Members := do
  let k ← key
  match fields.find? fun field => field.name == k with
  | none =>
    colon
    under (.key k) pass
    return seen
  | some field =>
    if (Members.get? seen k).isSome then unplaced (.duplicateField k)
    colon
    return (k, ← under (.key k) (field.shape depth)) :: seen

def recordMembers (fields : List Field) (depth : Nat) : Reading Members := do
  let seen ← members (recordMember fields depth) []
  let missing (field : Field) :=
    field.presence == .required && (Members.get? seen field.name).isNone
  match fields.find? missing with
  | some field => unplaced (.missingField field.name)
  | none => return seen.reverse

def record (title : Title) (fields : List Field) : Shape := fun depth => do
  match ← token? with
  | some '[' =>
    nested depth fun depth => do
      let content ← settledBy settleList (recordItems title depth 0 fields)
      endList
      return .array content
  | some '{' =>
    nested depth fun depth => do
      let content ← settledBy settleObject (recordMembers fields depth)
      skip
      return .object content
  | _ => unexpected title.text

/-- One more member of a tagged value. -/
def taggedMember (tag : String) (names : List String) (depth : Nat) (seen : Members) :
    Reading Members := do
  let k ← key
  if k = tag then
    if (Members.get? seen tag).isSome then unplaced (.duplicateField tag)
    colon
    return (tag, .string (← under (.key tag) (identifier names))) :: seen
  else
    colon
    return (k, ← under (.key k) (value depth)) :: seen

/-- A tagged value is read whole, with an eye on its tag only; `check` judges the rest. -/
def tagged (tag expected : String) (names : List String) (check : Json → Decoded Unit) : Shape :=
  fun depth => do
    let v ← match ← token? with
      | some '[' =>
        nested depth fun depth => do
          let content ← settledBy settleList do
            let content ← items fun index =>
              if index = 0 then return .string (← identifier names) else value depth
            if content.isEmpty then unplaced (.missingField tag)
            return content
          skip
          return Json.array content
      | some '{' =>
        nested depth fun depth => do
          let content ← settledBy settleObject do
            let content ← members (taggedMember tag names depth) []
            if (Members.get? content tag).isNone then unplaced (.missingField tag)
            return content
          skip
          return Json.object content.reverse
      | _ => unexpected expected
    ofDecoded (check v)
    return v

/-- A value that is read whole before `check` judges it. -/
def whole (check : Json → Decoded Unit) : Shape := fun depth => do
  let v ← value depth
  ofDecoded (check v)
  return v

/-- A natural number that is the whole of a key. -/
def decodeNumericKey (key : String) : Decoded Nat := do
  let starts := (key.toList.head?.map fun c => isDigit c || c == '-').getD false
  let reader : Reading (Nat × Option Char) := do return (← naturalNumber, ← peek?)
  let notNumeric : Decoded Nat := .error ⟨.malformed .keyNotNumeric, none, []⟩
  if starts then
    match ← Reading.runPart reader key.toUTF8 with
    | (n, none) => return n
    | (_, some _) => notNumeric
  else notNumeric

def read (shape : Shape) (text : String) : Decoded Json := Reading.run (shape maxDepth) text

def readPart (shape : Shape) (bytes : ByteArray) : Decoded Json :=
  Reading.runPart (shape maxDepth) bytes

end Shape
end ConditionQuery.Json
