import ConditionQuery.Json.Failure

/-! Reading typed values off JSON values. A record is written as an object or as the list of its
fields. Faults of fields that are there count in the order in which they stand in the document;
then the first missing field counts, in the order of declaration. -/
namespace ConditionQuery.Json

abbrev Decoded := Except Failure

/-- A value fresh from a document, or one set aside while the tag beside it was looked for. Values
set aside are read more leniently in places. -/
inductive Stage where
  | direct
  | setAside
  deriving DecidableEq, Repr

def reject {α : Type} (cause : Mismatch) : Decoded α := .error (Failure.ofMismatch cause)

def wrongType {α : Type} (v : Json) (expected : String) : Decoded α :=
  reject (.invalidType (found v) expected)

def decodeString : Json → Decoded String
  | .string s => .ok s
  | v => wrongType v "a string"

def decodeBool : Json → Decoded Bool
  | .bool b => .ok b
  | v => wrongType v "a boolean"

/-- A natural number of 64 bits. -/
def decodeSize : Json → Decoded Nat
  | .int n =>
    if 0 ≤ n ∧ n < UInt64.size then .ok n.toNat else reject (.invalidValue (.int n) "usize")
  | v => wrongType v "usize"

def decodeOption {α : Type} (decode : Json → Decoded α) : Json → Decoded (Option α)
  | .null => .ok none
  | v => (decode v).map some

def decodeList {α : Type} (decode : Json → Decoded α) : Json → Decoded (List α)
  | .array items => items.mapM decode
  | v => wrongType v "a sequence"

/-- The names by which the values of a type are written, in the order of declaration. -/
structure Naming (α : Type) where
  all : List α
  name : α → String

namespace Naming

variable {α : Type} (naming : Naming α)

def names : List String := naming.all.map naming.name

def find? (name : String) : Option α := naming.all.find? fun a => naming.name a == name

def decodeName (name : String) : Decoded α :=
  match naming.find? name with
  | some a => .ok a
  | none => reject (.unknownVariant name naming.names)

/-- A name, written as a string or as an object with the name as its only key. -/
def decode (stage : Stage) (v : Json) : Decoded α :=
  match v with
  | .string name => naming.decodeName name
  | .object [(name, payload)] => do
    let a ← naming.decodeName name
    match payload, stage with
    | .null, _ => return a
    | .object [], .setAside => return a
    | other, _ => wrongType other "unit"
  | .object _ => reject (.invalidValue .map "map with a single key")
  | other => wrongType other "string or map"

/-- The name a tag gives. A tag set aside may give the number of a name instead. -/
def decodeTag (stage : Stage) (v : Json) : Decoded α :=
  match v, stage with
  | .string name, _ => naming.decodeName name
  | .int n, .setAside =>
    if n < 0 then wrongType v "variant identifier"
    else
      match naming.all[n.toNat]? with
      | some a => .ok a
      | none =>
        reject (.invalidValue (.int n)
          ("variant index 0 <= i < " ++ toString naming.all.length))
  | other, _ => wrongType other "variant identifier"

end Naming

inductive Parts (α : Type) where
  | members (ms : List (String × α))
  | items (xs : List α)

/-- The outcome of reading some fields. A fault carries the place of its field. -/
inductive Gathered (α : Type) where
  | ok (a : α)
  | missing (index : Nat) (name : String)
  | failed (place : Nat) (failure : Failure)

namespace Gathered

/-- Of two faults the one that stands first counts; a fault comes before a missing field. -/
def ap {α β : Type} : Gathered (α → β) → Gathered α → Gathered β
  | .ok f, .ok a => .ok (f a)
  | .failed i e, .failed j e' => if j < i then .failed j e' else .failed i e
  | .failed i e, _ => .failed i e
  | _, .failed j e => .failed j e
  | .missing i name, _ => .missing i name
  | _, .missing j name => .missing j name

instance : Applicative Gathered where
  pure := .ok
  seq f a := ap f (a ())

end Gathered

namespace Parts

def field? {α β : Type} (parts : Parts α) (index : Nat) (name : String)
    (decode : α → Decoded β) : Gathered (Option β) :=
  match parts with
  | .members ms =>
    match ms.zipIdx.filter fun m => m.1.1 == name with
    | [] => .ok none
    | (m, place) :: again =>
      match decode m.2 with
      | .error failure => .failed place failure
      | .ok b =>
        match again with
        | [] => .ok (some b)
        | (_, place) :: _ => .failed place (Failure.ofMismatch (.duplicateField name))
  | .items xs =>
    match xs[index]? with
    | none => .ok none
    | some x =>
      match decode x with
      | .error failure => .failed index failure
      | .ok b => .ok (some b)

def required {α β : Type} (parts : Parts α) (index : Nat) (name : String)
    (decode : α → Decoded β) : Gathered β :=
  match parts.field? index name decode with
  | .ok (some b) => .ok b
  | .ok none => .missing index name
  | .missing i n => .missing i n
  | .failed i e => .failed i e

def defaulted {α β : Type} (parts : Parts α) (index : Nat) (name : String) (default : β)
    (decode : α → Decoded β) : Gathered β :=
  (·.getD default) <$> parts.field? index name decode

end Parts

def elements (n : Nat) : String := toString n ++ (if n = 1 then " element" else " elements")

structure Title where
  text : String
  size : Nat

def Title.expected (title : Title) : String := title.text ++ " with " ++ elements title.size

/-- The record that the fields make. A list may hold no more items than there are fields. -/
def Gathered.record {α β : Type} (stage : Stage) (title : Title) (parts : Parts α) :
    Gathered β → Decoded β
  | .failed _ failure => .error failure
  | .missing index name =>
    match parts with
    | .members _ => reject (.missingField name)
    | .items _ => reject (.invalidLength index title.expected)
  | .ok b =>
    match parts with
    | .members _ => .ok b
    | .items xs =>
      if xs.length ≤ title.size then .ok b
      else
        match stage with
        | .direct => reject (.invalidLength xs.length "fewer elements in array")
        | .setAside =>
          reject (.invalidLength xs.length (elements title.size ++ " in sequence"))

/-- A record that is neither tagged nor nested in a tagged value. -/
def decodeRecord {α : Type} (stage : Stage) (title : Title)
    (fields : Parts Json → Gathered α) : Json → Decoded α
  | .object ms => (fields (.members ms)).record stage title (.members ms)
  | .array xs => (fields (.items xs)).record stage title (.items xs)
  | v => wrongType v title.text

def Naming.splitTag {α : Type} (naming : Naming α) (stage : Stage) (tag expected : String) :
    Json → Decoded (α × Parts Json)
  | .object ms =>
    match ms.filter fun m => m.1 == tag with
    | [] => reject (.missingField tag)
    | (_, v) :: again => do
      let a ← naming.decodeTag stage v
      if again.isEmpty then return (a, .members ms) else reject (.duplicateField tag)
  | .array [] => reject (.missingField tag)
  | .array (v :: xs) => do return (← naming.decodeTag stage v, .items xs)
  | v => wrongType v expected

end ConditionQuery.Json
