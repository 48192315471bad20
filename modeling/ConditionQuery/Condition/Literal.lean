import ConditionQuery.Json.Decode
import ConditionQuery.Json.Printer

/-! Literal values of a condition. A document gives a literal without a tag: an integer of 64 bits
is a long, and every other number a double. -/
namespace ConditionQuery

inductive Literal where
  | null
  | bool (b : Bool)
  | long (n : Int64)
  | double (d : Binary64)
  | string (s : String)
  deriving DecidableEq, Repr, Inhabited

namespace Literal

def ofInt32 (n : Int32) : Literal := .long n.toInt64

/-- The double with the value of the nearest single. -/
def ofSingle (d : Binary64) : Literal := .double d.roundToSingle

def isString : Literal → Bool
  | .string _ => true
  | _ => false

/-- The value given to the store; a double that is not finite has none. -/
def value? : Literal → Option Json
  | .null => some .null
  | .bool b => some (.bool b)
  | .long n => some (.int n.toInt)
  | .double d => if d.isFinite then some (.double d) else none
  | .string s => some (.string s)

/-- A double that is not finite is written as null. -/
def encode (l : Literal) : Json := l.value?.getD .null

def ofInt (n : Int) : Literal :=
  if Int64.minValue.toInt ≤ n ∧ n ≤ Int64.maxValue.toInt then .long (Int64.ofInt n)
  else .double (Binary64.ofInt n)

def decode : Json → Json.Decoded Literal
  | .null => .ok .null
  | .bool b => .ok (.bool b)
  | .int n => .ok (ofInt n)
  | .double d => .ok (.double d)
  | .string s => .ok (.string s)
  | .array _ | .object _ => Json.reject (.noVariant "Literal")

def display : Literal → String
  | .null => "null"
  | .bool b => if b then "true" else "false"
  | .long n => toString n.toInt
  | .double d => DoubleLayout.display.write d
  | .string s => Text.quoted s

end Literal
end ConditionQuery
