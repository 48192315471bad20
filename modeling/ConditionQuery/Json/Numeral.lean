import ConditionQuery.Json.Cursor

/-! JSON numbers. A number is read into a significand below `2 ^ 64` and a power of ten; digits for
which the significand has no room count as zeros. A number without fraction or exponent is an
integer when it fits 64 bits, signed or unsigned. -/
namespace ConditionQuery.Json

def isDigit (c : Char) : Bool := '0' ≤ c && c ≤ '9'

def digitValue (c : Char) : Nat := c.toNat - '0'.toNat

/-- Appends digits to a significand while it stays below the limit; returns the number of digits
left over too. -/
def appendDigits (limit : Nat) (significand : Nat) : List Char → Nat × Nat
  | [] => (significand, 0)
  | d :: ds =>
    let next := significand * 10 + digitValue d
    if next < limit then appendDigits limit next ds else (significand, ds.length + 1)

/-- `f * 10 ^ e` in steps of at most 308 decades; `none` beyond the greatest double. -/
def scaleByTen (f : Binary64) (e : Int) : Option Binary64 :=
  if 0 ≤ e then
    if e ≤ 308 then
      let product := f.mul (Binary64.powerOfTen e.toNat)
      if product.isFinite then some product else none
    else if f.isZero then some f else none
  else if -308 ≤ e then some (f.div (Binary64.powerOfTen (-e).toNat))
  else if f.isZero then some f
  else scaleByTen (f.div (Binary64.powerOfTen 308)) (e + 308)
termination_by (-e).toNat
decreasing_by omega

def signed (positive : Bool) (d : Binary64) : Binary64 := if positive then d else d.negate

/-- An integer of the given size. Negative zero, and what no 64-bit integer holds, is a double. -/
def integerOf (positive : Bool) (n : Nat) : Json :=
  if positive then .int n
  else if 0 < n ∧ n ≤ 1 <<< 63 then .int (-n)
  else .double (signed false (Binary64.ofRatio false n 1))

namespace Reading

def digits : Reading (List Char) := do
  let ds := (← rest).takeWhile isDigit
  skipWhile isDigit
  return ds

def scaled (positive : Bool) (significand : Nat) (e : Int) : Reading Json := do
  match scaleByTen (Binary64.ofRatio false significand 1) e with
  | some d => return .double (signed positive d)
  | none => fail .numberOutOfRange

def firstDigit : Reading Char := do
  match ← peek? with
  | none => fail .endInValue
  | some c =>
    if !isDigit c then failNext .invalidNumber
    skip
    return c

/-- The exponent, from its letter on. One that does not fit 32 bits makes zero, or no number. -/
def exponent (positive : Bool) (significand : Nat) (e : Int) : Reading Json := do
  skip
  let sign ← peek?
  if sign = some '+' || sign = some '-' then skip
  let first ← firstDigit
  let ds := (← rest).takeWhile isDigit
  let (size, left) := appendDigits (1 <<< 31) (digitValue first) ds
  if left = 0 then
    skipWhile isDigit
    scaled positive significand (if sign = some '-' then e - size else e + size)
  else if significand ≠ 0 ∧ sign ≠ some '-' then
    for _ in List.range (ds.length - left + 1) do skip
    fail .numberOutOfRange
  else
    skipWhile isDigit
    return .double (Binary64.zero (!positive))

/-- The part after the decimal point, from the point on. -/
def fraction (positive : Bool) (significand : Nat) (e : Int) : Reading Json := do
  skip
  let ds ← digits
  if ds.isEmpty then
    if (← peek?).isSome then failNext .invalidNumber else failNext .endInValue
  let (significand, left) := appendDigits (1 <<< 64) significand ds
  let e := e - (ds.length - left : Nat)
  match ← peek? with
  | some 'e' | some 'E' => exponent positive significand e
  | _ => scaled positive significand e

def number (positive : Bool) : Reading Json := do
  let first ← firstDigit
  if first = '0' ∧ ((← peek?).map isDigit).getD false then failNext .invalidNumber
  let ds ← digits
  let (significand, left) := appendDigits (1 <<< 64) (digitValue first) ds
  match ← peek? with
  | some '.' => fraction positive significand left
  | some 'e' | some 'E' => exponent positive significand left
  | _ =>
    if left = 0 then return integerOf positive significand
    else scaled positive significand left

def passExponent : Reading Unit := do
  skip
  let sign ← peek?
  if sign = some '+' || sign = some '-' then skip
  if (← digits).isEmpty then failNext .invalidNumber

/-- Passes over a number whose value is not wanted, after its sign. -/
def passNumber : Reading Unit := do
  match ← peek? with
  | some '0' =>
    skip
    if ((← peek?).map isDigit).getD false then failNext .invalidNumber
  | _ => if (← digits).isEmpty then failNext .invalidNumber
  if (← peek?) = some '.' then
    skip
    if (← digits).isEmpty then failNext .invalidNumber
  let mark ← peek?
  if mark = some 'e' || mark = some 'E' then passExponent

end Reading
end ConditionQuery.Json
