import ConditionQuery.Text.Basic
import ConditionQuery.Toml.Scan

/-! Numbers, dates and times. Digits may be parted by single underscores. -/
namespace ConditionQuery.Toml

def digitValue? (base : Nat) (c : Char) : Option Nat := (Text.hexValue? c).filter (· < base)

def digitGroups (base : Nat) : List Char → List Nat × List Char
  | '_' :: c :: cs =>
    match digitValue? base c with
    | some d =>
      let (digits, rest) := digitGroups base cs
      (d :: digits, rest)
    | none => ([], '_' :: c :: cs)
  | c :: cs =>
    match digitValue? base c with
    | some d =>
      let (digits, rest) := digitGroups base cs
      (d :: digits, rest)
    | none => ([], c :: cs)
  | [] => ([], [])

def ofDigits (base : Nat) (digits : List Nat) : Nat := digits.foldl (fun n d => n * base + d) 0

/-- Whether `mantissa * 10 ^ exponent` is too great for a double. -/
def overflows (mantissa : Nat) (exponent : Int) : Bool :=
  let size := (Nat.toDigits 10 mantissa).length + exponent
  if mantissa = 0 then false
  else if size < 308 then false
  else if 310 < size then true
  else (1 <<< 54 - 1) <<< 970 * Nat.pow 10 (-exponent).toNat ≤
    mantissa * Nat.pow 10 exponent.toNat

namespace Scan

def digits (base : Nat) : Scan (List Nat) := do
  guard ((← peek?).any (· != '_'))
  let ds ← modifyGet (digitGroups base)
  guard (ds ≠ [])
  return ds

def sign : Scan Bool := do
  if ← accept "+" then return false else accept "-"

def decimal : Scan (List Nat) := do
  if ← accept "0" then return [0] else digits 10

def exponent : Scan Int := do
  if !(← accept "e") then expect "E"
  let negative ← sign
  let n := ofDigits 10 (← digits 10)
  return if negative then -n else n

/-- A number with a fraction or an exponent. One too great for a double is none, unless it is
negative. -/
def float : Scan Unit := do
  let negative ← sign
  if ← accept "inf" then return
  if ← accept "nan" then return
  let whole ← decimal
  let fraction ← if ← accept "." then digits 10 else pure []
  let e? ← optionally exponent
  guard (fraction ≠ [] ∨ e?.isSome)
  guard (negative || !overflows (ofDigits 10 (whole ++ fraction)) (e?.getD 0 - fraction.length))

def integer : Scan Int := do
  let n : Int ←
    if ← accept "0x" then pure (ofDigits 16 (← digits 16) : Int)
    else if ← accept "0o" then pure (ofDigits 8 (← digits 8) : Int)
    else if ← accept "0b" then pure (ofDigits 2 (← digits 2) : Int)
    else
      let negative ← sign
      let n : Int := ofDigits 10 (← decimal)
      pure (if negative then -n else n)
  guard (Int64.minValue.toInt ≤ n ∧ n ≤ Int64.maxValue.toInt)
  return n

/-- A field of a date or a time, with its number of digits and its limits. -/
def field (width low high : Nat) : Scan Nat := do
  let ds := (← get).take width
  guard (ds.length = width && ds.all Char.isDigit)
  modify (List.drop width)
  let n := ofDigits 10 (ds.map fun c => c.toNat - '0'.toNat)
  guard (low ≤ n ∧ n ≤ high)
  return n

def daysInMonth (year month : Nat) : Nat :=
  if month = 2 then
    if year % 4 = 0 ∧ (year % 100 ≠ 0 ∨ year % 400 = 0) then 29 else 28
  else if month = 4 ∨ month = 6 ∨ month = 9 ∨ month = 11 then 30
  else 31

def date : Scan Unit := do
  let year ← field 4 0 9999
  expect "-"
  let month ← field 2 1 12
  expect "-"
  let _ ← field 2 1 (daysInMonth year month)

def time : Scan Unit := do
  let _ ← field 2 0 23
  expect ":"
  let _ ← field 2 0 59
  expect ":"
  let _ ← field 2 0 60
  let _ ← optionally do
    expect "."
    let ds ← takeWhile Char.isDigit
    guard (ds ≠ [])

def offset : Scan Unit := do
  if ← accept "Z" then return
  if ← accept "z" then return
  if !(← accept "+") then expect "-"
  let _ ← field 2 0 23
  expect ":"
  let _ ← field 2 0 59

/-- A date, with a time and an offset if they follow, or a time. -/
def moment : Scan Unit := do
  if (← optionally date).isSome then
    let _ ← optionally do
      guard ((← peek?).any fun c => c == 'T' || c == 't' || c == ' ')
      skip
      time
      optionally offset
  else time

end Scan
end ConditionQuery.Toml
