/-! Doubles as their sixty-four bits. A finite double is read as `m * 2 ^ q`, and every arithmetic
result is one rounding of an exact quotient of natural numbers. -/
namespace ConditionQuery

structure Binary64 where
  bits : UInt64
  deriving DecidableEq, Repr, Inhabited

namespace Binary64

/-- A binary floating-point format: the bits of a significand, and the least and greatest exponent
of its last bit. -/
structure Format where
  precision : Nat
  least : Int
  greatest : Int

def double : Format := ⟨53, -1074, 971⟩

def single : Format := ⟨24, -149, 104⟩

def isNegative (d : Binary64) : Bool := d.bits.toNat >>> 63 == 1

def exponentField (d : Binary64) : Nat := d.bits.toNat >>> 52 % 2048

def fractionField (d : Binary64) : Nat := d.bits.toNat % 1 <<< 52

def isFinite (d : Binary64) : Bool := d.exponentField != 2047

def isNaN (d : Binary64) : Bool := d.exponentField == 2047 && d.fractionField != 0

/-- The size of a finite double as a significand and the exponent of its last bit. -/
def magnitude (d : Binary64) : Nat × Int :=
  if d.exponentField = 0 then (d.fractionField, -1074)
  else (1 <<< 52 + d.fractionField, (d.exponentField : Int) - 1075)

def isZero (d : Binary64) : Bool := d.magnitude.1 == 0

def ofFields (negative : Bool) (exponent fraction : Nat) : Binary64 :=
  ⟨UInt64.ofNat ((if negative then 1 <<< 63 else 0) + exponent <<< 52 + fraction)⟩

def zero (negative : Bool) : Binary64 := ofFields negative 0 0

def infinity (negative : Bool) : Binary64 := ofFields negative 2047 0

def nan : Binary64 := ofFields false 2047 (1 <<< 51)

def negate (d : Binary64) : Binary64 :=
  ofFields (!d.isNegative) d.exponentField d.fractionField

def ofMagnitude (negative : Bool) (m : Nat) (q : Int) : Binary64 :=
  if m < 1 <<< 52 then ofFields negative 0 m
  else ofFields negative (q + 1075).toNat (m - 1 <<< 52)

/-- The quotient rounded to the nearest natural number, a half to the even one. -/
def roundDiv (num den : Nat) : Nat :=
  let quotient := num / den
  let rest := num % den
  if 2 * rest < den then quotient
  else if den < 2 * rest then quotient + 1
  else if quotient % 2 = 0 then quotient else quotient + 1

def scaleDown (num den : Nat) (q : Int) : Nat × Nat :=
  (num <<< (-q).toNat, den <<< q.toNat)

/-- The greatest `e` with `2 ^ e ≤ num / den`. -/
def floorLog2 (num den : Nat) : Int :=
  let guess : Int := (Nat.log2 num : Int) - Nat.log2 den
  let scaled := scaleDown num den guess
  if scaled.2 ≤ scaled.1 then guess else guess - 1

/-- The nearest number of the format to `num / den`, ties to an even significand; `none` beyond the
greatest one. -/
def Format.round (f : Format) (num den : Nat) : Option (Nat × Int) :=
  if num = 0 then some (0, f.least) else
  let q := max f.least (floorLog2 num den - (f.precision - 1))
  let scaled := scaleDown num den q
  let m := roundDiv scaled.1 scaled.2
  let (m, q) := if m = 1 <<< f.precision then (1 <<< (f.precision - 1), q + 1) else (m, q)
  if f.greatest < q then none else some (m, q)

def ofRatio (negative : Bool) (num den : Nat) : Binary64 :=
  match double.round num den with
  | some (m, q) => ofMagnitude negative m q
  | none => infinity negative

def ofInt (n : Int) : Binary64 := ofRatio (n < 0) n.natAbs 1

def toRatio (d : Binary64) : Nat × Nat :=
  let (m, q) := d.magnitude
  (m <<< q.toNat, 1 <<< (-q).toNat)

/-- The product of two finite doubles that are not negative. -/
def mul (a b : Binary64) : Binary64 :=
  ofRatio false (a.toRatio.1 * b.toRatio.1) (a.toRatio.2 * b.toRatio.2)

/-- The quotient of two finite doubles that are not negative, the second not zero. -/
def div (a b : Binary64) : Binary64 :=
  ofRatio false (a.toRatio.1 * b.toRatio.2) (a.toRatio.2 * b.toRatio.1)

def powerOfTen (n : Nat) : Binary64 := ofRatio false (Nat.pow 10 n) 1

/-- The double with the value of the nearest single. -/
def roundToSingle (d : Binary64) : Binary64 :=
  if d.isFinite then
    match single.round d.toRatio.1 d.toRatio.2 with
    | some (m, q) =>
      ofRatio d.isNegative (m <<< q.toNat) (1 <<< (-q).toNat)
    | none => infinity d.isNegative
  else d

end Binary64
end ConditionQuery
