import ConditionQuery.Decimal.Binary64

/-! The fewest decimal digits that read back as a given double. -/
namespace ConditionQuery.Binary64

inductive Tie where
  | even
  | up
  deriving DecidableEq, Repr

/-- The reals that round to a double, as numerators over one denominator: the lower end, the double
itself and the upper end. The ends belong to it when `closed`. -/
structure RoundingInterval where
  low : Nat
  value : Nat
  high : Nat
  den : Nat
  closed : Bool

/-- Below a power of two the next double is half as far as above it. -/
def roundingInterval (m : Nat) (q : Int) : RoundingInterval :=
  let unit := 1 <<< (q - 2).toNat
  { low := (if m = 1 <<< 52 ∧ -1074 < q then 4 * m - 1 else 4 * m - 2) * unit
    value := 4 * m * unit
    high := (4 * m + 2) * unit
    den := 1 <<< (2 - q).toNat
    closed := m % 2 == 0 }

def RoundingInterval.holds (i : RoundingInterval) (n : Nat) (k : Int) : Bool :=
  let point := n * Nat.pow 10 k.toNat * i.den
  let low := i.low * Nat.pow 10 (-k).toNat
  let high := i.high * Nat.pow 10 (-k).toNat
  if i.closed then low ≤ point && point ≤ high else low < point && point < high

/-- The multiple of `10 ^ k` nearest to the double, if it or the other neighbour reads back. -/
def RoundingInterval.onGrid (i : RoundingInterval) (tie : Tie) (k : Int) : Option Nat :=
  let num := i.value * Nat.pow 10 (-k).toNat
  let den := i.den * Nat.pow 10 k.toNat
  let below := num / den
  let rest := num % den
  let nearerAbove : Bool :=
    if 2 * rest = den then
      match tie with
      | .even => below % 2 == 1
      | .up => true
    else den < 2 * rest
  match decide (0 < below) && i.holds below k, i.holds (below + 1) k with
  | true, true => some (if nearerAbove then below + 1 else below)
  | true, false => some below
  | false, true => some (below + 1)
  | false, false => none

def RoundingInterval.search (i : RoundingInterval) (tie : Tie) : Nat → Int → Nat × Int
  | 0, k => (0, k)
  | steps + 1, k =>
    match i.onGrid tie k with
    | some n => (n, k)
    | none => i.search tie steps (k - 1)

def decimalCeiling (m : Nat) (q : Int) : Int :=
  ((Nat.log2 m : Int) + q) * 30103 / 100000 + 2

/-- Digits `n` and an exponent `k` with `n * 10 ^ k` the shortest decimal that reads back as
`m * 2 ^ q`, and of those the nearest. -/
def shortestDecimal (tie : Tie) (m : Nat) (q : Int) : Nat × Int :=
  if m = 0 then (0, 0) else (roundingInterval m q).search tie 25 (decimalCeiling m q)

end ConditionQuery.Binary64
