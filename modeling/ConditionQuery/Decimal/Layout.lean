import ConditionQuery.Decimal.Shortest

/-! Texts of doubles: the shortest digits, laid out with a decimal point or with an exponent. -/
namespace ConditionQuery

/-- How a double is written. `point` is the place of the decimal point counted from the first
digit; between `least` and `greatest` it is written, elsewhere an exponent is. -/
structure DoubleLayout where
  least : Int
  greatest : Int
  plusSign : Bool
  tie : Binary64.Tie

namespace DoubleLayout

/-- In conditions shown to a reader: plain from 0.0001 below 1e16. -/
def display : DoubleLayout := ⟨-3, 16, false, .up⟩

/-- In documents: plain from 0.00001 below 1e16, and signed exponents. -/
def document : DoubleLayout := ⟨-4, 16, true, .even⟩

/-- The digits of a positive number without the zeros at its end, which go to the exponent. -/
def stripZeros (n : Nat) (k : Int) : List Char × Int :=
  let digits := Nat.toDigits 10 n
  let kept := (digits.reverse.dropWhile (· == '0')).reverse
  (kept, k + (digits.length - kept.length : Nat))

def exponentText (layout : DoubleLayout) (e : Int) : String :=
  if e < 0 then "-" ++ toString (-e).toNat
  else if layout.plusSign then "+" ++ toString e.toNat
  else toString e.toNat

/-- The positive decimal `0.d₁d₂… * 10 ^ point`. -/
def place (layout : DoubleLayout) (digits : List Char) (point : Int) : String :=
  if layout.least ≤ point ∧ point ≤ layout.greatest then
    if point ≤ 0 then
      "0." ++ String.ofList (List.replicate (-point).toNat '0' ++ digits)
    else
      let whole := digits.take point.toNat
      let zeros := List.replicate (point.toNat - whole.length) '0'
      let fraction := digits.drop point.toNat
      String.ofList (whole ++ zeros) ++ "." ++
        (if fraction.isEmpty then "0" else String.ofList fraction)
  else
    let fraction := digits.drop 1
    String.ofList (digits.take 1) ++
      (if fraction.isEmpty then "" else "." ++ String.ofList fraction)
      ++ "e" ++ layout.exponentText (point - 1)

def unsigned (layout : DoubleLayout) (m : Nat) (q : Int) : String :=
  if m = 0 then "0.0" else
  let (n, k) := Binary64.shortestDecimal layout.tie m q
  let (digits, k) := stripZeros n k
  layout.place digits (k + digits.length)

def write (layout : DoubleLayout) (d : Binary64) : String :=
  if d.isNaN then "NaN"
  else
    (if d.isNegative then "-" else "") ++
      (if d.isFinite then layout.unsigned d.magnitude.1 d.magnitude.2 else "inf")

end DoubleLayout
end ConditionQuery
