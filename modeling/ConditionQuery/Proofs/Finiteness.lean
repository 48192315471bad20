import ConditionQuery.Condition.Literal
import Mathlib.Algebra.Group.Nat.Defs

/-! Finite numbers. The greatest double is far beyond every integer of 64 bits, so whatever a
document holds becomes a finite literal; and a finite literal is written as itself. -/
namespace ConditionQuery

namespace Binary64

theorem isFinite_ofFields {negative : Bool} {exponent fraction : Nat} (below : exponent < 2047)
    (fits : fraction < 2 ^ 52) : (ofFields negative exponent fraction).isFinite = true := by
  have field : (ofFields negative exponent fraction).exponentField = exponent := by
    simp only [ofFields, exponentField, UInt64.toNat_ofNat', Nat.shiftLeft_eq,
      Nat.shiftRight_eq_div_pow]
    cases negative <;> simp only [if_true, Bool.false_eq_true, if_false] <;> omega
  rw [isFinite, field]
  simp only [bne_iff_ne]
  omega

theorem isFinite_ofMagnitude {negative : Bool} {m : Nat} {q : Int} (significand : m < 2 ^ 53)
    (exponent : q ≤ 971) : (ofMagnitude negative m q).isFinite = true := by
  simp only [ofMagnitude, Nat.shiftLeft_eq, Nat.one_mul]
  split
  · exact isFinite_ofFields (by decide) ‹_›
  · exact isFinite_ofFields (by omega) (by omega)

theorem roundDiv_le (num den : Nat) : roundDiv num den ≤ num / den + 1 := by
  unfold roundDiv
  grind

theorem floorLog2_one {num : Nat} (positive : num ≠ 0) : floorLog2 num 1 = Nat.log2 num := by
  have guess : (Nat.log2 num : Int) - Nat.log2 1 = Nat.log2 num := by
    rw [show Nat.log2 1 = 0 by decide]
    exact Int.sub_zero _
  have below := Nat.log2_self_le positive
  simp only [floorLog2, guess, scaleDown, Nat.shiftLeft_eq, Int.toNat_natCast, Nat.one_mul]
  rw [if_pos]
  exact Nat.le_trans below (Nat.le_mul_of_pos_right _ (Nat.two_pow_pos _))

/-- An integer with its last bit moved to place 52 has a significand of at most 53 bits. -/
theorem scaleDown_lt {num : Nat} {q : Int} (place : q = (Nat.log2 num : Int) - 52) :
    (scaleDown num 1 q).1 / (scaleDown num 1 q).2 < 2 ^ 53 := by
  have size : num < 2 ^ (Nat.log2 num + 1) := Nat.lt_log2_self
  simp only [scaleDown, Nat.shiftLeft_eq, Nat.one_mul]
  rw [Nat.div_lt_iff_lt_mul (Nat.two_pow_pos _)]
  calc num * 2 ^ (-q).toNat
      < 2 ^ (Nat.log2 num + 1) * 2 ^ (-q).toNat :=
        Nat.mul_lt_mul_of_pos_right size (Nat.two_pow_pos _)
    _ = 2 ^ 53 * 2 ^ q.toNat := by
        rw [← Nat.pow_add, ← Nat.pow_add]
        congr 1
        omega

theorem round_one {num : Nat} (positive : num ≠ 0) (size : num < 2 ^ 64) :
    ∃ m q, double.round num 1 = some (m, q) ∧ m < 2 ^ 53 ∧ q ≤ 971 := by
  have places : Nat.log2 num < 64 := (Nat.log2_lt positive).2 size
  have exponent : max double.least (floorLog2 num 1 - (double.precision - 1)) =
      (Nat.log2 num : Int) - 52 := by
    rw [floorLog2_one positive, double]
    simp only
    omega
  have small := @scaleDown_lt num _ rfl
  have rounded := roundDiv_le (scaleDown num 1 ((Nat.log2 num : Int) - 52)).1
    (scaleDown num 1 ((Nat.log2 num : Int) - 52)).2
  simp only [Format.round, positive, if_false, exponent]
  generalize roundDiv _ _ = m at rounded ⊢
  by_cases carry : m = 1 <<< double.precision
  · refine ⟨1 <<< (double.precision - 1), (Nat.log2 num : Int) - 52 + 1, ?_, by decide, by omega⟩
    rw [if_pos carry]
    exact if_neg (by simp only [double]; omega)
  · refine ⟨m, (Nat.log2 num : Int) - 52, ?_, ?_, by omega⟩
    · rw [if_neg carry]
      exact if_neg (by simp only [double]; omega)
    · simp only [double, Nat.shiftLeft_eq, Nat.one_mul] at carry
      omega

theorem isFinite_ofInt {n : Int} (size : n.natAbs < 2 ^ 64) : (ofInt n).isFinite = true := by
  by_cases zero : n = 0
  · subst zero
    decide
  · obtain ⟨m, q, rounded, significand, exponent⟩ := round_one (Int.natAbs_ne_zero.2 zero) size
    rw [ofInt, ofRatio, rounded]
    exact isFinite_ofMagnitude significand exponent

end Binary64

namespace Json

mutual

/-- Such are the values that documents hold: integers have 64 bits, signed or unsigned, and doubles
are finite. -/
def isProper : Json → Bool
  | .int n => decide (Int64.minValue.toInt ≤ n ∧ n < UInt64.size)
  | .double d => d.isFinite
  | .array items => areProper items
  | .object members => haveProper members
  | .null | .bool _ | .string _ => true

def areProper : List Json → Bool
  | [] => true
  | item :: rest => isProper item && areProper rest

def haveProper : Members → Bool
  | [] => true
  | (_, value) :: rest => isProper value && haveProper rest

end

end Json

namespace Literal

def isFinite : Literal → Bool
  | .double d => d.isFinite
  | _ => true

theorem decode_encode {l : Literal} (finite : l.isFinite = true) : decode l.encode = .ok l := by
  cases l with
  | null | bool b | string s => rfl
  | long n =>
    have range : Int64.minValue.toInt ≤ n.toInt ∧ n.toInt ≤ Int64.maxValue.toInt :=
      ⟨Int64.minValue_le_toInt n, Int64.toInt_le n⟩
    simp only [encode, value?, Option.getD_some, decode, ofInt, if_pos range, Int64.ofInt_toInt]
  | double d =>
    simp only [isFinite] at finite
    simp [encode, value?, finite, decode]

theorem isFinite_of_decode {v : Json} {l : Literal} (proper : v.isProper = true)
    (decoded : decode v = .ok l) : l.isFinite = true := by
  cases v with
  | null | bool b | string s =>
    obtain rfl := Except.ok.inj decoded
    rfl
  | int n =>
    obtain rfl := Except.ok.inj decoded
    unfold ofInt
    split
    · rfl
    · apply Binary64.isFinite_ofInt
      have least : Int64.minValue.toInt = -9223372036854775808 := by decide
      simp only [Json.isProper, decide_eq_true_eq, least, UInt64.size] at proper
      omega
  | double d =>
    obtain rfl := Except.ok.inj decoded
    exact proper
  | array items | object members => simp [decode, Json.reject] at decoded

end Literal
end ConditionQuery
