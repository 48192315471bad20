import ConditionQuery.Proofs.Encoding
import ConditionQuery.Proofs.TextReading

/-! Numerals. The digits of a number of 64 bits are read as the number, in a document and as a key
that has nothing around them. -/
namespace ConditionQuery.Json

def IsDigits (cs : List Char) : Prop := ∀ c ∈ cs, isDigit c = true

theorem decodeSize_int {n : Nat} (fits : n < UInt64.size) : decodeSize (.int n) = .ok n := by
  rw [decodeSize, if_pos ⟨Int.natCast_nonneg n, Int.ofNat_lt.2 fits⟩, Int.toNat_natCast]

theorem isDigit_of_isDigit {c : Char} (digit : c.isDigit = true) : isDigit c = true :=
  digit

theorem toNat_lt_of_isDigit {c : Char} (digit : isDigit c = true) : c.toNat < 0x80 := by
  simp only [isDigit, Bool.and_eq_true, decide_eq_true_eq] at digit
  exact Nat.lt_of_le_of_lt digit.2 (by decide)

/-- What a number is written with. -/
structure Numeral (cs : List Char) (n : Nat) : Prop where
  digits : IsDigits cs
  value : Nat.ofDigitChars 10 cs 0 = n
  nonempty : cs ≠ []
  /-- Only zero begins with a zero. -/
  leading : ∀ ds, cs = '0' :: ds → ds = []

theorem head?_toDigits {n : Nat} (positive : n ≠ 0) : (Nat.toDigits 10 n).head? ≠ some '0' := by
  induction n using Nat.strongRecOn with
  | ind n ih =>
    by_cases small : n < 10
    · rw [Nat.toDigits_of_lt_base small]
      simpa using positive
    · have shorter := ih (n / 10) (by omega) (by omega)
      rw [Nat.toDigits_of_base_le (by decide) (by omega), List.head?_append]
      cases first : (Nat.toDigits 10 (n / 10)).head? with
      | none => simp [Nat.toDigits_ne_nil] at first
      | some c => simpa [first] using shorter

theorem numeral_toDigits (n : Nat) : Numeral (Nat.toDigits 10 n) n where
  digits c member := isDigit_of_isDigit (Nat.isDigit_of_mem_toDigits (by decide) (by decide) member)
  value := Nat.ofDigitChars_ten_toDigits
  nonempty := Nat.toDigits_ne_nil
  leading ds form := by
    by_cases zero : n = 0
    · subst zero
      simpa using form.symm
    · exact absurd (by rw [form]; rfl) (head?_toDigits zero)

theorem le_ofDigitChars (s : Nat) (ds : List Char) : s ≤ Nat.ofDigitChars 10 ds s := by
  rw [Nat.ofDigitChars_eq_ofDigitChars_zero]
  have grows : s ≤ 10 ^ ds.length * s := Nat.le_mul_of_pos_left s (Nat.pow_pos (by decide))
  omega

theorem appendDigits_eq {limit s : Nat} {ds : List Char}
    (below : Nat.ofDigitChars 10 ds s < limit) :
    appendDigits limit s ds = (Nat.ofDigitChars 10 ds s, 0) := by
  induction ds generalizing s with
  | nil => rfl
  | cons d ds ih =>
    have next : Nat.ofDigitChars 10 (d :: ds) s =
        Nat.ofDigitChars 10 ds (s * 10 + digitValue d) := by
      rw [Nat.ofDigitChars_cons, Nat.mul_comm, digitValue]
    rw [next] at below ⊢
    have fits := Nat.lt_of_le_of_lt (le_ofDigitChars _ ds) below
    rw [appendDigits, if_pos fits, ih below]

namespace Reading

variable {ds after : List Char} {n : Nat}

theorem Delimits.notDigit (delimits : Delimits after) : ∀ c ∈ after.head?, isDigit c = false :=
  delimits.stops rfl

theorem Delimits.head?_isDigit (delimits : Delimits after) :
    (after.head?.map isDigit).getD false = false := by
  cases after with
  | nil => rfl
  | cons c cs => exact delimits.notDigit c rfl

theorem Delimits.takeWhile_isDigit (delimits : Delimits after) (cs : List Char) :
    (cs ++ after).takeWhile isDigit = cs.takeWhile isDigit := by
  induction cs with
  | nil =>
    cases after with
    | nil => rfl
    | cons c after => exact List.takeWhile_cons_of_neg (by simp [delimits.notDigit c rfl])
  | cons c cs ih => rw [List.cons_append, List.takeWhile_cons, ih, List.takeWhile_cons]

theorem isGap_digit {d : Char} (digit : isDigit d = true) : isGap d = false := by
  simp only [isGap, Bool.or_eq_false_iff, beq_eq_false_iff_ne]
  refine ⟨⟨⟨?_, ?_⟩, ?_⟩, ?_⟩ <;> rintro rfl <;> contradiction

theorem comes_digits (all : IsDigits ds) (delimits : Delimits after) :
    digits.Comes ds after (some ds) := by
  apply Comes.rest
  rw [delimits.takeWhile_isDigit, List.takeWhile_eq_self_iff.2 all]
  exact (comes_skipWhile all delimits.notDigit).map fun _ => ds

theorem comes_firstDigit {d : Char} (digit : isDigit d = true) (after : List Char) :
    firstDigit.Comes [d] after (some d) := by
  apply Comes.peek?
  simp only [List.cons_append, List.head?_cons, digit, Bool.not_true, Bool.false_eq_true, if_false]
  exact .skip (comes_pure d after)

/-- A number ends with its digits. -/
theorem comes_number (numeral : Numeral ds n) (fits : n < UInt64.size) (positive : Bool)
    (delimits : Delimits after) :
    (number positive).Comes ds after (some (integerOf positive n)) := by
  cases ds with
  | nil => exact absurd rfl numeral.nonempty
  | cons d ds =>
    obtain ⟨digit, all⟩ := List.forall_mem_cons.1 numeral.digits
    have value : appendDigits (1 <<< 64) (digitValue d) ds = (n, 0) := by
      have whole : Nat.ofDigitChars 10 ds (digitValue d) = n := by
        simpa [Nat.ofDigitChars_cons, digitValue] using numeral.value
      rw [appendDigits_eq (by rw [whole]; simpa using fits), whole]
    have leading : ¬ (d = '0' ∧ ((ds ++ after).head?.map isDigit).getD false = true) := by
      rintro ⟨rfl, more⟩
      rw [numeral.leading ds rfl, List.nil_append, delimits.head?_isDigit] at more
      exact Bool.false_ne_true more
    change (number positive).Comes ([d] ++ ds) after _
    apply (comes_firstDigit digit _).bind
    apply Comes.peek?
    rw [if_neg leading]
    apply (comes_digits all delimits).bind_end
    simp only [value]
    apply Comes.peek?
    cases after with
    | nil => exact comes_pure _ _
    | cons c cs =>
      have known := delimits c rfl
      simp only [List.mem_cons, List.not_mem_nil, or_false] at known
      rcases known with rfl | rfl | rfl
      · exact comes_pure _ _
      · exact comes_pure _ _
      · exact comes_pure _ _

end Reading

namespace Shape
open Reading

theorem comes_naturalNumber {cs after : List Char} {n : Nat} (numeral : Numeral cs n)
    (fits : n < UInt64.size) (delimits : Delimits after) :
    naturalNumber.Comes cs after (some n) := by
  have sized := comes_number numeral fits true delimits
  cases cs with
  | nil => exact absurd rfl numeral.nonempty
  | cons d ds =>
    have digit := numeral.digits d List.mem_cons_self
    apply Comes.token? rfl (isGap_digit digit)
    split
    · rename_i minus
      obtain rfl := Option.some.inj minus
      exact absurd digit (by decide)
    · rename_i c same
      obtain rfl := Option.some.inj same
      rw [if_pos digit]
      apply sized.bind_end
      rw [naturalNumber.sized, integerOf, if_pos rfl, decodeSize_int fits]
      exact comes_pure n after
    · contradiction

theorem decodeNumericKey_toString {n : Nat} (fits : n < UInt64.size) :
    decodeNumericKey (toString n) = .ok n := by
  have text : (toString n).toList = Nat.toDigits 10 n := by
    rw [Nat.toString_eq_repr, Nat.toList_repr]
  have numeral := numeral_toDigits n
  rw [← text] at numeral
  have starts :
      ((toString n).toList.head?.map fun c => isDigit c || c == '-').getD false = true := by
    cases form : (toString n).toList with
    | nil => exact absurd form numeral.nonempty
    | cons d ds =>
      have digit := numeral.digits d (form ▸ List.mem_cons_self)
      simp [digit]
  have ascii := Text.encoded_of_ascii fun c member => toNat_lt_of_isDigit (numeral.digits c member)
  have reads : (do return (← naturalNumber, ← peek?) : Reading (Nat × Option Char)).Comes
      (Text.octets (toString n).toUTF8) [] (some (n, none)) := by
    rw [Text.octets_toUTF8, ascii]
    exact (comes_naturalNumber numeral fits delimits_nil).bind_end (.peek? (comes_pure _ _))
  rw [decodeNumericKey, if_pos starts, reads.runPart]
  rfl

end Shape
end ConditionQuery.Json
