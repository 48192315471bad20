import ConditionQuery.Json.Printer
import ConditionQuery.Proofs.ReadValues
import ConditionQuery.Proofs.ReadingInPlace

/-! Numbers in documents. Integers of 64 bits are read back from what they are written as; a double
that is read back when it stands alone is read back wherever it stands. -/
namespace ConditionQuery

/-- The double is read back from what it is written as. -/
def Binary64.IsReadBack (d : Binary64) : Prop :=
  Json.parse (Json.double d).compact = .ok (.double d)

instance (d : Binary64) : Decidable d.IsReadBack :=
  match read : Json.parse (Json.double d).compact with
  | .ok (.double back) => decidable_of_iff (back = d) (by simp [Binary64.IsReadBack, read])
  | .ok .null | .ok (.bool _) | .ok (.int _) | .ok (.string _) | .ok (.array _)
  | .ok (.object _) | .error _ => isFalse (by simp [Binary64.IsReadBack, read])

namespace Json
open Reading
open Text (encoded)

/-- The bytes that a value is written as. -/
def printed (v : Json) : List Char := encoded (v.write escapeChar).toList

/-- The character may stand in a number, or in what is written in the place of one. -/
def IsAtomic (c : Char) : Prop := isDigit c = true ∨ c ∈ ['.', 'e', '+', '-', 'n', 'u', 'l']

theorem IsAtomic.ascii {c : Char} (atomic : IsAtomic c) : c.toNat < 0x80 := by
  obtain digit | mark := atomic
  · exact toNat_lt_of_isDigit digit
  · simp only [List.mem_cons, List.not_mem_nil, or_false] at mark
    rcases mark with rfl | rfl | rfl | rfl | rfl | rfl | rfl <;> decide

theorem IsAtomic.solid {c : Char} (atomic : IsAtomic c) : isGap c = false := by
  obtain digit | mark := atomic
  · exact isGap_digit digit
  · simp only [List.mem_cons, List.not_mem_nil, or_false] at mark
    rcases mark with rfl | rfl | rfl | rfl | rfl | rfl | rfl <;> rfl

def AllAtomic (cs : List Char) : Prop := ∀ c ∈ cs, IsAtomic c

theorem IsDigits.atomic {ds : List Char} (all : IsDigits ds) : AllAtomic ds :=
  fun c member => .inl (all c member)

theorem AllAtomic.append {cs ds : List Char} (front : AllAtomic cs) (back : AllAtomic ds) :
    AllAtomic (cs ++ ds) :=
  List.forall_mem_append.2 ⟨front, back⟩

theorem AllAtomic.ascii {cs : List Char} (all : AllAtomic cs) : Text.IsAscii cs :=
  fun c member => (all c member).ascii

theorem isDigits_toDigits (n : Nat) : IsDigits (Nat.toDigits 10 n) := (numeral_toDigits n).digits

theorem atomic_of_mem {cs : List Char} (among : cs ⊆ ['.', 'e', '+', '-', 'n', 'u', 'l']) :
    AllAtomic cs :=
  fun _ member => .inr (among member)

theorem atomic_exponentText (layout : DoubleLayout) (e : Int) :
    AllAtomic (layout.exponentText e).toList := by
  have digits (n : Nat) : AllAtomic (toString n).toList := by
    rw [Nat.toString_eq_repr, Nat.toList_repr]
    exact (isDigits_toDigits n).atomic
  unfold DoubleLayout.exponentText
  split
  · rw [String.toList_append]
    exact .append (atomic_of_mem (by simp)) (digits _)
  split
  · rw [String.toList_append]
    exact .append (atomic_of_mem (by simp)) (digits _)
  · exact digits _

theorem atomic_zeros (n : Nat) : AllAtomic (List.replicate n '0') := by
  intro c member
  obtain rfl := List.eq_of_mem_replicate member
  exact .inl rfl

theorem atomic_place (layout : DoubleLayout) {ds : List Char} (all : IsDigits ds) (point : Int) :
    AllAtomic (layout.place ds point).toList := by
  have front (n : Nat) : AllAtomic (ds.take n) := fun c member =>
    .inl (all c (List.mem_of_mem_take member))
  have back (n : Nat) : AllAtomic (ds.drop n) := fun c member =>
    .inl (all c (List.mem_of_mem_drop member))
  have text {cs : List Char} (all : AllAtomic cs) : AllAtomic (String.ofList cs).toList := by
    rwa [String.toList_ofList]
  have zero : AllAtomic "0".toList := atomic_zeros 1
  have point : AllAtomic ".".toList := atomic_of_mem (by simp)
  have exponent : AllAtomic "e".toList := atomic_of_mem (by simp)
  unfold DoubleLayout.place
  split
  · split
    · have start : AllAtomic "0.".toList := zero.append point
      rw [String.toList_append]
      exact start.append (text ((atomic_zeros _).append all.atomic))
    · dsimp only
      rw [String.toList_append, String.toList_append]
      refine ((text ((front _).append (atomic_zeros _))).append point).append ?_
      split
      · exact zero
      · exact text (back _)
  · dsimp only
    rw [String.toList_append, String.toList_append, String.toList_append]
    refine (((text (front 1)).append ?_).append exponent).append (atomic_exponentText layout _)
    split
    · exact fun _ => nofun
    · rw [String.toList_append]
      exact point.append (text (back 1))

theorem isDigits_stripZeros (n : Nat) (k : Int) : IsDigits (DoubleLayout.stripZeros n k).1 := by
  intro c member
  have kept := (List.dropWhile_sublist _).mem (List.mem_reverse.1 member)
  exact isDigits_toDigits n c (List.mem_reverse.1 kept)

theorem atomic_doubleText (d : Binary64) : AllAtomic (doubleText d).toList := by
  unfold doubleText
  split
  · rename_i finite
    have number : d.isNaN = false := by simp [Binary64.isNaN, bne_iff_ne.1 finite]
    rw [DoubleLayout.write, number, finite, if_neg Bool.false_ne_true, if_pos rfl,
      String.toList_append]
    refine .append ?_ ?_
    · split
      · exact atomic_of_mem (by simp)
      · exact fun _ => nofun
    · unfold DoubleLayout.unsigned
      split
      · have zero := atomic_zeros 1
        have point : AllAtomic ['.'] := atomic_of_mem (by simp)
        exact zero.append (point.append zero)
      · obtain ⟨n, k⟩ := Binary64.shortestDecimal DoubleLayout.document.tie _ _
        exact atomic_place _ (isDigits_stripZeros n k) _
  · exact atomic_of_mem (by simp)

theorem printed_double (d : Binary64) : printed (.double d) = (doubleText d).toList := by
  rw [printed, write]
  exact Text.encoded_of_ascii (atomic_doubleText d).ascii

variable {after : List Char} {d : Binary64}

/-- What is read back alone is read back everywhere. -/
theorem comes_double (back : d.IsReadBack) (depth : Nat) (delimits : Delimits after) :
    (value depth).Comes (printed (.double d)) after (some (.double d)) := by
  obtain ⟨c, read, gaps⟩ := exists_of_run back
  have same : value depth (Cursor.ofBytes (Json.double d).compact.toUTF8) = .ok (.double d) c := by
    cases readAs_of_value read with
    | plain _ anywhere => exact anywhere depth
  rw [Cursor.ofBytes, Text.octets_toUTF8] at same
  obtain ⟨text, form, reads⟩ := carries_value delimits depth _ _ _ _ same
  have form : printed (.double d) = text ++ c.rest := form
  -- A number is written without gaps, so none are left.
  have all : c.rest = [] := by
    rw [List.eq_nil_iff_forall_not_mem]
    intro g left
    have written : g ∈ printed (.double d) := form ▸ List.mem_append_right text left
    rw [printed_double] at written
    exact absurd (gaps g left) (by simp [(atomic_doubleText d g written).solid])
  rw [all, List.append_nil] at form
  rw [all] at reads
  rwa [form]

/-! Integers. -/

theorem Reading.Comes.unsigned {digit : Char} {ds : List Char} {v : Json}
    (isDigit : isDigit digit = true)
    (reads : (number true).Comes (digit :: ds) after (some v)) (depth : Nat) :
    (value depth).Comes (digit :: ds) after (some v) := by
  intro p
  obtain ⟨q, read⟩ := reads p
  rw [value_eq]
  exact ⟨q, valueWith_of_digit (token?_eq_ok (isGap_digit isDigit) _ p) isDigit read _⟩

theorem Reading.Comes.negative {text : List Char} {v : Json}
    (reads : (number false).Comes text after (some v)) (depth : Nat) :
    (value depth).Comes ('-' :: text) after (some v) := by
  rw [value_eq]
  exact .token? rfl rfl (.skip reads)

theorem printed_ofNat (n : Nat) : printed (.int (Int.ofNat n)) = Nat.toDigits 10 n := by
  rw [← Text.encoded_of_ascii (isDigits_toDigits n).atomic.ascii, ← Nat.toList_repr]
  rfl

theorem printed_negSucc (n : Nat) :
    printed (.int (Int.negSucc n)) = '-' :: Nat.toDigits 10 n.succ := by
  have written : (toString (Int.negSucc n)).toList = '-' :: Nat.toDigits 10 n.succ := by
    rw [← Nat.toList_repr]
    exact String.toList_append
  rw [printed, write, written]
  exact Text.encoded_of_ascii (List.forall_mem_cons.2 ⟨by decide, (isDigits_toDigits _).atomic.ascii⟩)

theorem exists_toDigits (n : Nat) :
    ∃ d ds, Nat.toDigits 10 n = d :: ds ∧ isDigit d = true := by
  have numeral := numeral_toDigits n
  cases form : Nat.toDigits 10 n with
  | nil => exact absurd form numeral.nonempty
  | cons d ds => exact ⟨d, ds, rfl, numeral.digits d (form ▸ List.mem_cons_self)⟩

/-- Integers of 64 bits are read back. -/
theorem comes_int {n : Int} (fits : Int64.minValue.toInt ≤ n ∧ n < UInt64.size)
    (depth : Nat) (delimits : Delimits after) :
    (value depth).Comes (printed (.int n)) after (some (.int n)) := by
  cases n with
  | ofNat n =>
    have reads := comes_number (numeral_toDigits n) (Int.ofNat_lt.1 fits.2) true delimits
    obtain ⟨d, ds, form, digit⟩ := exists_toDigits n
    rw [printed_ofNat]
    rw [form] at reads ⊢
    exact reads.unsigned digit depth
  | negSucc n =>
    have least : Int64.minValue.toInt = -9223372036854775808 := by decide
    rw [least] at fits
    have size : n.succ ≤ 9223372036854775808 := by omega
    have fits' : n.succ < UInt64.size := Nat.lt_of_le_of_lt size (by decide)
    have reads := comes_number (numeral_toDigits n.succ) fits' false delimits
    have value : integerOf false n.succ = .int (Int.negSucc n) := by
      rw [integerOf, if_neg Bool.false_ne_true, if_pos ⟨Nat.succ_pos n, size⟩]
      rfl
    rw [printed_negSucc]
    rw [value] at reads
    exact reads.negative depth

end Json
end ConditionQuery
