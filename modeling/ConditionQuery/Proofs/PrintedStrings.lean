import ConditionQuery.Json.Printer
import ConditionQuery.Proofs.Encoding
import ConditionQuery.Proofs.TextReading

/-! Strings in documents. The bytes that a string is written as between its quotes are read back as
the string, whatever follows the closing quote. -/
namespace ConditionQuery.Json.Reading
open Text (encoded)

variable {fuel n : Nat} {front : String} {text after : List Char} {o : Option String} {c d : Char}

theorem comes_escape (known : escaped? c = some d) (after : List Char) :
    escape.Comes [c] after (some d) := by
  apply Comes.peek?
  rw [List.cons_append, List.head?_cons]
  split
  · contradiction
  · rename_i same
    obtain rfl := Option.some.inj same
    contradiction
  · rename_i other _ same
    obtain rfl := Option.some.inj same
    rw [known]
    exact .skip (comes_pure d after)

/-- A control character is written as its unit, of four digits. -/
theorem hexUnit_control (control : n < 0x20) :
    ∃ a b c d, (Json.hexUnit n).toList = ['\\', 'u', a, b, c, d] ∧
      Text.IsAscii [a, b, c, d] ∧ Text.hexNumber? [a, b, c, d] = some n := by
  have written : ∀ n : Fin 0x20, ((Json.hexUnit n).toList.length = 6 ∧
      (Json.hexUnit n).toList.take 2 = ['\\', 'u']) ∧
      Text.IsAscii ((Json.hexUnit n).toList.drop 2) ∧
      Text.hexNumber? ((Json.hexUnit n).toList.drop 2) = some n.val := by decide +kernel
  obtain ⟨⟨length, mark⟩, ascii, value⟩ := written ⟨n, control⟩
  match form : (Json.hexUnit n).toList, length with
  | [x, y, a, b, c, d], _ =>
    simp only [form, List.take_succ_cons, List.take_zero, List.cons.injEq, and_true] at mark
    obtain ⟨rfl, rfl⟩ := mark
    rw [form] at ascii value
    exact ⟨a, b, c, d, rfl, ascii, value⟩

theorem comes_unicodeEscape {a b c d : Char} (control : n < 0x20)
    (value : Text.hexNumber? [a, b, c, d] = some n) (after : List Char) :
    escape.Comes ['u', a, b, c, d] after (some (Char.ofNat n)) := by
  apply Comes.peek?
  apply Comes.skip
  have reads := comes_hexUnit a b c d after
  rw [value] at reads
  apply reads.bind_end
  rw [if_neg (by omega), if_pos (by omega)]
  exact comes_pure _ after

theorem Comes.escaped {written : List Char} {front : ByteArray}
    (reads : ∀ after, escape.Comes written after (some c))
    (next : (stringFrom fuel (front ++ c.toString.toUTF8)).Comes text after o) :
    (stringFrom (fuel + 1) front).Comes ('\\' :: written ++ text) after o := by
  rw [stringFrom]
  apply Comes.peek?
  apply Comes.skip
  exact (reads _).bind next

/-- The byte stands for itself in a string. -/
structure IsPlain (byte : UInt8) : Prop where
  quote : byte ≠ 0x22
  backslash : byte ≠ 0x5C
  printable : 0x20 ≤ byte.toNat

theorem toUInt8_ofUInt8 (byte : UInt8) : (Char.ofUInt8 byte).toUInt8 = byte :=
  UInt8.toUInt8_toUInt32 byte

theorem ofUInt8_ne {byte byte' : UInt8} (differ : byte ≠ byte') :
    Char.ofUInt8 byte ≠ Char.ofUInt8 byte' := by
  intro same
  have bytes := congrArg Char.toUInt8 same
  rw [toUInt8_ofUInt8, toUInt8_ofUInt8] at bytes
  exact differ bytes

theorem Comes.plain {byte : UInt8} {front : ByteArray} (plain : IsPlain byte)
    (next : (stringFrom fuel (front.push byte)).Comes text after o) :
    (stringFrom (fuel + 1) front).Comes (Char.ofUInt8 byte :: text) after o := by
  rw [stringFrom]
  apply Comes.peek?
  rw [List.cons_append, List.head?_cons]
  split
  · contradiction
  · rename_i same
    exact absurd (Option.some.inj same) (ofUInt8_ne plain.quote)
  · rename_i same
    exact absurd (Option.some.inj same) (ofUInt8_ne plain.backslash)
  · rename_i other _ _ same
    obtain rfl := Option.some.inj same
    have printable : ¬ (Char.ofUInt8 byte).toNat < 0x20 := Nat.not_lt_of_le plain.printable
    apply Comes.skip
    rw [if_neg printable, toUInt8_ofUInt8]
    exact next

theorem push_append (front : ByteArray) (byte : UInt8) (bytes : List UInt8) :
    front.push byte ++ bytes.toByteArray = front ++ (byte :: bytes).toByteArray := by
  apply ByteArray.ext
  apply Array.toList_inj.1
  rw [ByteArray.toList_data_append, ByteArray.toList_data_append, List.toList_data_toByteArray,
    List.toList_data_toByteArray, ByteArray.data_push, Array.toList_push, List.append_assoc]
  rfl

theorem Comes.plainBytes {bytes : List UInt8} {front : ByteArray}
    (plain : ∀ byte ∈ bytes, IsPlain byte)
    (next : (stringFrom fuel (front ++ bytes.toByteArray)).Comes text after o) :
    (stringFrom (fuel + bytes.length) front).Comes (bytes.map Char.ofUInt8 ++ text) after o := by
  induction bytes generalizing front with
  | nil => simpa using next
  | cons byte bytes ih =>
    obtain ⟨first, rest⟩ := List.forall_mem_cons.1 plain
    rw [← push_append] at next
    exact .plain first (ih rest next)

theorem isPlain_of_mem_utf8EncodeChar (quote : c ≠ '"') (backslash : c ≠ '\\')
    (printable : ¬ c.toNat < 0x20) : ∀ byte ∈ String.utf8EncodeChar c, IsPlain byte := by
  intro byte member
  by_cases ascii : c.toNat < 0x80
  · rw [Text.utf8EncodeChar_of_ascii ascii, List.mem_singleton] at member
    have same : Char.ofUInt8 byte = c := member ▸ Text.ofUInt8_ofNat_toNat ascii
    refine ⟨?_, ?_, ?_⟩
    · rintro rfl
      exact quote same.symm
    · rintro rfl
      exact backslash same.symm
    · rw [← same] at printable
      exact Nat.le_of_not_lt printable
  · have high := Text.le_of_mem_utf8EncodeChar (Nat.le_of_not_lt ascii) byte member
    refine ⟨?_, ?_, Nat.le_trans (by decide) high⟩
    · rintro rfl
      exact absurd high (by decide)
    · rintro rfl
      exact absurd high (by decide)

theorem toUTF8_toString (c : Char) : c.toString.toUTF8 = (String.utf8EncodeChar c).toByteArray := by
  rw [Char.toString, String.toUTF8_eq_toByteArray, String.toByteArray_singleton,
    List.utf8Encode_singleton]

/-- The bytes that a character is written as in a string. -/
def escapeText (c : Char) : List Char := encoded (escapeChar c).toList

/-- One more character is read as it is written. -/
theorem Comes.push {front : ByteArray}
    (next : ∀ fuel, n < fuel →
      (stringFrom fuel (front ++ c.toString.toUTF8)).Comes text after o) :
    ∀ fuel, (escapeText c).length + n < fuel →
      (stringFrom fuel front).Comes (escapeText c ++ text) after o := by
  -- An escape takes one step of the reader, and more than one byte.
  have step {written : List Char} (reads : ∀ after, escape.Comes written after (some c))
      (form : escapeText c = '\\' :: written) :
      ∀ fuel, (escapeText c).length + n < fuel →
        (stringFrom fuel front).Comes (escapeText c ++ text) after o := by
    intro fuel enough
    rw [form] at enough ⊢
    rw [List.length_cons] at enough
    cases fuel with
    | zero => contradiction
    | succ fuel => exact .escaped reads (next fuel (by omega))
  by_cases quote : c = '"'
  · subst quote
    exact step (comes_escape rfl) rfl
  by_cases backslash : c = '\\'
  · subst backslash
    exact step (comes_escape rfl) rfl
  by_cases lineFeed : c = '\n'
  · subst lineFeed
    exact step (comes_escape rfl) rfl
  by_cases carriageReturn : c = '\r'
  · subst carriageReturn
    exact step (comes_escape rfl) rfl
  by_cases tab : c = '\t'
  · subst tab
    exact step (comes_escape rfl) rfl
  by_cases backspace : c = '\x08'
  · subst backspace
    exact step (comes_escape rfl) rfl
  by_cases formFeed : c = '\x0c'
  · subst formFeed
    exact step (comes_escape rfl) rfl
  by_cases control : c.toNat < 0x20
  · obtain ⟨h₁, h₂, h₃, h₄, written, ascii, value⟩ := hexUnit_control control
    have reads := comes_unicodeEscape control value
    rw [Char.ofNat_toNat] at reads
    refine step reads ?_
    simp only [escapeText, escapeChar, quote, backslash, lineFeed, carriageReturn, tab, backspace,
      formFeed, control, if_false, if_true, written]
    apply Text.encoded_of_ascii
    simpa [Text.IsAscii] using ascii
  · intro fuel enough
    have form : escapeText c = (String.utf8EncodeChar c).map Char.ofUInt8 := by
      simp [escapeText, encoded, escapeChar, quote, backslash, lineFeed, carriageReturn, tab,
        backspace, formFeed, control]
    rw [form, List.length_map] at enough
    rw [form]
    obtain ⟨more, rfl⟩ := Nat.exists_eq_add_of_lt enough
    have reads := next (n + more + 1) (by omega)
    rw [toUTF8_toString] at reads
    have whole := reads.plainBytes (isPlain_of_mem_utf8EncodeChar quote backslash control)
    rwa [Nat.add_comm, ← Nat.add_assoc, ← Nat.add_assoc] at whole

/-- The bytes that a string is written as, from the one after the opening quote to the closing
quote. -/
def bodyText (s : String) : List Char := s.toList.flatMap escapeText ++ ['"']

theorem encoded_flatMap (cs : List Char) (escape : Char → String) :
    encoded (cs.flatMap fun c => (escape c).toList) =
      cs.flatMap fun c => encoded (escape c).toList := by
  induction cs with
  | nil => rfl
  | cons c cs ih => rw [List.flatMap_cons, Text.encoded_append, ih, List.flatMap_cons]

theorem encoded_quote (s : String) :
    encoded (quote escapeChar s).toList = '"' :: bodyText s := by
  have form : (quote escapeChar s).toList =
      ['"'] ++ ((s.toList.flatMap fun c => (escapeChar c).toList) ++ ['"']) := by
    simp [quote, List.flatMap_map, String.toList_join]
  rw [form, Text.encoded_append, Text.encoded_append, encoded_flatMap,
    Text.encoded_of_ascii (by decide)]
  rfl

theorem toUTF8_append (s t : String) : (s ++ t).toUTF8 = s.toUTF8 ++ t.toUTF8 := by
  simp only [String.toUTF8_eq_toByteArray, String.toByteArray_append]

/-- The characters that are left are read as they are written, after those already read. -/
theorem comes_stringFrom (rest after : List Char) :
    ∀ (front : String) (fuel : Nat), (rest.flatMap escapeText).length < fuel →
      (stringFrom fuel front.toUTF8).Comes (rest.flatMap escapeText ++ ['"']) after
        (some (front ++ String.ofList rest)) := by
  induction rest with
  | nil =>
    intro front fuel enough
    cases fuel with
    | zero => contradiction
    | succ fuel =>
      rw [stringFrom]
      apply Comes.peek?
      apply Comes.skip
      rw [Text.ofUtf8?_toUTF8, String.ofList_nil, String.append_empty]
      exact comes_pure front after
  | cons c rest ih =>
    intro front
    have next := ih (front ++ c.toString)
    rw [toUTF8_append, String.append_assoc, Char.toString, ← String.ofList_cons] at next
    rw [List.flatMap_cons, List.length_append, List.append_assoc]
    exact Comes.push next

theorem comes_string (s : String) (after : List Char) :
    string.Comes (bodyText s) after (some s) := by
  have reads := comes_stringFrom s.toList after ""
  rw [String.empty_append, String.ofList_toList] at reads
  apply Comes.rest
  apply reads
  rw [bodyText, List.length_append, List.length_append]
  omega

end ConditionQuery.Json.Reading
