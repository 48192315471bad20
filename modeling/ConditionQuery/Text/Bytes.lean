import ConditionQuery.Text.Basic

/-! Texts as bytes: byte offsets in the UTF-8 form of a text, and percent-encoded texts, in which a
percent sign and two hexadecimal digits stand for a byte. -/
namespace ConditionQuery.Text

def byteLength (cs : List Char) : Nat := cs.foldr (fun c bytes => c.utf8Size + bytes) 0

/-- Splits a text after a number of bytes; `none` where the text is shorter or the cut would fall
inside a character. -/
def cutAt? : Nat → List Char → Option (List Char × List Char)
  | 0, cs => some ([], cs)
  | _ + 1, [] => none
  | n + 1, c :: cs =>
    if c.utf8Size ≤ n + 1 then
      (cutAt? (n + 1 - c.utf8Size) cs).map fun (front, back) => (c :: front, back)
    else none

@[simp] theorem byteLength_nil : byteLength [] = 0 := rfl

@[simp] theorem byteLength_cons (c : Char) (cs : List Char) :
    byteLength (c :: cs) = c.utf8Size + byteLength cs := rfl

@[simp] theorem byteLength_append (cs ds : List Char) :
    byteLength (cs ++ ds) = byteLength cs + byteLength ds := by
  induction cs with
  | nil => simp
  | cons c cs ih => simp [ih, Nat.add_assoc]

/-- A cut succeeds exactly between two parts of the text, the first of the wanted length. -/
theorem cutAt?_eq_some_iff {n : Nat} {cs front back : List Char} :
    cutAt? n cs = some (front, back) ↔ cs = front ++ back ∧ byteLength front = n := by
  fun_induction cutAt? n cs generalizing front back with
  | case1 cs =>
    constructor
    · rintro h
      simp only [Option.some.injEq, Prod.mk.injEq] at h
      obtain ⟨rfl, rfl⟩ := h
      simp
    · rintro ⟨rfl, size⟩
      cases front with
      | nil => rfl
      | cons c front =>
        have := c.utf8Size_pos
        simp only [byteLength_cons] at size
        omega
  | case2 n =>
    constructor
    · simp
    · rintro ⟨parts, size⟩
      simp only [List.nil_eq, List.append_eq_nil_iff] at parts
      rw [parts.1] at size
      simp at size
  | case3 n c cs fits ih =>
    cases front with
    | nil => simp
    | cons d front =>
      simp only [Option.map_eq_some_iff, Prod.exists, Prod.mk.injEq, List.cons.injEq,
        List.cons_append, byteLength_cons]
      constructor
      · rintro ⟨a, b, cut, ⟨rfl, rfl⟩, rfl⟩
        obtain ⟨rfl, size⟩ := ih.1 cut
        exact ⟨⟨rfl, rfl⟩, by omega⟩
      · rintro ⟨⟨rfl, rfl⟩, size⟩
        exact ⟨front, back, ih.2 ⟨rfl, by omega⟩, ⟨rfl, rfl⟩, rfl⟩
  | case4 n c cs tight =>
    constructor
    · simp
    · rintro ⟨parts, size⟩
      cases front with
      | nil => simp at size
      | cons d front =>
        simp only [List.cons_append, List.cons.injEq] at parts
        simp only [byteLength_cons, ← parts.1] at size
        omega

/-- The bytes, each as the character with its number. -/
def octets (bytes : ByteArray) : List Char := bytes.data.toList.map Char.ofUInt8

/-- The text that bytes write in UTF-8. -/
def ofUtf8? (bytes : ByteArray) : Option String :=
  bytes.utf8Decode?.map fun cs => String.ofList cs.toList

/-- The bytes that a percent-encoded text stands for. A percent sign without digits stands for
itself. -/
def percentBytes : List Char → List UInt8
  | '%' :: a :: b :: cs =>
    match hexValue? a, hexValue? b with
    | some high, some low => UInt8.ofNat (high * 16 + low) :: percentBytes cs
    | _, _ => String.utf8EncodeChar '%' ++ percentBytes (a :: b :: cs)
  | c :: cs => String.utf8EncodeChar c ++ percentBytes cs
  | [] => []

/-- The text that a percent-encoded one stands for, if its bytes are UTF-8. -/
def percentDecode? (text : String) : Option String :=
  ofUtf8? (percentBytes text.toList).toByteArray

def percentByte (byte : UInt8) : List Char :=
  let digits := Nat.toDigits 16 byte.toNat
  '%' :: (List.replicate (2 - digits.length) '0' ++ digits).map Char.toUpper

/-- The text with the characters that satisfy the predicate encoded. -/
def percentEncode (p : Char → Bool) (cs : List Char) : List Char :=
  cs.flatMap fun c => if p c then (String.utf8EncodeChar c).flatMap percentByte else [c]

end ConditionQuery.Text
