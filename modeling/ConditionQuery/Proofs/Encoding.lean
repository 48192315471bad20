import ConditionQuery.Text.Bytes

/-! Texts as bytes. A character of ASCII is a byte itself, and no other character has such a byte
among its own. -/
namespace ConditionQuery.Text

variable {c : Char} {cs : List Char}

/-- The bytes of the characters, each as the character with its number. -/
def encoded (cs : List Char) : List Char := (cs.flatMap String.utf8EncodeChar).map Char.ofUInt8

theorem octets_toUTF8 (s : String) : octets s.toUTF8 = encoded s.toList := by
  rw [octets, String.toUTF8_eq_toByteArray, ← String.utf8Encode_toList, List.utf8Encode,
    List.toList_data_toByteArray]
  rfl

theorem ofUtf8?_toUTF8 (s : String) : ofUtf8? s.toUTF8 = some s := by
  rw [ofUtf8?, String.toUTF8_eq_toByteArray, ← String.utf8Encode_toList,
    List.utf8Decode?_utf8Encode, Option.map_some, List.toList_toArray, String.ofList_toList]

theorem encoded_append (cs ds : List Char) : encoded (cs ++ ds) = encoded cs ++ encoded ds := by
  simp [encoded]

theorem encoded_cons (c : Char) (cs : List Char) : encoded (c :: cs) = encoded [c] ++ encoded cs :=
  encoded_append [c] cs

theorem utf8EncodeChar_of_ascii (ascii : c.toNat < 0x80) :
    String.utf8EncodeChar c = [UInt8.ofNat c.toNat] :=
  if_pos (Nat.le_of_lt_succ ascii)

theorem ofUInt8_ofNat_toNat (ascii : c.toNat < 0x80) : Char.ofUInt8 (UInt8.ofNat c.toNat) = c := by
  apply Char.toNat_inj.1
  change (UInt8.ofNat c.toNat).toUInt32.toNat = c.toNat
  rw [UInt8.toNat_toUInt32, UInt8.toNat_ofNat']
  exact Nat.mod_eq_of_lt (Nat.lt_of_lt_of_le ascii (by decide))

def IsAscii (cs : List Char) : Prop := ∀ c ∈ cs, c.toNat < 0x80

instance (cs : List Char) : Decidable (IsAscii cs) :=
  decidable_of_iff (cs.all fun c => decide (c.toNat < 0x80)) (by simp [IsAscii])

theorem encoded_of_ascii (ascii : IsAscii cs) : encoded cs = cs := by
  induction cs with
  | nil => rfl
  | cons c cs ih =>
    obtain ⟨first, rest⟩ := List.forall_mem_cons.1 ascii
    rw [encoded_cons, ih rest, encoded, List.flatMap_singleton, utf8EncodeChar_of_ascii first,
      List.map_singleton, ofUInt8_ofNat_toNat first]
    rfl

theorem le_of_mem_utf8EncodeChar (beyond : 0x80 ≤ c.toNat) :
    ∀ byte ∈ String.utf8EncodeChar c, 0x80 ≤ byte.toNat := by
  have high (v n k : Nat) (positive : 0 < n) (least : 0x80 ≤ k) (room : k + n ≤ 0x100) :
      0x80 ≤ (UInt8.ofNat (v % n + k)).toNat := by
    have below := Nat.mod_lt v positive
    rw [UInt8.toNat_ofNat', Nat.mod_eq_of_lt (by omega)]
    omega
  have tail (v : Nat) : 0x80 ≤ (UInt8.ofNat (v % 0x40 + 0x80)).toNat :=
    high v 0x40 0x80 (by decide) (by decide) (by decide)
  fun_cases String.utf8EncodeChar c with
  | case1 v single => exact absurd beyond (Nat.not_le_of_lt (Nat.lt_succ_of_le single))
  | case2 =>
    have first := high (c.val.toNat / 64) 0x20 0xc0 (by decide) (by decide) (by decide)
    simpa only [List.forall_mem_cons] using ⟨first, tail _, nofun⟩
  | case3 =>
    have first := high (c.val.toNat / 4096) 0x10 0xe0 (by decide) (by decide) (by decide)
    simpa only [List.forall_mem_cons] using ⟨first, tail _, tail _, nofun⟩
  | case4 =>
    have first := high (c.val.toNat / 262144) 0x08 0xf0 (by decide) (by decide) (by decide)
    simpa only [List.forall_mem_cons] using ⟨first, tail _, tail _, tail _, nofun⟩

end ConditionQuery.Text
