import ConditionQuery.Json.Cursor

/-! JSON strings, from the character after the opening quote to the closing one. -/
namespace ConditionQuery.Json

def escaped? : Char → Option Char
  | '"' => some '"'
  | '\\' => some '\\'
  | '/' => some '/'
  | 'b' => some '\x08'
  | 'f' => some '\x0c'
  | 'n' => some '\n'
  | 'r' => some '\r'
  | 't' => some '\t'
  | _ => none

namespace Reading

def hexUnit : Reading Nat := do
  let digits := (← rest).take 4
  for _ in digits do skip
  if digits.length < 4 then fail .endInString
  match Text.hexNumber? digits with
  | some n => return n
  | none => fail .invalidEscape

/-- Passes over a character that the second surrogate of a pair begins with. -/
def pairMark (mark : Char) : Reading Unit := do
  match ← peek? with
  | none => fail .endInString
  | some c => if c = mark then skip else failNext .endInEscape

/-- The character of an escaped UTF-16 unit, or of an escaped pair of surrogates. -/
def unicodeEscape : Reading Char := do
  let unit ← hexUnit
  if 0xDC00 ≤ unit ∧ unit ≤ 0xDFFF then fail .loneSurrogate
  if unit < 0xD800 ∨ 0xDBFF < unit then return Char.ofNat unit
  pairMark '\\'
  pairMark 'u'
  let second ← hexUnit
  if second < 0xDC00 ∨ 0xDFFF < second then fail .loneSurrogate
  return Char.ofNat (0x10000 + (unit - 0xD800) * 0x400 + (second - 0xDC00))

def escape : Reading Char := do
  match ← peek? with
  | none => fail .endInString
  | some 'u' => skip; unicodeEscape
  | some c =>
    match escaped? c with
    | some d => skip; return d
    | none => failNext .invalidEscape

/-- The text up to the closing quote, after the bytes already read. -/
def stringFrom : Nat → ByteArray → Reading String
  | 0, _ => fail .endInString
  | fuel + 1, front => do
    match ← peek? with
    | none => fail .endInString
    | some '"' =>
      skip
      match Text.ofUtf8? front with
      | some s => return s
      | none => fail .notUtf8
    | some '\\' => skip; stringFrom fuel (front ++ (← escape).toString.toUTF8)
    | some c =>
      skip
      if c.toNat < 0x20 then fail .controlCharacter
      stringFrom fuel (front.push c.toUInt8)

def string : Reading String := do stringFrom ((← rest).length + 1) .empty

/-- Passes over a string whose value is not wanted; surrogates need not be paired. -/
def passStringFrom : Nat → Reading Unit
  | 0 => fail .endInString
  | fuel + 1 => do
    match ← peek? with
    | none => fail .endInString
    | some '"' => skip
    | some '\\' =>
      skip
      match ← peek? with
      | none => fail .endInString
      | some c =>
        if c ≠ 'u' ∧ (escaped? c).isNone then failNext .invalidEscape
        skip
        if c = 'u' then let _ ← hexUnit
        passStringFrom fuel
    | some c =>
      if c.toNat < 0x20 then fail .controlCharacter
      skip
      passStringFrom fuel

def passString : Reading Unit := do passStringFrom ((← rest).length + 1)

end Reading
end ConditionQuery.Json
