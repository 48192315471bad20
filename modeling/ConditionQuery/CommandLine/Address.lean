import ConditionQuery.Text.Bytes

/-! Paths of requests as a web client sends them. -/
namespace ConditionQuery.CommandLine.Address

def isIgnored (c : Char) : Bool := c == '\t' || c == '\n' || c == '\r'

/-- How many dots a segment consists of, if of nothing else. -/
def dots? : List Char → Option Nat
  | [] => some 0
  | '.' :: cs => (dots? cs).map (· + 1)
  | '%' :: '2' :: e :: cs => if e = 'e' ∨ e = 'E' then (dots? cs).map (· + 1) else none
  | _ :: _ => none

/-- Follows segments from those passed through, the last of these first. One dot stays where it is,
two dots lead back; either ends a path like an empty segment. -/
def resolve (passed : List (List Char)) : List (List Char) → List (List Char)
  | [] => passed.reverse
  | [last] =>
    match dots? last with
    | some 1 => ([] :: passed).reverse
    | some 2 => ([] :: passed.tail).reverse
    | _ => (last :: passed).reverse
  | segment :: rest =>
    match dots? segment with
    | some 1 => resolve passed rest
    | some 2 => resolve passed.tail rest
    | _ => resolve (segment :: passed) rest

def isEncoded (c : Char) : Bool :=
  c.toNat ≤ 0x20 || 0x7F ≤ c.toNat || "\"#<>?`\x7b\x7d".toList.contains c

/-- The path that is sent for a path written without its first slash. Blanks at its end do not
count; a question mark or a number sign ends it. -/
def normalize (path : List Char) : String :=
  let written := (path.reverse.dropWhile fun c => c.toNat ≤ 0x20).reverse
  let written := (written.filter (!isIgnored ·)).takeWhile fun c => c != '?' && c != '#'
  let segments := resolve [] (Text.split (fun c => c == '/' || c == '\\') written)
  String.ofList ('/' :: ['/'].intercalate (segments.map (Text.percentEncode isEncoded)))

end ConditionQuery.CommandLine.Address
