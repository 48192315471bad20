import ConditionQuery.Decimal.Layout
import ConditionQuery.Json.Basic

/-! Texts of JSON values: on one line, or indented by two blanks. -/
namespace ConditionQuery.Json

def hexUnit (n : Nat) : String :=
  let digits := Nat.toDigits 16 n
  "\\u" ++ String.ofList (List.replicate (4 - digits.length) '0' ++ digits)

def escapeChar (c : Char) : String :=
  if c = '"' then "\\\""
  else if c = '\\' then "\\\\"
  else if c = '\n' then "\\n"
  else if c = '\r' then "\\r"
  else if c = '\t' then "\\t"
  else if c = '\x08' then "\\b"
  else if c = '\x0c' then "\\f"
  else if c.toNat < 0x20 then hexUnit c.toNat
  else c.toString

/-- As `escapeChar`, and characters beyond ASCII by their UTF-16 units. -/
def escapeAscii (c : Char) : String :=
  if c.toNat < 0x7F then escapeChar c
  else if c.toNat < 0x10000 then hexUnit c.toNat
  else
    let n := c.toNat - 0x10000
    hexUnit (0xD800 + n / 1024) ++ hexUnit (0xDC00 + n % 1024)

def quote (escape : Char → String) (s : String) : String :=
  "\"" ++ String.join (s.toList.map escape) ++ "\""

/-- A double that is not finite has no JSON form and is written as null. -/
def doubleText (d : Binary64) : String :=
  if d.isFinite then DoubleLayout.document.write d else "null"

mutual

def write (escape : Char → String) : Json → String
  | .null => "null"
  | .bool b => if b then "true" else "false"
  | .int n => toString n
  | .double d => doubleText d
  | .string s => quote escape s
  | .array items => "[" ++ ",".intercalate (writeItems escape items) ++ "]"
  | .object members => "\x7b" ++ ",".intercalate (writeMembers escape members) ++ "\x7d"

def writeItems (escape : Char → String) : List Json → List String
  | [] => []
  | item :: rest => write escape item :: writeItems escape rest

def writeMembers (escape : Char → String) : Members → List String
  | [] => []
  | (key, value) :: rest =>
    (quote escape key ++ ":" ++ write escape value) :: writeMembers escape rest

end

def compact (v : Json) : String := v.write escapeChar

def ascii (v : Json) : String := v.write escapeAscii

def lineBreak (depth : Nat) : String :=
  "\n" ++ String.ofList (List.replicate (2 * depth) ' ')

/-- Each entry on a line of its own; no entries leave the brackets together. -/
def block (opening closing : String) (depth : Nat) : List String → String
  | [] => opening ++ closing
  | entries =>
    opening ++ lineBreak (depth + 1) ++ ("," ++ lineBreak (depth + 1)).intercalate entries ++
      lineBreak depth ++ closing

mutual

def writeIndented (depth : Nat) : Json → String
  | .array items => block "[" "]" depth (writeIndentedItems (depth + 1) items)
  | .object members => block "\x7b" "\x7d" depth (writeIndentedMembers (depth + 1) members)
  | .null => "null"
  | .bool b => if b then "true" else "false"
  | .int n => toString n
  | .double d => doubleText d
  | .string s => quote escapeChar s

def writeIndentedItems (depth : Nat) : List Json → List String
  | [] => []
  | item :: rest => writeIndented depth item :: writeIndentedItems depth rest

def writeIndentedMembers (depth : Nat) : Members → List String
  | [] => []
  | (key, value) :: rest =>
    (quote escapeChar key ++ ": " ++ writeIndented depth value) :: writeIndentedMembers depth rest

end

def pretty (v : Json) : String := v.writeIndented 0

end ConditionQuery.Json
