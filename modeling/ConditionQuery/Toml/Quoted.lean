import ConditionQuery.Text.Basic
import ConditionQuery.Toml.Scan

/-! Strings and keys. A basic string has escapes, a literal string none; between three quotes either
spans lines. -/
namespace ConditionQuery.Toml

def codePoint? (digits : List Char) : Option Char := do
  let n ← Text.hexNumber? digits
  if n.isValidChar then return Char.ofNat n else none

def escaped? : Char → Option Char
  | '"' => some '"'
  | '\\' => some '\\'
  | 'b' => some '\x08'
  | 'f' => some '\x0c'
  | 'n' => some '\n'
  | 'r' => some '\r'
  | 't' => some '\t'
  | _ => none

/-- Where a string that spans lines stands. -/
inductive Spot where
  | text
  /-- After a backslash that hides the coming line break. -/
  | beforeBreak
  /-- After a hidden line break, where all blanks are hidden too. -/
  | afterBreak
  deriving DecidableEq, Repr

def basicBody : List Char → Option (List Char × List Char)
  | '"' :: cs => some ([], cs)
  | '\\' :: 'u' :: a :: b :: c :: d :: cs => do
    let x ← codePoint? [a, b, c, d]
    let (body, rest) ← basicBody cs
    return (x :: body, rest)
  | '\\' :: 'U' :: a :: b :: c :: d :: e :: f :: g :: h :: cs => do
    let x ← codePoint? [a, b, c, d, e, f, g, h]
    let (body, rest) ← basicBody cs
    return (x :: body, rest)
  | '\\' :: c :: cs => do
    let x ← escaped? c
    let (body, rest) ← basicBody cs
    return (x :: body, rest)
  | c :: cs => do
    guard (isVisible c && c != '\\')
    let (body, rest) ← basicBody cs
    return (c :: body, rest)
  | [] => none

/-- The quotes that close a string which spans lines, up to two of them its own; the text after. -/
def closing? (quote : Char) (cs : List Char) : Option (List Char × List Char) :=
  let run := (cs.takeWhile (· == quote)).length
  if run < 3 then none
  else
    let own := min (run - 3) 2
    some (List.replicate own quote, cs.drop (own + 3))

def basicLines : Spot → List Char → Option (List Char × List Char)
  | _, [] => none
  | .beforeBreak, '\n' :: cs => basicLines .afterBreak cs
  | .beforeBreak, '\r' :: '\n' :: cs => basicLines .afterBreak cs
  | .beforeBreak, c :: cs => if isGap c then basicLines .beforeBreak cs else none
  | .afterBreak, '\r' :: '\n' :: cs => basicLines .afterBreak cs
  | _, '\\' :: 'u' :: a :: b :: c :: d :: cs => do
    let x ← codePoint? [a, b, c, d]
    let (body, rest) ← basicLines .text cs
    return (x :: body, rest)
  | _, '\\' :: 'U' :: a :: b :: c :: d :: e :: f :: g :: h :: cs => do
    let x ← codePoint? [a, b, c, d, e, f, g, h]
    let (body, rest) ← basicLines .text cs
    return (x :: body, rest)
  | _, '\\' :: '\n' :: cs => basicLines .afterBreak cs
  | _, '\\' :: '\r' :: '\n' :: cs => basicLines .afterBreak cs
  | _, '\\' :: c :: cs =>
    if isGap c then basicLines .beforeBreak cs
    else do
      let x ← escaped? c
      let (body, rest) ← basicLines .text cs
      return (x :: body, rest)
  | _, '\r' :: '\n' :: cs => do
    let (body, rest) ← basicLines .text cs
    return ('\n' :: body, rest)
  | spot, c :: cs =>
    if spot = .afterBreak ∧ (isGap c ∨ c = '\n') then basicLines .afterBreak cs
    else
      match closing? '"' (c :: cs) with
      | some closed => some closed
      | none => do
        guard ((isVisible c || c == '\n') && c != '\\')
        let (body, rest) ← basicLines .text cs
        return (c :: body, rest)

def literalLines : List Char → Option (List Char × List Char)
  | [] => none
  | '\r' :: '\n' :: cs => do
    let (body, rest) ← literalLines cs
    return ('\n' :: body, rest)
  | c :: cs =>
    match closing? '\'' (c :: cs) with
    | some closed => some closed
    | none => do
      guard (isVisible c || c == '\n')
      let (body, rest) ← literalLines cs
      return (c :: body, rest)

namespace Scan

def lineString : Scan String := do
  if ← accept "\"" then return String.ofList (← (basicBody : Scan (List Char)))
  else
    expect "'"
    let body ← takeWhile fun c => isVisible c && c != '\''
    expect "'"
    return String.ofList body

/-- A string, from its quote on. A line break right after three quotes does not belong to it. -/
def string : Scan String := do
  if ← accept "\"\"\"" then
    let _ ← optionally lineBreak
    return String.ofList (← (basicLines .text : Scan (List Char)))
  else if ← accept "'''" then
    let _ ← optionally lineBreak
    return String.ofList (← (literalLines : Scan (List Char)))
  else lineString

def isBare (c : Char) : Bool := c.isAlphanum || c == '_' || c == '-'

def simpleKey : Scan String := do
  match ← peek? with
  | some '"' | some '\'' => lineString
  | _ =>
    let name ← takeWhile isBare
    guard (name ≠ [])
    return String.ofList name

/-- The greatest number of parts in a key, and of brackets within each other. -/
def maxDepth : Nat := 79

def dottedKey : Nat → Scan (List String × String)
  | 0 => failure
  | n + 1 => do
    gap
    let name ← simpleKey
    gap
    if ← accept "." then
      let (path, key) ← dottedKey n
      return (name :: path, key)
    else return ([], name)

def key : Scan (List String × String) := dottedKey maxDepth

end Scan
end ConditionQuery.Toml
