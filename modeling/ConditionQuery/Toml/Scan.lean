/-! Reading a TOML document from left to right. A document that breaks a rule has no value. -/
namespace ConditionQuery.Toml

abbrev Scan := StateT (List Char) Option

def isGap (c : Char) : Bool := c == ' ' || c == '\t'

/-- Whether a character may stand in comments and strings: all but the controls, of which the tab
may. -/
def isVisible (c : Char) : Bool := c == '\t' || (0x20 ≤ c.toNat && c.toNat != 0x7F)

/-- The text after gaps, line breaks and comments, `inComment` within a comment. -/
def afterSpace (inComment : Bool) : List Char → List Char
  | [] => []
  | '\n' :: cs => afterSpace false cs
  | '\r' :: '\n' :: cs => afterSpace false cs
  | c :: cs =>
    if inComment then if isVisible c then afterSpace true cs else c :: cs
    else if isGap c then afterSpace false cs
    else if c = '#' then afterSpace true cs
    else c :: cs

namespace Scan

def peek? : Scan (Option Char) := do return (← get).head?

def skip : Scan Unit := modify List.tail

def skipWhile (p : Char → Bool) : Scan Unit := modify (List.dropWhile p)

def takeWhile (p : Char → Bool) : Scan (List Char) :=
  modifyGet fun cs => (cs.takeWhile p, cs.dropWhile p)

def accept (text : String) : Scan Bool :=
  modifyGet fun cs =>
    if text.toList.isPrefixOf cs then (true, cs.drop text.length) else (false, cs)

def expect (text : String) : Scan Unit := do guard (← accept text)

/-- What the reader finds; `none`, with nothing passed over, if it finds nothing. -/
def optionally {α : Type} (reader : Scan α) : Scan (Option α) := fun cs =>
  match reader cs with
  | some (a, rest) => some (some a, rest)
  | none => some (none, cs)

def gap : Scan Unit := skipWhile isGap

def space : Scan Unit := modify (afterSpace false)

def lineBreak : Scan Unit := do
  if !(← accept "\n") then expect "\r\n"

def endLine : Scan Unit := do
  gap
  if ← accept "#" then skipWhile isVisible
  if !(← get).isEmpty then lineBreak

end Scan
end ConditionQuery.Toml
