/-! Media types: a type, a subtype that may end in a suffix, and parameters. -/
namespace ConditionQuery.MediaType

def isNameChar (c : Char) : Bool :=
  c.isAlphanum || "!#$%&'+-.^_`|~".toList.contains c

def isQuotable (c : Char) : Bool := 0x20 ≤ c.toNat && c.toNat < 0x7F

/-- A place among the parameters. -/
inductive Spot where
  | start
  | name
  | valueStart
  | value
  | quotedStart
  | quoted
  | afterQuoted
  | next
  deriving DecidableEq, Repr

def Spot.mayEnd : Spot → Bool
  | .valueStart | .value | .afterQuoted | .next => true
  | .start | .name | .quotedStart | .quoted => false

def Spot.step? (spot : Spot) (c : Char) : Option Spot :=
  match spot with
  | .start | .next => if c = ' ' then some .start else if isNameChar c then some .name else none
  | .name => if c = '=' then some .valueStart else if isNameChar c then some .name else none
  | .valueStart =>
    if c = '"' then some .quotedStart else if isNameChar c then some .value else none
  | .value => if c = ';' then some .next else if isNameChar c then some .value else none
  | .quotedStart => if isQuotable c then some .quoted else none
  | .quoted => if c = '"' then some .afterQuoted else if isQuotable c then some .quoted else none
  | .afterQuoted =>
    if c = ';' then some .next else if c = ' ' then some .afterQuoted else none

def areParameters (spot : Spot) : List Char → Bool
  | [] => spot.mayEnd
  | c :: cs =>
    match spot.step? c with
    | some spot => areParameters spot cs
    | none => false

/-- The text before the last plus sign but one at the start, and the text after it. -/
def splitSuffix (subtype : List Char) : List Char × Option (List Char) :=
  let after := (subtype.reverse.takeWhile (· != '+')).reverse
  let before := (subtype.reverse.dropWhile (· != '+')).reverse.dropLast
  if before.isEmpty then (subtype, none) else (before, some after)

/-- Whether a media type is JSON, or a format based on it. -/
def isJson (text : String) : Bool :=
  let cs := text.toList.map Char.toLower
  let type := cs.takeWhile (· != '/')
  let rest := (cs.dropWhile (· != '/')).drop 1
  let subtype := rest.takeWhile (· != ';')
  let (name, suffix) := splitSuffix subtype
  let json := "json".toList
  type == "application".toList && subtype.all isNameChar && (name == json || suffix == some json) &&
    match rest.dropWhile (· != ';') with
    | [] => true
    | _ :: parameters => areParameters .start parameters

end ConditionQuery.MediaType
