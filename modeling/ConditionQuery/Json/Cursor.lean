import ConditionQuery.Json.Failure
import ConditionQuery.Text.Bytes

/-! Reading a text byte by byte. Only the ends of strings show whether the bytes are UTF-8. A reader
keeps its place when it fails, so that a failure found later can still be placed. -/
namespace ConditionQuery.Json

/-- The bytes not yet read, each as the character with its number, and the place reached. -/
structure Cursor where
  rest : List Char
  position : Position

def Cursor.ofBytes (bytes : ByteArray) : Cursor := ⟨Text.octets bytes, ⟨1, 0⟩⟩

/-- The place after one more byte. -/
def Cursor.peekPosition (c : Cursor) : Position :=
  match c.rest with
  | [] => c.position
  | '\n' :: _ => ⟨c.position.line + 1, 0⟩
  | _ :: _ => { c.position with column := c.position.column + 1 }

def Position.after (p : Position) (c : Char) : Position :=
  if c = '\n' then ⟨p.line + 1, 0⟩ else { p with column := p.column + 1 }

abbrev Reading := EStateM Failure Cursor

namespace Reading

def peek? : Reading (Option Char) := do return (← get).rest.head?

def rest : Reading (List Char) := do return (← get).rest

def skip : Reading Unit :=
  modify fun c =>
    match c.rest with
    | [] => c
    | x :: rest => ⟨rest, c.position.after x⟩

def skipWhile (p : Char → Bool) : Reading Unit :=
  modify fun c =>
    ⟨c.rest.dropWhile p, (c.rest.takeWhile p).foldl Position.after c.position⟩

def fail {α : Type} (cause : Malformed) : Reading α := do
  throw ⟨.malformed cause, some (← get).position, []⟩

/-- Fails at the byte to come. -/
def failNext {α : Type} (cause : Malformed) : Reading α := do
  throw ⟨.malformed cause, some (← get).peekPosition, []⟩

/-- Fails at the place reached with a document that is not of the wanted type. -/
def mismatch {α : Type} (cause : Mismatch) : Reading α := do
  throw ⟨.mismatch cause, some (← get).position, []⟩

/-- Fails with a mismatch whose place the enclosing reader determines. -/
def unplaced {α : Type} (cause : Mismatch) : Reading α :=
  throw (Failure.ofMismatch cause)

def ofDecoded {α : Type} (result : Except Failure α) : Reading α :=
  match result with
  | .ok a => pure a
  | .error failure => throw failure

/-- A failure inside the reader lies one step further down. -/
def under {α : Type} (step : Step) (reader : Reading α) : Reading α :=
  tryCatch reader fun failure => throw (failure.under step)

def isGap (c : Char) : Bool := c == ' ' || c == '\n' || c == '\t' || c == '\r'

def token? : Reading (Option Char) := do
  skipWhile isGap
  peek?

/-- A failure without a place is placed where `settle` leads from where the reader stopped. -/
def settledBy {α : Type} (settle : Reading Unit) (reader : Reading α) : Reading α :=
  tryCatch reader fun failure => do
    settle
    throw (failure.placedAt (← get).position)

/-- Reads a text; what follows the value is left unread. -/
def runPart {α : Type} (reader : Reading α) (bytes : ByteArray) : Except Failure α :=
  match reader (Cursor.ofBytes bytes) with
  | .ok a _ => .ok a
  | .error failure _ => .error failure

def finish : Reading Unit := do
  if (← token?).isSome then failNext .trailingCharacters

def run {α : Type} (reader : Reading α) (text : String) : Except Failure α :=
  runPart (do let a ← reader; finish; return a) text.toUTF8

end Reading
end ConditionQuery.Json
