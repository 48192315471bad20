import ConditionQuery.Compile.Ordinal
import ConditionQuery.Compile.Placeholder
import ConditionQuery.Text.Bytes

/-! From named markers to positional ones. A text is cut into pieces, the bracketed names that the
table knows and the text between them; each such name becomes a question mark, numbered from one
in the order of the text. -/
namespace ConditionQuery

inductive Piece where
  | plain (cs : List Char)
  | slot (name : String) (holder : ValueHolder)

namespace Piece

def chars : Piece → List Char
  | .plain cs => cs
  | .slot _ _ => ['?']

def slot? : Piece → Option (String × ValueHolder)
  | .plain _ => none
  | .slot name holder => some (name, holder)

end Piece

/-- The text before the first opening bracket, and the text after each. -/
def splitOpenings : List Char → List Char × List (List Char)
  | [] => ([], [])
  | c :: cs =>
    let (head, fragments) := splitOpenings cs
    if c = '[' then ([], head :: fragments) else (c :: head, fragments)

/-- The text before the first closing bracket, and the text after it. -/
def splitClosing? : List Char → Option (List Char × List Char)
  | [] => none
  | c :: cs =>
    if c = ']' then some ([], cs)
    else (splitClosing? cs).map fun (name, rest) => (c :: name, rest)

def fragmentPieces (table : PlaceholderTable) (fragment : List Char) : List Piece :=
  match splitClosing? fragment with
  | none => [.plain ('[' :: fragment)]
  | some (name, rest) =>
    match table.get? (String.ofList name) with
    | none => [.plain ('[' :: fragment)]
    | some holder => [.slot (String.ofList name) holder, .plain rest]

def pieces (table : PlaceholderTable) (cs : List Char) : List Piece :=
  let (head, fragments) := splitOpenings cs
  .plain head :: fragments.flatMap (fragmentPieces table)

/-- The byte offsets of the slots, the first piece standing at the given offset. -/
def slotOffsets : Nat → List Piece → List Nat
  | _, [] => []
  | offset, .plain cs :: rest => slotOffsets (offset + Text.byteLength cs) rest
  | offset, .slot _ _ :: rest => offset :: slotOffsets (offset + 1) rest

/-- A text with positional markers, what fills them, and the byte offsets at which they stand. -/
structure Parametrized where
  text : String
  parameters : OrdinalMap ValueHolder
  patternOrdinals : OrdinalSet
  markerOffsets : List Nat

/-- Numbers the slots. Blanks around the text go, and the offsets move with those before it. -/
def Parametrized.ofPieces (ps : List Piece) : Parametrized :=
  let cs := ps.flatMap Piece.chars
  let leading := Text.byteLength (cs.takeWhile Text.isBlank)
  let slots := OrdinalMap.enumerate (ps.filterMap Piece.slot?)
  { text := String.ofList (Text.trimEnd (cs.dropWhile Text.isBlank))
    parameters := slots.map (·.2)
    patternOrdinals := slots.ordinalsWhere fun slot => isPatternName slot.1
    markerOffsets := (slotOffsets 0 ps).map (· - leading) }

def parametrize (text : String) (table : PlaceholderTable) : Parametrized :=
  .ofPieces (pieces table text.toList)

end ConditionQuery
