import ConditionQuery.Compile.Join
import ConditionQuery.Compile.Parametrized

/-! Compiled conditions: the text with positional markers, what fills them, and the join. -/
namespace ConditionQuery

structure CompiledCondition where
  table : String
  text : String
  parameters : OrdinalMap ValueHolder
  patternOrdinals : OrdinalSet
  markerOffsets : List Nat
  join : CorrelatedJoin
  /-- The condition asks for membership, so its text makes sense in a count only. -/
  membership : Bool

namespace CompiledCondition
open Json (Decoded)

def parameterCount (c : CompiledCondition) : Nat := c.parameters.size

/-- Whether the slot holds the pattern of a text search. -/
def isPattern (c : CompiledCondition) (ordinal : Nat) : Bool := c.patternOrdinals.contains ordinal

/-- The text with the markers at the offsets replaced by names. `start` is the offset of the text,
`index` the number of the first offset. An offset before the text, past it, inside a character or
at anything but a question mark is passed over. -/
def nameMarkers (name : Nat → String) :
    (index start : Nat) → List Nat → List Char → List Char
  | _, _, [], cs => cs
  | index, start, offset :: offsets, cs =>
    if offset < start then nameMarkers name (index + 1) start offsets cs
    else
      match Text.cutAt? (offset - start) cs with
      | some (front, '?' :: back) =>
        front ++ (name index).toList ++ nameMarkers name (index + 1) (offset + 1) offsets back
      | _ => nameMarkers name (index + 1) start offsets cs

/-- The text with the marker of each slot replaced by the slot's name. -/
def namedText (c : CompiledCondition) (name : Nat → String) : String :=
  String.ofList (nameMarkers name 1 0 c.markerOffsets c.text.toList)

def title : Json.Title := ⟨"struct CompiledCondition", 7⟩

def decodeParameters : Json → Decoded (OrdinalMap ValueHolder)
  | .object ms => do
    let entries ← ms.mapM fun (key, v) => do
      return (← Json.Shape.decodeNumericKey key, ← ValueHolder.decode v)
    return .ofList entries
  | v => Json.wrongType v "a map"

def decodeOrdinals (v : Json) : Decoded OrdinalSet :=
  OrdinalSet.ofList <$> Json.decodeList Json.decodeSize v

def decode : Json → Decoded CompiledCondition :=
  Json.decodeRecord .direct title fun parts =>
    CompiledCondition.mk <$> parts.required 0 "table" Json.decodeString
      <*> parts.required 1 "text" Json.decodeString
      <*> parts.required 2 "parameters" decodeParameters
      <*> parts.defaulted 3 "pattern_ordinals" .empty decodeOrdinals
      <*> parts.defaulted 4 "marker_offsets" [] (Json.decodeList Json.decodeSize)
      <*> parts.required 5 "join" CorrelatedJoin.decode
      <*> parts.defaulted 6 "membership" false Json.decodeBool

def encodeNumbers (ns : List Nat) : Json := .array (ns.map fun (n : Nat) => .int (n : Int))

def encodeParameters (parameters : OrdinalMap ValueHolder) : Json :=
  .object (parameters.entries.map fun (n, holder) => (toString n, holder.encode))

/-- Pattern ordinals are left out when there are none. -/
def encode (c : CompiledCondition) : Json :=
  .object ([("table", .string c.table), ("text", .string c.text),
      ("parameters", encodeParameters c.parameters)] ++
    (if c.patternOrdinals.isEmpty then []
      else [("pattern_ordinals", encodeNumbers c.patternOrdinals.elems)]) ++
    [("marker_offsets", encodeNumbers c.markerOffsets), ("join", c.join.encode),
      ("membership", .bool c.membership)])

def shape : Json.Shape :=
  .record title [⟨"table", .required, .string⟩, ⟨"text", .required, .string⟩,
    ⟨"parameters", .required, .numbered ValueHolder.shape⟩,
    ⟨"pattern_ordinals", .optional, .list .size⟩, ⟨"marker_offsets", .optional, .list .size⟩,
    ⟨"join", .required, CorrelatedJoin.shape⟩, ⟨"membership", .optional, .bool⟩]

end CompiledCondition
end ConditionQuery
