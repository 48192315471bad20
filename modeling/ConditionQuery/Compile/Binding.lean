import ConditionQuery.Compile.Statement

/-! Filling the slots of a compiled condition for one event. -/
namespace ConditionQuery

/-- The attributes of an event, sorted by their ids. -/
abbrev Event := Json.Members

namespace Event
open Json (Decoded)

def decode : Json → Decoded Event
  | .object ms => .ok (Json.Members.sort (Json.canonicalMembers ms))
  | v => Json.wrongType v "a map"

def shape : Json.Shape := .table

end Event

inductive BindError where
  | missingAttribute (ordinal : Nat) (id : String)
  /-- A constant that is not finite. -/
  | unrepresentable (ordinal : Nat)
  | patternNotString (ordinal : Nat)
  deriving DecidableEq, Repr

def BindError.message : BindError → String
  | .missingAttribute ordinal id =>
    "parameter " ++ toString ordinal ++ ": event has no attribute '" ++ id ++ "'"
  | .unrepresentable ordinal =>
    "parameter " ++ toString ordinal ++ ": value has no JSON representation"
  | .patternNotString ordinal =>
    "parameter " ++ toString ordinal ++ ": pattern content must be a string"

structure BoundParameter where
  name : String
  value : Json

/-- A statement ready for the store. -/
structure QuerySpec where
  query : String
  parameters : List BoundParameter

def parameterName (ordinal : Nat) : String := "@p" ++ ordinal.repr

def ValueHolder.resolve (event : Event) (ordinal : Nat) : ValueHolder → Except BindError Json
  | .constant value _ =>
    match value.value? with
    | some v => .ok v
    | none => .error (.unrepresentable ordinal)
  | .event id _ =>
    match event.get? id with
    | some v => .ok v
    | none => .error (.missingAttribute ordinal id)

namespace CompiledCondition

/-- Fills one slot; the content of a pattern is a string. -/
def bindSlot (c : CompiledCondition) (event : Event) (ordinal : Nat) (holder : ValueHolder) :
    Except BindError BoundParameter := do
  let value ← holder.resolve event ordinal
  if c.isPattern ordinal && !value.isString then throw (.patternNotString ordinal)
  return ⟨parameterName ordinal, value⟩

/-- Fills the slots in the order of their ordinals; the first that cannot be filled counts. -/
def bind (c : CompiledCondition) (event : Event) : Except BindError (List BoundParameter) :=
  c.parameters.entries.mapM fun (ordinal, holder) => c.bindSlot event ordinal holder

end CompiledCondition

namespace QuerySpec
open Json (Decoded)

def build (c : CompiledCondition) (event : Event) : Except BindError QuerySpec := do
  let parameters ← c.bind event
  return ⟨c.statement c.projection (c.namedText parameterName), parameters⟩

def parameterTitle : Json.Title := ⟨"struct BoundParameter", 2⟩

def title : Json.Title := ⟨"struct QuerySpec", 2⟩

def decodeParameter : Json → Decoded BoundParameter :=
  Json.decodeRecord .direct parameterTitle fun parts =>
    BoundParameter.mk <$> parts.required 0 "name" Json.decodeString
      <*> parts.required 1 "value" fun v => .ok v.canonical

def decode : Json → Decoded QuerySpec :=
  Json.decodeRecord .direct title fun parts =>
    QuerySpec.mk <$> parts.required 0 "query" Json.decodeString
      <*> parts.required 1 "parameters" (Json.decodeList decodeParameter)

def encode (spec : QuerySpec) : Json :=
  .object [("query", .string spec.query),
    ("parameters", .array (spec.parameters.map fun p =>
      .object [("name", .string p.name), ("value", p.value)]))]

def shape : Json.Shape :=
  .record title [⟨"query", .required, .string⟩,
    ⟨"parameters", .required,
      .list (.record parameterTitle [⟨"name", .required, .string⟩, ⟨"value", .required, .any⟩])⟩]

end QuerySpec
end ConditionQuery
