import ConditionQuery.Condition.AttributeType
import ConditionQuery.Condition.Literal
import ConditionQuery.Json.Shape

/-! What fills a slot of a compiled condition: a constant, or an attribute of the event. -/
namespace ConditionQuery

inductive ValueHolder where
  | constant (value : Literal) (type : AttributeType)
  | event (id : String) (type : AttributeType)
  deriving DecidableEq, Repr, Inhabited

namespace ValueHolder
open Json (Decoded Parts Stage Title)

def type : ValueHolder → AttributeType
  | .constant _ type => type
  | .event _ type => type

def display : ValueHolder → String
  | .constant value type => "Constant(" ++ value.display ++ ", " ++ type.label ++ ")"
  | .event id type => "Attribute(" ++ id ++ ", " ++ type.label ++ ")"

inductive Kind where
  | constant
  | event
  deriving DecidableEq, Repr

namespace Kind

def name : Kind → String
  | .constant => "constant"
  | .event => "attribute"

def naming : Json.Naming Kind := ⟨[.constant, .event], name⟩

def title : Kind → Title
  | .constant => ⟨"struct Constant", 2⟩
  | .event => ⟨"struct StreamAttribute", 2⟩

end Kind

def kind : ValueHolder → Kind
  | .constant _ _ => .constant
  | .event _ _ => .event

def expected : String := "internally tagged enum ValueHolder"

def decode (v : Json) : Decoded ValueHolder := do
  let (kind, parts) ← Kind.naming.splitTag .direct "holder" expected v
  let type := parts.required 1 "type" (AttributeType.decode .setAside)
  let fields := match kind with
    | .constant => ValueHolder.constant <$> parts.required 0 "value" Literal.decode <*> type
    | .event => ValueHolder.event <$> parts.required 0 "id" Json.decodeString <*> type
  fields.record .setAside kind.title parts

def encode : ValueHolder → Json
  | .constant value type =>
    .object [("holder", .string "constant"), ("value", value.encode), ("type", type.encode)]
  | .event id type =>
    .object [("holder", .string "attribute"), ("id", .string id), ("type", type.encode)]

def shape : Json.Shape :=
  Json.Shape.tagged "holder" expected Kind.naming.names fun v => do let _ ← decode v

end ValueHolder
end ConditionQuery
