import ConditionQuery.Compile.Binding
import ConditionQuery.Condition.ExprJson

/-! The documents that a hub is sent. -/
namespace ConditionQuery
open Json (Decoded)

/-- A condition to compile. What is not said is left to the configuration. -/
structure CompileRequest where
  table : Option String
  afterSelect : Option Bool
  condition : Expr

namespace CompileRequest

def title : Json.Title := ⟨"struct CompileRequest", 3⟩

def decode : Json → Decoded CompileRequest :=
  Json.decodeRecord .direct title fun parts =>
    CompileRequest.mk
      <$> parts.defaulted 0 "table" none (Json.decodeOption Json.decodeString)
      <*> parts.defaulted 1 "after_select" none (Json.decodeOption Json.decodeBool)
      <*> parts.required 2 "condition" (Expr.decode .direct)

def shape : Json.Shape :=
  .record title [⟨"table", .omittable, .option .string⟩,
    ⟨"after_select", .omittable, .option .bool⟩, ⟨"condition", .required, Expr.shape⟩]

end CompileRequest

structure BindRequest where
  event : Event

namespace BindRequest

def title : Json.Title := ⟨"struct BindRequest", 1⟩

def decode : Json → Decoded BindRequest :=
  Json.decodeRecord .direct title fun parts =>
    BindRequest.mk <$> parts.defaulted 0 "event" [] Event.decode

def shape : Json.Shape := .record title [⟨"event", .optional, Event.shape⟩]

end BindRequest
end ConditionQuery
