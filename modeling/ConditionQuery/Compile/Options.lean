import ConditionQuery.Json.Shape

/-! What a condition is compiled for. -/
namespace ConditionQuery

structure CompileOptions where
  table : String
  /-- The condition follows a projection: attributes stand without their table and are not
  joined. -/
  afterSelect : Bool
  subqueryAlias : String
  deriving DecidableEq, Repr, Inhabited

namespace CompileOptions
open Json (Decoded)

def defaultAlias : String := "S"

def forTable (table : String) : CompileOptions := ⟨table, false, defaultAlias⟩

def title : Json.Title := ⟨"struct CompileOptions", 3⟩

def decode : Json → Decoded CompileOptions :=
  Json.decodeRecord .direct title fun parts =>
    CompileOptions.mk <$> parts.required 0 "table" Json.decodeString
      <*> parts.defaulted 1 "after_select" false Json.decodeBool
      <*> parts.defaulted 2 "subquery_alias" defaultAlias Json.decodeString

def encode (o : CompileOptions) : Json :=
  .object [("table", .string o.table), ("after_select", .bool o.afterSelect),
    ("subquery_alias", .string o.subqueryAlias)]

def shape : Json.Shape :=
  .record title [⟨"table", .required, .string⟩, ⟨"after_select", .optional, .bool⟩,
    ⟨"subquery_alias", .optional, .string⟩]

end CompileOptions
end ConditionQuery
