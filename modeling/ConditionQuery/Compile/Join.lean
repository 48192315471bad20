import ConditionQuery.Json.Shape

/-! Fragments of the join with a correlated sub-select. `outerJoin` has one fragment for each
correlated attribute; `subSelect` and `aggregateJoin` have one for each call of the most recent
value, and only those columns are projected by the sub-select. -/
namespace ConditionQuery

structure CorrelatedJoin where
  aliasName : String
  subSelect : List String
  outerJoin : List String
  aggregateJoin : List String
  deriving DecidableEq, Repr, Inhabited

namespace CorrelatedJoin
open Json (Decoded)

def empty (aliasName : String) : CorrelatedJoin := ⟨aliasName, [], [], []⟩

/-- The columns that the sub-select projects. -/
def subSelectText (join : CorrelatedJoin) : String := ", ".intercalate join.subSelect

def outerJoinText (join : CorrelatedJoin) : String := " AND ".intercalate join.outerJoin

/-- The condition that joins the table with the sub-select. -/
def aggregateJoinText (join : CorrelatedJoin) : String := " AND ".intercalate join.aggregateJoin

def hasSubSelect (join : CorrelatedJoin) : Bool := !join.subSelect.isEmpty

def title : Json.Title := ⟨"struct CorrelatedJoin", 4⟩

def decode : Json → Decoded CorrelatedJoin :=
  let strings := Json.decodeList Json.decodeString
  Json.decodeRecord .direct title fun parts =>
    CorrelatedJoin.mk <$> parts.required 0 "alias" Json.decodeString
      <*> parts.required 1 "sub_select" strings
      <*> parts.required 2 "outer_join" strings
      <*> parts.defaulted 3 "aggregate_join" [] strings

def encode (join : CorrelatedJoin) : Json :=
  .object [("alias", .string join.aliasName), ("sub_select", .strings join.subSelect),
    ("outer_join", .strings join.outerJoin), ("aggregate_join", .strings join.aggregateJoin)]

def shape : Json.Shape :=
  .record title [⟨"alias", .required, .string⟩, ⟨"sub_select", .required, .list .string⟩,
    ⟨"outer_join", .required, .list .string⟩, ⟨"aggregate_join", .optional, .list .string⟩]

end CorrelatedJoin
end ConditionQuery
