import ConditionQuery.Condition.Expr
import ConditionQuery.Json.Shape

/-! Predicate trees in JSON. Every node is tagged with its kind; it is an object, or a list of the
kind and the fields. -/
namespace ConditionQuery.Expr
open Json (Decoded Parts Gathered Stage Title)

inductive Kind where
  | and
  | or
  | not
  | compare
  | isNull
  | isIn
  | math
  | function
  | constant
  | streamVariable
  | storeVariable
  deriving DecidableEq, Repr

namespace Kind

def name : Kind → String
  | .and => "and"
  | .or => "or"
  | .not => "not"
  | .compare => "compare"
  | .isNull => "is_null"
  | .isIn => "in"
  | .math => "math"
  | .function => "function"
  | .constant => "constant"
  | .streamVariable => "stream_variable"
  | .storeVariable => "store_variable"

def naming : Json.Naming Kind :=
  ⟨[.and, .or, .not, .compare, .isNull, .isIn, .math, .function, .constant, .streamVariable,
    .storeVariable], name⟩

/-- The title of a node of the kind, and the number of its fields. -/
def title : Kind → Title
  | .and => ⟨"struct variant Expr::And", 2⟩
  | .or => ⟨"struct variant Expr::Or", 2⟩
  | .not => ⟨"struct variant Expr::Not", 1⟩
  | .compare => ⟨"struct variant Expr::Compare", 3⟩
  | .isNull => ⟨"struct variant Expr::IsNull", 1⟩
  | .isIn => ⟨"struct variant Expr::In", 2⟩
  | .math => ⟨"struct variant Expr::Math", 3⟩
  | .function => ⟨"struct variant Expr::Function", 3⟩
  | .constant => ⟨"struct variant Expr::Constant", 2⟩
  | .streamVariable => ⟨"struct variant Expr::StreamVariable", 3⟩
  | .storeVariable => ⟨"struct variant Expr::StoreVariable", 3⟩

end Kind

def expected : String := "internally tagged enum Expr"

/-- A value with what it decodes to as a tree and as a list of trees. -/
structure Candidate where
  value : Json
  tree : Unit → Decoded Expr
  trees : Unit → Decoded (List Expr)

def ofFields (parts : Parts Candidate) (kind : Kind) : Gathered Expr :=
  let tree (index : Nat) (name : String) := parts.required index name fun c => c.tree ()
  let text (index : Nat) (name : String) :=
    parts.required index name fun c => Json.decodeString c.value
  let optionalText (index : Nat) (name : String) :=
    parts.defaulted index name none fun c => Json.decodeOption Json.decodeString c.value
  let type (index : Nat) :=
    parts.required index "type" fun c => AttributeType.decode .setAside c.value
  match kind with
  | .and => Expr.and <$> tree 0 "left" <*> tree 1 "right"
  | .or => Expr.or <$> tree 0 "left" <*> tree 1 "right"
  | .not => Expr.not <$> tree 0 "operand"
  | .compare =>
    Expr.compare <$> (parts.required 0 "op" fun c => CompareOp.decode .setAside c.value)
      <*> tree 1 "left" <*> tree 2 "right"
  | .isNull => Expr.isNull <$> tree 0 "operand"
  | .isIn => Expr.isIn <$> text 0 "store_id" <*> tree 1 "operand"
  | .math =>
    Expr.math <$> (parts.required 0 "op" fun c => MathOp.decode .setAside c.value)
      <*> tree 1 "left" <*> tree 2 "right"
  | .function =>
    Expr.function <$> optionalText 0 "namespace" <*> text 1 "name"
      <*> parts.defaulted 2 "args" [] fun c => c.trees ()
  | .constant =>
    Expr.constant <$> (parts.required 0 "value" fun c => Literal.decode c.value) <*> type 1
  | .streamVariable =>
    Expr.streamVariable <$> text 0 "id" <*> optionalText 1 "stream_id" <*> type 2
  | .storeVariable =>
    Expr.storeVariable <$> text 0 "store_id" <*> text 1 "attribute" <*> type 2

def ofParts (kind : Kind) (parts : Parts Candidate) : Decoded Expr :=
  (ofFields parts kind).record .setAside kind.title parts

mutual

def decode (stage : Stage) : Json → Decoded Expr
  | .object ms => do
    let (kind, _) ← Kind.naming.splitTag stage "kind" expected (.object ms)
    ofParts kind (.members (candidateMembers ms))
  | .array (tag :: items) => do
    let kind ← Kind.naming.decodeTag stage tag
    ofParts kind (.items (candidateItems items))
  | v => do
    let (kind, _) ← Kind.naming.splitTag stage "kind" expected v
    ofParts kind (.items [])

def decodeAll : Json → Decoded (List Expr)
  | .array items => decodeItems items
  | v => Json.wrongType v "a sequence"

def decodeItems : List Json → Decoded (List Expr)
  | [] => .ok []
  | item :: rest => do return (← decode .setAside item) :: (← decodeItems rest)

def candidateMembers : Json.Members → List (String × Candidate)
  | [] => []
  | (key, v) :: rest =>
    (key, ⟨v, fun _ => decode .setAside v, fun _ => decodeAll v⟩) :: candidateMembers rest

def candidateItems : List Json → List Candidate
  | [] => []
  | v :: rest => ⟨v, fun _ => decode .setAside v, fun _ => decodeAll v⟩ :: candidateItems rest

end

def optionalMember (key : String) : Option String → Json.Members
  | none => []
  | some s => [(key, .string s)]

def node (kind : Kind) (members : Json.Members) : Json :=
  .object (("kind", .string kind.name) :: members)

mutual

def encode : Expr → Json
  | .and left right => node .and [("left", encode left), ("right", encode right)]
  | .or left right => node .or [("left", encode left), ("right", encode right)]
  | .not operand => node .not [("operand", encode operand)]
  | .compare op left right =>
    node .compare [("op", op.encode), ("left", encode left), ("right", encode right)]
  | .isNull operand => node .isNull [("operand", encode operand)]
  | .isIn storeId operand =>
    node .isIn [("store_id", .string storeId), ("operand", encode operand)]
  | .math op left right =>
    node .math [("op", op.encode), ("left", encode left), ("right", encode right)]
  | .function space name args =>
    node .function (optionalMember "namespace" space ++
      [("name", .string name), ("args", .array (encodeArgs args))])
  | .constant value type => node .constant [("value", value.encode), ("type", type.encode)]
  | .streamVariable id streamId type =>
    node .streamVariable (("id", .string id) :: optionalMember "stream_id" streamId ++
      [("type", type.encode)])
  | .storeVariable storeId attr type =>
    node .storeVariable
      [("store_id", .string storeId), ("attribute", .string attr), ("type", type.encode)]

def encodeArgs : List Expr → List Json
  | [] => []
  | arg :: rest => encode arg :: encodeArgs rest

end

def shape : Json.Shape :=
  Json.Shape.tagged "kind" expected Kind.naming.names fun v => do let _ ← decode .direct v

/-- The tree that a whole text holds. -/
def parse (text : String) : Decoded Expr := do decode .direct (← shape.read text)

end ConditionQuery.Expr
