import ConditionQuery.Condition.ExprJson
import ConditionQuery.Proofs.Finiteness
import ConditionQuery.Proofs.Holders
import ConditionQuery.Proofs.Records
import ConditionQuery.Proofs.StoreFrame

/-! Trees in documents. A finite tree is read back from what it is written as, with the members of
objects in any order. What a document holds is read as a finite tree, so whichever of the accepted
forms it has, it is written in one form from then on. -/
namespace ConditionQuery

open Json (Stage Parts Gathered Decoded Arranges Members)

theorem AttributeType.unambiguous : AttributeType.naming.Unambiguous := by
  intro type
  cases type <;> rfl

theorem CompareOp.unambiguous : CompareOp.naming.Unambiguous := by
  intro op
  cases op <;> rfl

theorem MathOp.unambiguous : MathOp.naming.Unambiguous := by
  intro op
  cases op <;> rfl

theorem Expr.Kind.unambiguous : Expr.Kind.naming.Unambiguous := by
  intro kind
  cases kind <;> rfl

/-- A literal has no members to arrange. -/
theorem Json.Arranges.literal {f : Json → Json} (order : Arranges f) (l : Literal) :
    f l.encode = l.encode := by
  cases l with
  | null => exact order.null
  | bool b => exact order.bool b
  | long n => exact order.int n.toInt
  | string s => exact order.string s
  | double d =>
    rw [Literal.encode, Literal.value?]
    split
    · exact order.double d
    · exact order.null

def ValueHolder.isFinite : ValueHolder → Bool
  | .constant value _ => value.isFinite
  | .event _ _ => true

namespace Expr

/-- The constants of the tree can be written. -/
def IsFinite (e : Expr) : Prop := ∀ holder ∈ e.holders, holder.isFinite = true

instance (e : Expr) : Decidable e.IsFinite :=
  inferInstanceAs (Decidable (∀ holder ∈ e.holders, holder.isFinite = true))

/-- A value as a candidate for a field. -/
def candidate (v : Json) : Candidate := ⟨v, fun _ => decode .setAside v, fun _ => decodeAll v⟩

theorem candidateMembers_eq (ms : Members) :
    candidateMembers ms = ms.map fun m => (m.1, candidate m.2) := by
  induction ms with
  | nil => rfl
  | cons m rest ih => simp [candidateMembers, candidate, ih]

section Written

variable {f : Json → Json}

/-- An arranged node is read from its arranged members. -/
theorem decode_node (order : Arranges f) {stage : Stage} {kind : Kind} {members : Members}
    {e : Expr} (distinct : ("kind" :: members.map Prod.fst).Nodup)
    (fields : ∀ parts : Parts Candidate,
      parts.Are ((("kind", .string kind.name) :: members).map
        fun m => (m.1, candidate (f m.2))) →
      ofFields parts kind = .ok e) : decode stage (f (node kind members)) = .ok e := by
  obtain ⟨ms, arranged, are⟩ := order.members (("kind", .string kind.name) :: members) distinct
  have tag : Kind.naming.splitTag stage "kind" expected (.object ms) =
      .ok (kind, .members ms) := by
    apply Kind.unambiguous.splitTag are
    simp [order.string, Kind.naming]
  have candidates := are.map candidate
  rw [List.map_map, ← candidateMembers_eq] at candidates
  rw [node, arranged, decode, tag]
  change ofParts kind (.members (candidateMembers ms)) = .ok e
  rw [ofParts, fields _ candidates]
  exact candidates.record ..

variable {parts : Parts Candidate} {ms : Members} {name : String} {v : Json}

/-- The field of a member that is arranged to a value. -/
theorem required_of_mem {α : Type} {read : Candidate → Decoded α} {a : α}
    (are : parts.Are (ms.map fun m => (m.1, candidate (f m.2)))) (member : (name, v) ∈ ms)
    (decoded : read (candidate (f v)) = .ok a) (index : Nat) :
    parts.required index name read = .ok a :=
  are.required (List.mem_map.2 ⟨_, member, rfl⟩) decoded

theorem text_of_mem (order : Arranges f)
    (are : parts.Are (ms.map fun m => (m.1, candidate (f m.2)))) (name s : String)
    (member : (name, .string s) ∈ ms) (index : Nat) :
    parts.required index name (fun c => Json.decodeString c.value) = .ok s :=
  required_of_mem are member (order.decodeString s) index

theorem name_of_mem {α : Type} {naming : Json.Naming α} (order : Arranges f)
    (unambiguous : naming.Unambiguous)
    (are : parts.Are (ms.map fun m => (m.1, candidate (f m.2)))) (name : String) (a : α)
    (member : (name, .string (naming.name a)) ∈ ms) (index : Nat) :
    parts.required index name (fun c => naming.decode .setAside c.value) = .ok a :=
  required_of_mem are member (order.decodeName unambiguous .setAside a) index

theorem type_of_mem (order : Arranges f)
    (are : parts.Are (ms.map fun m => (m.1, candidate (f m.2)))) (type : AttributeType)
    (member : ("type", type.encode) ∈ ms) (index : Nat) :
    parts.required index "type" (fun c => AttributeType.decode .setAside c.value) = .ok type :=
  name_of_mem order AttributeType.unambiguous are "type" type member index

theorem operands_of_mem {left right : Expr}
    (are : parts.Are (ms.map fun m => (m.1, candidate (f m.2)))) (i j : Nat)
    (first : ("left", left.encode) ∈ ms) (second : ("right", right.encode) ∈ ms)
    (readsLeft : decode .setAside (f left.encode) = .ok left)
    (readsRight : decode .setAside (f right.encode) = .ok right) :
    parts.required i "left" (fun c => c.tree ()) = .ok left ∧
      parts.required j "right" (fun c => c.tree ()) = .ok right :=
  ⟨required_of_mem are first readsLeft i, required_of_mem are second readsRight j⟩

theorem optionalText_of_mem (order : Arranges f) (before : Members) {text : Option String}
    {rest : Members}
    (are : parts.Are ((before ++ optionalMember name text ++ rest).map
      fun m => (m.1, candidate (f m.2))))
    (other : name ∉ (before ++ rest).map Prod.fst) (index : Nat) :
    parts.defaulted index name none
      (fun c => Json.decodeOption Json.decodeString c.value) = .ok text := by
  cases text with
  | none =>
    apply are.absent
    simpa [optionalMember, Function.comp_def] using other
  | some s =>
    apply are.defaulted (a := candidate (f (.string s)))
    · simp [optionalMember]
    · rw [candidate, order.string]
      rfl

-- The induction is that of the printer: over the tree, with the arguments of a call beside it.
mutual

/-- A finite tree is read back from what it is written as, arranged in any way. -/
theorem decode_encode (order : Arranges f) (stage : Stage) (e : Expr) (finite : e.IsFinite) :
    decode stage (f e.encode) = .ok e := by
  cases e with
  | and left right | or left right =>
    obtain ⟨finiteLeft, finiteRight⟩ := List.forall_mem_append.1 finite
    apply decode_node order (by simp)
    intro parts are
    obtain ⟨readLeft, readRight⟩ := operands_of_mem are 0 1 (by simp) (by simp)
      (decode_encode order .setAside left finiteLeft)
      (decode_encode order .setAside right finiteRight)
    simp only [ofFields, readLeft, readRight]
    rfl
  | not operand | isNull operand =>
    apply decode_node order (by simp)
    intro parts are
    have readOperand : parts.required 0 "operand" (fun c => c.tree ()) = .ok operand :=
      required_of_mem are (by simp) (decode_encode order .setAside operand finite) 0
    simp only [ofFields, readOperand]
    rfl
  | compare op left right =>
    obtain ⟨finiteLeft, finiteRight⟩ := List.forall_mem_append.1 finite
    apply decode_node order (by simp)
    intro parts are
    have readOp := name_of_mem order CompareOp.unambiguous are "op" op
      (by simp [CompareOp.encode, CompareOp.naming]) 0
    obtain ⟨readLeft, readRight⟩ := operands_of_mem are 1 2 (by simp) (by simp)
      (decode_encode order .setAside left finiteLeft)
      (decode_encode order .setAside right finiteRight)
    simp only [ofFields, CompareOp.decode, readOp, readLeft, readRight]
    rfl
  | math op left right =>
    obtain ⟨finiteLeft, finiteRight⟩ := List.forall_mem_append.1 finite
    apply decode_node order (by simp)
    intro parts are
    have readOp := name_of_mem order MathOp.unambiguous are "op" op
      (by simp [MathOp.encode, MathOp.naming]) 0
    obtain ⟨readLeft, readRight⟩ := operands_of_mem are 1 2 (by simp) (by simp)
      (decode_encode order .setAside left finiteLeft)
      (decode_encode order .setAside right finiteRight)
    simp only [ofFields, MathOp.decode, readOp, readLeft, readRight]
    rfl
  | isIn storeId operand =>
    apply decode_node order (by simp)
    intro parts are
    have readStore := text_of_mem order are "store_id" storeId (by simp) 0
    have readOperand : parts.required 1 "operand" (fun c => c.tree ()) = .ok operand :=
      required_of_mem are (by simp) (decode_encode order .setAside operand finite) 1
    simp only [ofFields, readStore, readOperand]
    rfl
  | function space name args =>
    apply decode_node order (by cases space <;> simp [optionalMember])
    intro parts are
    have readSpace := optionalText_of_mem order
      [("kind", .string Kind.function.name)] are (by simp) 0
    have readName := text_of_mem order are "name" name (by simp) 1
    have readArgs : parts.defaulted 2 "args" [] (fun c => c.trees ()) = .ok args := by
      apply are.defaulted (a := candidate (f (.array (encodeArgs args)))) (by simp)
      rw [candidate, order.array]
      exact decodeItems_encodeArgs order args finite
    simp only [ofFields, readSpace, readName, readArgs]
    rfl
  | constant value type =>
    apply decode_node order (by simp)
    intro parts are
    have readValue :
        parts.required 0 "value" (fun c => Literal.decode c.value) = .ok value := by
      apply required_of_mem are (v := value.encode) (by simp)
      rw [candidate, order.literal]
      exact Literal.decode_encode (finite _ List.mem_cons_self)
    have readType := type_of_mem order are type (by simp) 1
    simp only [ofFields, readValue, readType]
    rfl
  | streamVariable id streamId type =>
    apply decode_node order (by cases streamId <;> simp [optionalMember])
    intro parts are
    have readId := text_of_mem order are "id" id (by simp) 0
    have readStream := optionalText_of_mem order
      [("kind", .string Kind.streamVariable.name), ("id", .string id)] are (by simp) 1
    have readType := type_of_mem order are type (by simp) 2
    simp only [ofFields, readId, readStream, readType]
    rfl
  | storeVariable storeId attr type =>
    apply decode_node order (by simp)
    intro parts are
    have readStore := text_of_mem order are "store_id" storeId (by simp) 0
    have readAttribute := text_of_mem order are "attribute" attr (by simp) 1
    have readType := type_of_mem order are type (by simp) 2
    simp only [ofFields, readStore, readAttribute, readType]
    rfl

theorem decodeItems_encodeArgs (order : Arranges f) (args : List Expr)
    (finite : ∀ holder ∈ holdersOfArgs args, holder.isFinite = true) :
    decodeItems ((encodeArgs args).map f) = .ok args := by
  cases args with
  | nil => rfl
  | cons arg rest =>
    obtain ⟨finiteArg, finiteRest⟩ := List.forall_mem_append.1 finite
    rw [encodeArgs, List.map_cons, decodeItems, decode_encode order .setAside arg finiteArg,
      decodeItems_encodeArgs order rest finiteRest]
    rfl

end

end Written

section Read

/-- What is read from the candidate is finite. -/
structure Candidate.Sound (c : Candidate) : Prop where
  value : c.value.isProper = true
  tree : ∀ {e}, c.tree () = .ok e → e.IsFinite
  trees : ∀ {args}, c.trees () = .ok args → ∀ holder ∈ holdersOfArgs args, holder.isFinite = true

theorem isFinite_of_required {parts : Parts Candidate} {index : Nat} {name : String} {e : Expr}
    (sound : ∀ c ∈ parts.values, c.Sound)
    (found : parts.required index name (fun c => c.tree ()) = .ok e) : e.IsFinite := by
  obtain ⟨c, member, tree⟩ := Parts.exists_of_required found
  exact (sound c member).tree tree

theorem isFinite_of_ofFields {parts : Parts Candidate} {kind : Kind} {e : Expr}
    (sound : ∀ c ∈ parts.values, c.Sound) (made : ofFields parts kind = .ok e) : e.IsFinite := by
  cases kind with
  | and | or =>
    simp only [ofFields, Gathered.seq_eq_ok, Gathered.map_eq_ok] at made
    obtain ⟨-, right, ⟨left, readLeft, rfl⟩, readRight, rfl⟩ := made
    exact List.forall_mem_append.2
      ⟨isFinite_of_required sound readLeft, isFinite_of_required sound readRight⟩
  | compare | math =>
    simp only [ofFields, Gathered.seq_eq_ok, Gathered.map_eq_ok] at made
    obtain ⟨-, right, ⟨-, left, ⟨op, -, rfl⟩, readLeft, rfl⟩, readRight, rfl⟩ := made
    exact List.forall_mem_append.2
      ⟨isFinite_of_required sound readLeft, isFinite_of_required sound readRight⟩
  | not | isNull =>
    simp only [ofFields, Gathered.map_eq_ok] at made
    obtain ⟨operand, readOperand, rfl⟩ := made
    have finite : operand.IsFinite := isFinite_of_required sound readOperand
    exact finite
  | isIn =>
    simp only [ofFields, Gathered.seq_eq_ok, Gathered.map_eq_ok] at made
    obtain ⟨-, operand, ⟨storeId, -, rfl⟩, readOperand, rfl⟩ := made
    have finite : operand.IsFinite := isFinite_of_required sound readOperand
    exact finite
  | function =>
    simp only [ofFields, Gathered.seq_eq_ok, Gathered.map_eq_ok] at made
    obtain ⟨-, args, ⟨-, name, ⟨space, -, rfl⟩, -, rfl⟩, readArgs, rfl⟩ := made
    rcases Parts.exists_of_defaulted readArgs with rfl | ⟨c, member, trees⟩
    · simp [IsFinite, holders, holdersOfArgs]
    · exact (sound c member).trees trees
  | constant =>
    simp only [ofFields, Gathered.seq_eq_ok, Gathered.map_eq_ok] at made
    obtain ⟨-, type, ⟨value, readValue, rfl⟩, -, rfl⟩ := made
    obtain ⟨c, member, literal⟩ := Parts.exists_of_required readValue
    have finite := Literal.isFinite_of_decode (sound c member).value literal
    simpa [IsFinite, holders, ValueHolder.isFinite] using finite
  | streamVariable =>
    simp only [ofFields, Gathered.seq_eq_ok, Gathered.map_eq_ok] at made
    obtain ⟨-, type, ⟨-, streamId, ⟨id, -, rfl⟩, -, rfl⟩, -, rfl⟩ := made
    simp [IsFinite, holders, ValueHolder.isFinite]
  | storeVariable =>
    simp only [ofFields, Gathered.seq_eq_ok, Gathered.map_eq_ok] at made
    obtain ⟨-, type, ⟨-, attr, ⟨storeId, -, rfl⟩, -, rfl⟩, -, rfl⟩ := made
    simp [IsFinite, holders]

-- The reader recurs over the document, so here the induction is over JSON values.
mutual

/-- What a document holds is read as a finite tree. -/
theorem isFinite_of_decode {stage : Stage} {v : Json} (proper : v.isProper = true) {e : Expr}
    (decoded : decode stage v = .ok e) : e.IsFinite := by
  cases v with
  | object ms =>
    rw [decode] at decoded
    obtain ⟨tagged, -, made⟩ := exists_of_bind_ok decoded
    exact isFinite_of_ofFields (sound_candidateMembers proper) (Gathered.eq_ok_of_record made)
  | array items =>
    cases items with
    | nil => contradiction
    | cons tag items =>
      rw [decode] at decoded
      obtain ⟨kind, -, made⟩ := exists_of_bind_ok decoded
      rw [Json.isProper, Json.areProper, Bool.and_eq_true] at proper
      exact isFinite_of_ofFields (sound_candidateItems proper.2) (Gathered.eq_ok_of_record made)
  | null | bool b | int n | double d | string s => contradiction

theorem isFinite_of_decodeAll {v : Json} (proper : v.isProper = true) {args : List Expr}
    (decoded : decodeAll v = .ok args) :
    ∀ holder ∈ holdersOfArgs args, holder.isFinite = true := by
  cases v with
  | array items => exact isFinite_of_decodeItems proper decoded
  | null | bool b | int n | double d | string s | object ms =>
    simp [decodeAll, Json.wrongType, Json.reject] at decoded

theorem isFinite_of_decodeItems {items : List Json} (proper : Json.areProper items = true)
    {args : List Expr} (decoded : decodeItems items = .ok args) :
    ∀ holder ∈ holdersOfArgs args, holder.isFinite = true := by
  cases items with
  | nil =>
    obtain rfl := Except.ok.inj decoded
    simp [holdersOfArgs]
  | cons item rest =>
    rw [Json.areProper, Bool.and_eq_true] at proper
    rw [decodeItems] at decoded
    obtain ⟨e, first, decoded⟩ := exists_of_bind_ok decoded
    obtain ⟨others, later, made⟩ := exists_of_bind_ok decoded
    obtain rfl := Except.ok.inj made
    exact List.forall_mem_append.2
      ⟨isFinite_of_decode proper.1 first, isFinite_of_decodeItems proper.2 later⟩

theorem sound_candidateMembers {ms : Members} (proper : Json.haveProper ms = true) :
    ∀ c ∈ (Parts.members (candidateMembers ms)).values, c.Sound := by
  cases ms with
  | nil => simp [candidateMembers, Parts.values]
  | cons m rest =>
    rw [Json.haveProper, Bool.and_eq_true] at proper
    exact List.forall_mem_cons.2 ⟨⟨proper.1, isFinite_of_decode proper.1,
      isFinite_of_decodeAll proper.1⟩, sound_candidateMembers proper.2⟩

theorem sound_candidateItems {items : List Json} (proper : Json.areProper items = true) :
    ∀ c ∈ (Parts.items (candidateItems items)).values, c.Sound := by
  cases items with
  | nil => simp [candidateItems, Parts.values]
  | cons item rest =>
    rw [Json.areProper, Bool.and_eq_true] at proper
    exact List.forall_mem_cons.2 ⟨⟨proper.1, isFinite_of_decode proper.1,
      isFinite_of_decodeAll proper.1⟩, sound_candidateItems proper.2⟩

end

end Read

/-- Whatever form of a tree is read, the tree is written in one form, which is read as the same
tree and written as the same value again; and every finite tree is read back. -/
theorem reads_back (stage : Stage) :
    (∀ v e, v.isProper = true → decode stage v = .ok e →
      (decode stage e.encode = .ok e ∧ (decode stage e.encode).map encode = .ok e.encode) ∧
      decode stage e.encode.canonical = .ok e ∧
      (decode stage e.encode.canonical).map (fun e => e.encode.canonical) =
        .ok e.encode.canonical) ∧
    ∀ e, e.IsFinite → decode stage e.encode = .ok e ∧ decode stage e.encode.canonical = .ok e := by
  have finite (e : Expr) (finite : e.IsFinite) :
      decode stage e.encode = .ok e ∧ decode stage e.encode.canonical = .ok e :=
    ⟨decode_encode Json.arranges_id stage e finite,
      decode_encode Json.arranges_canonical stage e finite⟩
  refine ⟨?_, finite⟩
  intro v e proper decoded
  obtain ⟨plain, sorted⟩ := finite e (isFinite_of_decode proper decoded)
  refine ⟨⟨plain, ?_⟩, sorted, ?_⟩
  · rw [plain]
    rfl
  · rw [sorted]
    rfl

/-- A document that spells a tree in unusual ways: nodes and names as lists and objects, an unknown
member, and an integer that only a double can hold. -/
def unusualDocument : Json :=
  .object [("right", .object [("note", .null), ("namespace", .null), ("name", .string "sum"),
      ("kind", .string "function")]),
    ("kind", .string "and"),
    ("left", .array [.string "compare", .object [("equal", .null)],
      .array [.string "constant", .int 9223372036854775808, .object [("int", .null)]],
      .array [.int 8, .int 9223372036854775807, .string "long"]])]

def unusualTree : Expr :=
  .and (.compare .equal (.constant (.double ⟨0x43E0000000000000⟩) .int)
      (.constant (.long 9223372036854775807) .long))
    (.function none "sum" [])

theorem reads_back_unusualDocument :
    unusualDocument.isProper = true ∧ decode .direct unusualDocument = .ok unusualTree ∧
      decode .direct unusualTree.encode = .ok unusualTree ∧ unusualTree.IsFinite ∧
      decode .direct unusualTree.encode.canonical = .ok unusualTree := by
  obtain ⟨read, written⟩ := reads_back .direct
  have proper : unusualDocument.isProper = true := by decide
  have decoded : decode .direct unusualDocument = .ok unusualTree := rfl
  have finite : unusualTree.IsFinite := by decide
  obtain ⟨⟨plain, -⟩, -⟩ := read unusualDocument unusualTree proper decoded
  exact ⟨proper, decoded, plain, finite, (written unusualTree finite).2⟩

end Expr
end ConditionQuery
