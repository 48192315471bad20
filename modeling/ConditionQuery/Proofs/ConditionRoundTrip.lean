import ConditionQuery.Proofs.Numerals
import ConditionQuery.Proofs.Occurrences
import ConditionQuery.Proofs.TreeRoundTrip

/-! Compiled conditions in documents. What a condition is written as is read back as the condition,
with the members of objects in any order: the slots come back under their ordinals, the pattern
ordinals and the offsets in their order, and every literal as the kind that it was. -/
namespace ConditionQuery

open Json (Arranges Members Decoded Parts)

namespace OrdinalMap

variable {α : Type}

theorem distinct_keys (m : OrdinalMap α) : (m.entries.map Prod.fst).Nodup := by
  rw [List.Nodup, List.pairwise_map]
  exact m.ascending.imp fun below => Nat.ne_of_lt below

theorem perm_insertInto {n : Nat} {a : α} {entries : List (Nat × α)}
    (new : n ∉ entries.map Prod.fst) : (insertInto n a entries).Perm ((n, a) :: entries) := by
  induction entries with
  | nil => exact .refl _
  | cons entry entries ih =>
    obtain ⟨m, b⟩ := entry
    obtain ⟨differs, later⟩ := List.ne_and_not_mem_of_not_mem_cons new
    simp only [insertInto]
    split
    · exact .refl _
    · exact ((ih later).cons (m, b)).trans (.swap ..)

theorem entries_foldl_insert (entries : List (Nat × α)) (m : OrdinalMap α) :
    (entries.foldl (fun m entry => m.insert entry.1 entry.2) m).entries =
      entries.foldl (fun sorted entry => insertInto entry.1 entry.2 sorted) m.entries := by
  induction entries generalizing m with
  | nil => rfl
  | cons entry entries ih => exact ih _

/-- A map is made of its entries, in whatever order they come. -/
theorem ofList_of_perm {m : OrdinalMap α} {entries : List (Nat × α)}
    (order : entries.Perm m.entries) : ofList entries = m := by
  have keys : ((entries ++ []).map Prod.fst).Nodup := by
    rw [List.append_nil]
    exact (order.map Prod.fst).nodup_iff.2 m.distinct_keys
  have collected := perm_foldl (fun _ _ _ new => perm_insertInto new) keys
  rw [List.append_nil] at collected
  have made : (ofList entries).entries.Perm m.entries := by
    rw [ofList, entries_foldl_insert]
    exact collected.trans order
  refine ext (List.Perm.eq_of_pairwise ?_ (ofList entries).ascending m.ascending made)
  intro a b _ _ below above
  exact absurd below (Nat.lt_asymm above)

end OrdinalMap

namespace OrdinalSet

theorem insertInto_eq {n : Nat} {elems : List Nat} (above : ∀ m ∈ elems, m < n) :
    insertInto n elems = elems ++ [n] := by
  induction elems with
  | nil => rfl
  | cons m elems ih =>
    obtain ⟨first, rest⟩ := List.forall_mem_cons.1 above
    rw [insertInto, if_neg (Nat.lt_asymm first), if_neg (Nat.ne_of_gt first), ih rest]
    rfl

theorem elems_foldl_insert {ns : List Nat} {s : OrdinalSet}
    (ascending : (s.elems ++ ns).Pairwise (· < ·)) :
    (ns.foldl (fun s n => s.insert n) s).elems = s.elems ++ ns := by
  induction ns generalizing s with
  | nil => simp
  | cons n ns ih =>
    have above : ∀ m ∈ s.elems, m < n := by
      intro m member
      exact (List.pairwise_append.1 ascending).2.2 m member n List.mem_cons_self
    have inserted : (s.insert n).elems = s.elems ++ [n] := insertInto_eq above
    have order : ((s.insert n).elems ++ ns).Pairwise (· < ·) := by
      simpa [inserted] using ascending
    rw [List.foldl_cons, ih order, inserted]
    simp

theorem ext {s t : OrdinalSet} (same : s.elems = t.elems) : s = t := by
  cases s
  cases t
  cases same
  rfl

theorem ofList_elems (s : OrdinalSet) : ofList s.elems = s := by
  have ascending : (empty.elems ++ s.elems).Pairwise (· < ·) := s.ascending
  exact ext (elems_foldl_insert ascending)

end OrdinalSet

theorem ValueHolder.Kind.unambiguous : ValueHolder.Kind.naming.Unambiguous := by
  intro kind
  cases kind <;> rfl

section Written

variable {f : Json → Json} (order : Arranges f)

include order

/-- An arranged holder has its tag, its type and a member of its own. -/
theorem ValueHolder.exists_members (kind : Kind) (key : String) (v : Json) (type : AttributeType)
    (own : key ≠ "holder" ∧ key ≠ "type") :
    ∃ ms, f (.object [("holder", .string kind.name), (key, v), ("type", type.encode)]) =
        .object ms ∧
      (Parts.members ms).Are
        [("holder", f (.string kind.name)), (key, f v), ("type", f type.encode)] ∧
      Kind.naming.splitTag .direct "holder" expected (.object ms) = .ok (kind, .members ms) ∧
      (Parts.members ms).required 1 "type" (AttributeType.decode .setAside) = .ok type := by
  obtain ⟨ms, arranged, are⟩ := order.members
    [("holder", .string kind.name), (key, v), ("type", type.encode)]
    (by simp [own.1.symm, own.2])
  refine ⟨ms, arranged, are, ?_, ?_⟩
  · apply Kind.unambiguous.splitTag are
    simp [order.string, Kind.naming]
  · exact are.required (a := f type.encode) (by simp)
      (order.decodeName AttributeType.unambiguous .setAside type)

theorem ValueHolder.decode_encode {holder : ValueHolder} (finite : holder.isFinite = true) :
    ValueHolder.decode (f holder.encode) = .ok holder := by
  cases holder with
  | constant value type =>
    obtain ⟨ms, arranged, are, tag, readType⟩ :=
      ValueHolder.exists_members order .constant "value" value.encode type (by decide)
    have readValue : (Parts.members ms).required 0 "value" Literal.decode = .ok value := by
      apply are.required (a := f value.encode) (by simp)
      rw [order.literal]
      exact Literal.decode_encode finite
    refine (congrArg ValueHolder.decode arranged).trans ?_
    rw [decode, tag]
    simp only [bind, Except.bind, readValue, readType]
    exact are.record ..
  | event id type =>
    obtain ⟨ms, arranged, are, tag, readType⟩ :=
      ValueHolder.exists_members order .event "id" (.string id) type (by decide)
    have readId : (Parts.members ms).required 0 "id" Json.decodeString = .ok id :=
      are.required (a := f (.string id)) (by simp) (order.decodeString id)
    refine (congrArg ValueHolder.decode arranged).trans ?_
    rw [decode, tag]
    simp only [bind, Except.bind, readId, readType]
    exact are.record ..

theorem Json.Arranges.decodeStrings (items : List String) :
    Json.decodeList Json.decodeString (f (.strings items)) = .ok items := by
  have arranged : f (.strings items) = .array (items.map fun s => f (.string s)) := by
    rw [Json.strings, order.array, List.map_map]
    rfl
  rw [arranged]
  exact Json.mapM_map fun s _ => order.decodeString s

theorem Json.Arranges.decodeNumbers {ns : List Nat} (fit : ∀ n ∈ ns, n < UInt64.size) :
    Json.decodeList Json.decodeSize (f (CompiledCondition.encodeNumbers ns)) = .ok ns := by
  have arranged : f (CompiledCondition.encodeNumbers ns) =
      .array (ns.map fun n : Nat => f (.int n)) := by
    rw [CompiledCondition.encodeNumbers, order.array, List.map_map]
    rfl
  rw [arranged]
  refine Json.mapM_map fun n member => ?_
  rw [order.int]
  exact Json.decodeSize_int (fit n member)

theorem CorrelatedJoin.decode_encode (join : CorrelatedJoin) :
    CorrelatedJoin.decode (f join.encode) = .ok join := by
  obtain ⟨ms, arranged, are⟩ := order.members
    [("alias", .string join.aliasName), ("sub_select", .strings join.subSelect),
      ("outer_join", .strings join.outerJoin), ("aggregate_join", .strings join.aggregateJoin)]
    (by simp)
  have readAlias : (Parts.members ms).required 0 "alias" Json.decodeString = .ok join.aliasName :=
    are.required (a := f (.string join.aliasName)) (by simp) (order.decodeString _)
  have readSub : (Parts.members ms).required 1 "sub_select" (Json.decodeList Json.decodeString) =
      .ok join.subSelect :=
    are.required (a := f (.strings join.subSelect)) (by simp) (order.decodeStrings _)
  have readOuter : (Parts.members ms).required 2 "outer_join" (Json.decodeList Json.decodeString) =
      .ok join.outerJoin :=
    are.required (a := f (.strings join.outerJoin)) (by simp) (order.decodeStrings _)
  have readAggregate : (Parts.members ms).defaulted 3 "aggregate_join" []
      (Json.decodeList Json.decodeString) = .ok join.aggregateJoin :=
    are.defaulted (a := f (.strings join.aggregateJoin)) (by simp) (order.decodeStrings _)
  rw [encode, arranged, decode, Json.decodeRecord]
  simp only [readAlias, readSub, readOuter, readAggregate]
  exact are.record ..

end Written

namespace Template

/-- Every slot is shown as a character. -/
theorem length_slots_le {α : Type} (t : Template α) :
    (slots t).length ≤ Text.byteLength (shown t) := by
  induction t with
  | nil => simp
  | cons g t ih =>
    cases g with
    | char c =>
      simp only [slots_char_cons, shown_cons, Text.byteLength_cons]
      omega
    | slot a =>
      have mark : Char.utf8Size '?' = 1 := rfl
      simp only [slots_slot_cons, shown_cons, Text.byteLength_cons, Glyph.shown_slot, mark,
        List.length_cons]
      omega

theorem lt_of_mem_offsets {α : Type} {t : Template α} {offset : Nat}
    (member : offset ∈ offsets 0 t) : offset < Text.byteLength (shown t) := by
  obtain ⟨front, back, text, rfl⟩ := markedAt_of_mem_offsets member
  have mark : Char.utf8Size '?' = 1 := rfl
  simp only [text, Text.byteLength_append, Text.byteLength_cons, mark]
  omega

/-- The values of a template that a text is read as are those that the table knows. -/
theorem mem_of_scans {table : PlaceholderTable} {cs : List Char} {t : Template NamedValue}
    (scans : Scans table cs t) : ∀ named ∈ slots t, named ∈ table := by
  induction scans with
  | nil => simp
  | char unmarked rest ih => simpa using ih
  | @slot named cs t marked rest ih =>
    rw [slots_slot_cons]
    refine List.forall_mem_cons.2 ⟨?_, ih⟩
    obtain ⟨entry, found, value⟩ := Option.map_eq_some_iff.1 marked.known
    have name : entry.1 = named.1 := by simpa using List.find?_some found
    rw [← Prod.ext name value]
    exact List.mem_of_find?_eq_some found

end Template

namespace CompiledCondition

/-- What a document can hold of the condition: its numbers have 64 bits and its constants can be
written. -/
structure Writable (c : CompiledCondition) : Prop where
  ordinals : ∀ entry ∈ c.parameters.entries, entry.1 < UInt64.size
  values : ∀ entry ∈ c.parameters.entries, entry.2.isFinite = true
  patterns : ∀ n ∈ c.patternOrdinals.elems, n < UInt64.size
  offsets : ∀ offset ∈ c.markerOffsets, offset < UInt64.size

/-- The members that the condition is written as. -/
def members (c : CompiledCondition) : Members :=
  [("table", .string c.table), ("text", .string c.text),
    ("parameters", encodeParameters c.parameters)] ++
  (if c.patternOrdinals.isEmpty then []
    else [("pattern_ordinals", encodeNumbers c.patternOrdinals.elems)]) ++
  [("marker_offsets", encodeNumbers c.markerOffsets), ("join", c.join.encode),
    ("membership", .bool c.membership)]

section Written

variable {f : Json → Json} (order : Arranges f) {c : CompiledCondition}

include order

theorem decodeParameters_encode {parameters : OrdinalMap ValueHolder}
    (ordinals : ∀ entry ∈ parameters.entries, entry.1 < UInt64.size)
    (values : ∀ entry ∈ parameters.entries, entry.2.isFinite = true) :
    decodeParameters (f (encodeParameters parameters)) = .ok parameters := by
  have keys : ((parameters.entries.map fun entry =>
      (toString entry.1, entry.2.encode)).map Prod.fst).Nodup := by
    have distinct := parameters.distinct_keys.map @PlaceholderNames.repr_injective
    rw [List.map_map] at distinct ⊢
    exact distinct
  obtain ⟨ms, arranged, perm⟩ := order.object _ keys
  rw [List.map_map] at perm
  -- Sorted by their texts, the ordinals are in another order than as numbers: "10" precedes "9".
  obtain ⟨entries, rfl, same⟩ := (congrFun₂ (List.eq_map_comp_perm _) ms _).mpr perm
  have each : ∀ entry ∈ entries, (do
      return (← Json.Shape.decodeNumericKey (toString entry.1),
        ← ValueHolder.decode (f entry.2.encode)) : Decoded (Nat × ValueHolder)) = .ok entry := by
    intro entry member
    have among := same.mem_iff.1 member
    rw [Json.Shape.decodeNumericKey_toString (ordinals entry among),
      ValueHolder.decode_encode order (values entry among)]
    rfl
  rw [encodeParameters, arranged, decodeParameters, Json.mapM_map each]
  exact congrArg Except.ok (OrdinalMap.ofList_of_perm same)

theorem decodeOrdinals_encode {s : OrdinalSet} (fit : ∀ n ∈ s.elems, n < UInt64.size) :
    decodeOrdinals (f (encodeNumbers s.elems)) = .ok s := by
  rw [decodeOrdinals, order.decodeNumbers fit]
  exact congrArg Except.ok s.ofList_elems

omit order in
/-- The pattern ordinals are among the members unless there are none. -/
theorem patterns_of_members (c : CompiledCondition) :
    (c.patternOrdinals = .empty ∧ "pattern_ordinals" ∉ c.members.map Prod.fst) ∨
      ("pattern_ordinals", encodeNumbers c.patternOrdinals.elems) ∈ c.members := by
  cases empty : c.patternOrdinals.isEmpty with
  | true =>
    refine .inl ⟨OrdinalSet.ext (List.isEmpty_iff.1 empty), ?_⟩
    simp [members, empty]
  | false => exact .inr (by simp [members, empty])

/-- A condition is read back from what it is written as, arranged in any way. -/
theorem decode_encode (writable : c.Writable) : decode (f c.encode) = .ok c := by
  have distinct : (c.members.map Prod.fst).Nodup := by
    unfold members
    split <;> simp
  obtain ⟨ms, arranged, are⟩ := order.members c.members distinct
  have member {key : String} {v : Json} (among : (key, v) ∈ c.members) :
      (key, f v) ∈ c.members.map fun m => (m.1, f m.2) := List.mem_map_of_mem among
  have readTable : (Parts.members ms).required 0 "table" Json.decodeString = .ok c.table :=
    are.required (member (by simp [members])) (order.decodeString c.table)
  have readText : (Parts.members ms).required 1 "text" Json.decodeString = .ok c.text :=
    are.required (member (by simp [members])) (order.decodeString c.text)
  have readParameters : (Parts.members ms).required 2 "parameters" decodeParameters =
      .ok c.parameters :=
    are.required (member (by simp [members]))
      (decodeParameters_encode order writable.ordinals writable.values)
  have readPatterns : (Parts.members ms).defaulted 3 "pattern_ordinals" .empty decodeOrdinals =
      .ok c.patternOrdinals := by
    rcases patterns_of_members c with ⟨none, absent⟩ | among
    · rw [none]
      apply are.absent
      simpa [Function.comp_def] using absent
    · exact are.defaulted (member among) (decodeOrdinals_encode order writable.patterns)
  have readOffsets : (Parts.members ms).defaulted 4 "marker_offsets" []
      (Json.decodeList Json.decodeSize) = .ok c.markerOffsets :=
    are.defaulted (member (by simp [members])) (order.decodeNumbers writable.offsets)
  have readJoin : (Parts.members ms).required 5 "join" CorrelatedJoin.decode = .ok c.join :=
    are.required (member (by simp [members])) (CorrelatedJoin.decode_encode order c.join)
  have readMembership : (Parts.members ms).defaulted 6 "membership" false Json.decodeBool =
      .ok c.membership := by
    apply are.defaulted (member (v := .bool c.membership) (by simp [members]))
    rw [order.bool]
    rfl
  have written : c.encode = .object c.members := rfl
  rw [written, arranged, decode, Json.decodeRecord]
  simp only [readTable, readText, readParameters, readPatterns, readOffsets, readJoin,
    readMembership]
  exact are.record ..

end Written

/-- The numbers of a condition do not exceed the size of its text. -/
theorem numbers_of_compile {options : CompileOptions} {e : Expr} {c : CompiledCondition}
    (compiled : e.compile options = .ok c) :
    (∀ entry ∈ c.parameters.entries, entry.1 ≤ Text.byteLength c.text.toList ∧
        entry.2 ∈ e.holders) ∧
      (∀ n ∈ c.patternOrdinals.elems, n ≤ Text.byteLength c.text.toList) ∧
      ∀ offset ∈ c.markerOffsets, offset < Text.byteLength c.text.toList := by
  obtain ⟨sound, rfl⟩ := Expr.compile_ok compiled
  obtain ⟨held, holds, laid⟩ := Expr.exists_held options e
  have scans := scans_scan (e.draft options).placeholders (e.draft options).text.toList
  have scanned := parametrize_eq (e.draft options).text (e.draft options).placeholders
  generalize scan _ _ = t at scans scanned
  have size :
      (Template.slots t).length ≤ Text.byteLength (Template.shown (Template.trimmed t)) := by
    rw [← Template.slots_trimmed]
    exact Template.length_slots_le _
  have values : ∀ named ∈ Template.slots t, named.2 ∈ e.holders := by
    intro named member
    have known := Template.mem_of_scans scans named member
    rw [holds.placeholders, List.mem_reverse] at known
    rw [← Expr.slots_layout sound, ← laid, Template.slots_map]
    exact List.mem_map_of_mem known
  simp only [Expr.finish, scanned, Parametrized.ofTemplate, String.toList_ofList]
  refine ⟨?_, ?_, fun offset => Template.lt_of_mem_offsets⟩
  · rintro ⟨n, holder⟩ entry
    obtain ⟨k, rfl, found⟩ := OrdinalMap.mem_numberFrom.1 entry
    obtain ⟨named, member, rfl⟩ := List.mem_map.1 (List.mem_of_getElem? found)
    obtain ⟨inside, -⟩ := List.getElem?_eq_some_iff.1 found
    rw [List.length_map] at inside
    exact ⟨by omega, values named member⟩
  · intro n pattern
    obtain ⟨k, named, rfl, found, -⟩ := OrdinalMap.mem_ordinalsWhere_enumerate.1 pattern
    obtain ⟨inside, -⟩ := List.getElem?_eq_some_iff.1 found
    omega

/-- A document holds every finite condition, the length of its text being a number of 64 bits. -/
theorem writable_of_compile {options : CompileOptions} {e : Expr} {c : CompiledCondition}
    (finite : e.IsFinite) (compiled : e.compile options = .ok c)
    (fits : Text.byteLength c.text.toList < UInt64.size) : c.Writable := by
  obtain ⟨parameters, patterns, offsets⟩ := numbers_of_compile compiled
  constructor
  case ordinals =>
    intro entry member
    exact Nat.lt_of_le_of_lt (parameters entry member).1 fits
  case values =>
    intro entry member
    exact finite entry.2 (parameters entry member).2
  case patterns =>
    intro n member
    exact Nat.lt_of_le_of_lt (patterns n member) fits
  case offsets =>
    intro offset member
    exact Nat.lt_trans (offsets offset member) fits

/-- A compiled condition is read back from its document, whose members may be sorted, so what is
reloaded gives the same statements and bindings. The bound `fits` holds of every run: a text in
memory takes fewer bytes than its length, a number of 64 bits, can count. -/
theorem reloads {options : CompileOptions} {e : Expr} {c : CompiledCondition}
    (finite : e.IsFinite) (compiled : e.compile options = .ok c)
    (fits : Text.byteLength c.text.toList < UInt64.size) :
    decode c.encode = .ok c ∧ decode c.encode.canonical = .ok c := by
  have writable := writable_of_compile finite compiled fits
  exact ⟨decode_encode Json.arranges_id writable, decode_encode Json.arranges_canonical writable⟩

/-- A tree in which fifty is a double, a long and a pattern. -/
def fifties : Expr :=
  .and (.compare .equal (.storeVariable "stock" "price" .double)
      (.constant (.double ⟨0x4049000000000000⟩) .double))
    (.or (.function (some "str") "contains"
        [.storeVariable "stock" "symbol" .string, .constant (.string "50") .string])
      (.compare .notEqual (.constant (.long 50) .long) (.constant .null .object)))

theorem reloads_fifties :
    ∃ c, fifties.compile Expr.likeMarker = .ok c ∧ c.markerOffsets.length = 4 ∧
      c.parameters.get? 1 = some (.constant (.double ⟨0x4049000000000000⟩) .double) ∧
      c.parameters.get? 3 = some (.constant (.long 50) .long) ∧
      decode c.encode = .ok c ∧ decode c.encode.canonical = .ok c := by
  have compiled := Expr.compile_eq Expr.likeMarker fifties
  have renders := Expr.compile_renders (by decide) compiled
  have short : Text.byteLength (Template.shown (fifties.template Expr.likeMarker)) <
      UInt64.size := by decide +kernel
  have fits := Nat.lt_of_le_of_lt (Nat.le_of_eq (congrArg Text.byteLength renders.text)) short
  have values := Expr.get?_parameters (by decide) compiled
  have offsets := congrArg List.length renders.markerOffsets
  rw [Template.length_offsets, Expr.slots_template compiled] at offsets
  exact ⟨_, compiled, offsets, values 0, values 2, reloads (by decide) compiled fits⟩

end CompiledCondition
end ConditionQuery
