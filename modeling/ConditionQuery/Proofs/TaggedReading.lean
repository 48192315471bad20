import ConditionQuery.Condition.ExprJson
import ConditionQuery.Proofs.ReadValues
import ConditionQuery.Proofs.Records
import ConditionQuery.Proofs.StoreFrame

/-! Tagged values in documents. A tagged value is read with an eye on its tag, and yet what is read
is a value like any other, of those that the check accepts. -/
namespace ConditionQuery.Json
open Reading

variable {names : List String} {tag : String} {depth : Nat} {c c' : Cursor}

namespace Shape

theorem fruitless_unexpected {α : Type} (expected : String) :
    (unexpected expected : Reading α).Fruitless := by
  apply Fruitless.last
  intro token
  split
  · exact fruitless_failNext _
  · exact .last fun _ => .last fun _ => fruitless_mismatch _
  · exact .last fun _ => .last fun _ => fruitless_mismatch _
  · exact .last fun _ => .last fun _ => fruitless_mismatch _
  · exact .last fun _ => .last fun _ => fruitless_mismatch _
  · exact .last fun _ => .last fun _ => fruitless_mismatch _
  · exact fruitless_mismatch _
  · exact fruitless_mismatch _
  · split
    · exact .last fun _ => fruitless_mismatch _
    · exact fruitless_failNext _

/-- A name is a string, of those that are known. -/
theorem identifier_eq_ok {name : String} : identifier names c = .ok name c' ↔
    name ∈ names ∧ value depth c = .ok (.string name) c' := by
  constructor
  · intro read
    obtain ⟨token, m, first, read⟩ := bind_eq_ok.1 read
    split at read
    · obtain ⟨_, m₁, opened, read⟩ := bind_eq_ok.1 read
      obtain ⟨s, m₂, inside, read⟩ := bind_eq_ok.1 read
      unfold known at read
      split at read
      · rename_i known
        cases read
        exact ⟨known, value_of_string first opened inside depth⟩
      · exact absurd read (fruitless_mismatch _ _ _ _)
    · exact absurd read (fruitless_unexpected _ _ _ _)
  · rintro ⟨known, read⟩
    cases readAs_of_value read with
    | string first opened inside =>
      refine bind_eq_ok.2 ⟨_, _, first, bind_eq_ok.2 ⟨_, _, opened, bind_eq_ok.2
        ⟨name, c', inside, ?_⟩⟩⟩
      rw [Shape.known, if_pos known]
      rfl
    | plain plain => contradiction

/-- Of members that are gathered at most one is a tag, and it is one that is known. -/
structure Tags (tag : String) (names : List String) (ms : Members) : Prop where
  once : (ms.filter fun m => m.1 == tag).length ≤ 1
  known : ∀ m ∈ ms, m.1 = tag → ∃ name ∈ names, m.2 = .string name

theorem Tags.tail {m : String × Json} {ms : Members} (tags : Tags tag names (m :: ms)) :
    Tags tag names ms where
  once := Nat.le_trans (List.Sublist.length_le ((List.sublist_cons_self m ms).filter _)) tags.once
  known m' member := tags.known m' (List.mem_cons_of_mem m member)

theorem Tags.absent {m : String × Json} {ms : Members} (tags : Tags tag names (m :: ms))
    (isTag : m.1 = tag) : Members.get? ms tag = none := by
  have once := tags.once
  rw [List.filter_cons_of_pos (by simpa), List.length_cons] at once
  have absent : (ms.filter fun m => m.1 == tag) = [] := List.length_eq_zero_iff.1 (by omega)
  rw [Members.get?, Option.map_eq_none_iff, List.find?_eq_none]
  exact List.filter_eq_nil_iff.1 absent

/-- One more member is read as a member of any value. -/
theorem member_of_taggedMember {seen ms : Members}
    (read : taggedMember tag names depth seen c = .ok ms c') :
    (do return (← member (value depth)) :: seen : Reading Members) c = .ok ms c' := by
  obtain ⟨k, m, key, read⟩ := bind_eq_ok.1 read
  suffices reads : ∃ v m₁ m₂, colon m = .ok () m₁ ∧
      Reading.under (.key k) (value depth) m₁ = .ok v m₂ ∧
      (pure ((k, v) :: seen) : Reading Members) m₂ = .ok ms c' by
    obtain ⟨v, m₁, m₂, colon, value, made⟩ := reads
    exact bind_eq_ok.2 ⟨(k, v), m₂, bind_eq_ok.2 ⟨k, m, key, bind_eq_ok.2 ⟨_, m₁, colon,
      bind_eq_ok.2 ⟨v, m₂, value, rfl⟩⟩⟩, made⟩
  split at read
  · rename_i isTag
    subst isTag
    split at read
    · obtain ⟨_, _, failed, _⟩ := bind_eq_ok.1 read
      exact absurd failed (fruitless_throw _ _ _ _)
    · obtain ⟨_, m₁, colon, read⟩ := bind_eq_ok.1 read
      obtain ⟨name, m₂, named, made⟩ := bind_eq_ok.1 read
      exact ⟨.string name, m₁, m₂, colon,
        tryCatch_ok (identifier_eq_ok.1 (eq_ok_of_under named)).2, made⟩
  · obtain ⟨_, m₁, colon, read⟩ := bind_eq_ok.1 read
    obtain ⟨v, m₂, value, made⟩ := bind_eq_ok.1 read
    exact ⟨v, m₁, m₂, colon, value, made⟩

/-- A member of any value is read as one more member, if the tags stay as they should. -/
theorem taggedMember_of_member {seen ms : Members}
    (read : (do return (← member (value depth)) :: seen : Reading Members) c = .ok ms c')
    (tags : Tags tag names ms) :
    Tags tag names seen ∧ taggedMember tag names depth seen c = .ok ms c' := by
  obtain ⟨⟨k, v⟩, _, whole, made⟩ := bind_eq_ok.1 read
  cases made
  obtain ⟨_, m, key, read⟩ := bind_eq_ok.1 whole
  obtain ⟨_, m₁, colon, read⟩ := bind_eq_ok.1 read
  obtain ⟨_, _, value, made⟩ := bind_eq_ok.1 read
  cases made
  refine ⟨tags.tail, bind_eq_ok.2 ⟨k, m, key, ?_⟩⟩
  split
  · rename_i isTag
    obtain ⟨name, known, rfl⟩ := tags.known (k, v) List.mem_cons_self isTag
    have first : ¬ (Members.get? seen tag).isSome = true := by
      rw [tags.absent isTag]
      exact Bool.false_ne_true
    subst isTag
    rw [if_neg first]
    exact bind_eq_ok.2 ⟨_, m₁, colon, bind_eq_ok.2 ⟨name, c',
      tryCatch_ok (identifier_eq_ok.2 ⟨known, eq_ok_of_under value⟩), rfl⟩⟩
  · exact bind_eq_ok.2 ⟨_, m₁, colon, bind_eq_ok.2 ⟨v, c', value, rfl⟩⟩

/-- The value has one tag, of those that are known. -/
def HasTag (tag : String) (names : List String) : Json → Prop
  | .object ms => ∃ name ∈ names, (ms.filter fun m => m.1 == tag) = [(tag, .string name)]
  | .array (v :: _) => ∃ name ∈ names, v = .string name
  | _ => False

variable {expected : String} {check : Json → Decoded Unit} {v : Json}

theorem value_of_tagged (read : tagged tag expected names check depth c = .ok v c') :
    value depth c = .ok v c' ∧ check v = .ok () := by
  obtain ⟨token, m, first, read⟩ := bind_eq_ok.1 read
  suffices reads : ∃ w m', value depth c = .ok w m' ∧
      (do ofDecoded (check w); return w : Reading Json) m' = .ok v c' by
    obtain ⟨w, m', value, judged⟩ := reads
    obtain ⟨_, _, checked, made⟩ := bind_eq_ok.1 judged
    cases outcome : check w with
    | error failure =>
      rw [outcome] at checked
      contradiction
    | ok =>
      rw [outcome] at checked
      cases checked
      cases made
      exact ⟨value, outcome⟩
  split at read
  · obtain ⟨w, m', content, judged⟩ := bind_eq_ok.1 read
    refine ⟨w, m', ?_, judged⟩
    cases depth with
    | zero => exact absurd content (fruitless_failNext _ _ _ _)
    | succ depth =>
      obtain ⟨_, m₁, opened, content⟩ := bind_eq_ok.1 content
      obtain ⟨vs, m₂, read, closed⟩ := bind_eq_ok.1 content
      obtain ⟨vs', m₃, items, kept⟩ := bind_eq_ok.1 (eq_ok_of_settledBy read)
      have plain : Reading.items (fun _ => value depth) m₁ = .ok vs' m₃ := by
        refine items_eq_ok (fun index v _ c c' read => ?_) items
        split at read
        · obtain ⟨name, m, named, made⟩ := bind_eq_ok.1 read
          cases made
          exact (identifier_eq_ok.1 named).2
        · exact read
      split at kept
      · obtain ⟨_, _, failed, _⟩ := bind_eq_ok.1 kept
        exact absurd failed (fruitless_throw _ _ _ _)
      · cases kept
        exact bind_eq_ok.2 ⟨_, m, first, bind_eq_ok.2 ⟨_, m₁, opened,
          bind_eq_ok.2 ⟨vs, m₂, plain, closed⟩⟩⟩
  · obtain ⟨w, m', content, judged⟩ := bind_eq_ok.1 read
    refine ⟨w, m', ?_, judged⟩
    cases depth with
    | zero => exact absurd content (fruitless_failNext _ _ _ _)
    | succ depth =>
      obtain ⟨_, m₁, opened, content⟩ := bind_eq_ok.1 content
      obtain ⟨ms, m₂, read, closed⟩ := bind_eq_ok.1 content
      obtain ⟨ms', m₃, members, kept⟩ := bind_eq_ok.1 (eq_ok_of_settledBy read)
      have plain := members_eq_ok (fun _ => True)
        (fun _ _ _ _ read _ => ⟨trivial, member_of_taggedMember read⟩) members trivial
      split at kept
      · obtain ⟨_, _, failed, _⟩ := bind_eq_ok.1 kept
        exact absurd failed (fruitless_throw _ _ _ _)
      · cases kept
        exact bind_eq_ok.2 ⟨_, m, first, bind_eq_ok.2 ⟨_, m₁, opened,
          bind_eq_ok.2 ⟨ms, m₂, plain, closed⟩⟩⟩
  · obtain ⟨w, m', content, judged⟩ := bind_eq_ok.1 read
    exact absurd content (fruitless_unexpected _ _ _ _)

theorem tagged_of_value (read : value depth c = .ok v c') (tagged : HasTag tag names v)
    (checked : check v = .ok ()) : Shape.tagged tag expected names check depth c = .ok v c' := by
  have judged : (do ofDecoded (check v); return v : Reading Json) c' = .ok v c' := by
    rw [checked]
    rfl
  cases readAs_of_value read with
  | @array depth content m m₁ m₂ first opened inside closed =>
    cases content with
    | nil => exact absurd tagged id
    | cons w ws =>
      obtain ⟨name, known, rfl⟩ := tagged
      have items : Reading.items (fun index => if index = 0 then
          (do return Json.string (← identifier names)) else value depth) m₁ =
          .ok (.string name :: ws) m₂ := by
        refine items_eq_ok (fun index v stands c c' read => ?_) inside
        cases index with
        | zero =>
          cases stands
          exact bind_eq_ok.2 ⟨name, c', identifier_eq_ok.2 ⟨known, read⟩, rfl⟩
        | succ index => exact read
      refine bind_eq_ok.2 ⟨_, m, first, bind_eq_ok.2 ⟨_, c', bind_eq_ok.2 ⟨_, m₁, opened,
        bind_eq_ok.2 ⟨_, m₂, tryCatch_ok (bind_eq_ok.2 ⟨_, m₂, items, rfl⟩),
          bind_eq_ok.2 ⟨_, c', closed, rfl⟩⟩⟩, judged⟩⟩
  | @object depth content m m₁ m₂ first opened inside closed =>
    obtain ⟨name, known, once⟩ := tagged
    have alone : (content.filter fun m => m.1 == tag) = [(tag, .string name)] := by
      rw [List.filter_reverse, List.reverse_eq_iff] at once
      exact once
    have tags : Tags tag names content := by
      refine ⟨by rw [alone]; exact Nat.le_refl 1, fun m among isTag => ?_⟩
      have only : m ∈ [(tag, Json.string name)] := alone ▸ List.mem_filter.2 ⟨among, by simpa⟩
      obtain rfl := List.mem_singleton.1 only
      exact ⟨name, known, rfl⟩
    have found : (Members.get? content tag).isNone = false := by
      have among : (tag, Json.string name) ∈ content :=
        (List.mem_filter.1 (alone ▸ List.mem_singleton_self _)).1
      rw [Members.get?, Option.isNone_map, ← Bool.not_eq_true, Option.isNone_iff_eq_none,
        List.find?_eq_none]
      exact fun absent => absent _ among (by simp)
    have read := members_eq_ok (Tags tag names)
      (fun _ _ _ _ => taggedMember_of_member) inside tags
    have kept : (do
        let content ← members (taggedMember tag names depth) []
        if (Members.get? content tag).isNone then unplaced (.missingField tag)
        return content : Reading Members) m₁ = .ok content m₂ := by
      refine bind_eq_ok.2 ⟨content, m₂, read, ?_⟩
      dsimp only
      rw [found]
      rfl
    exact bind_eq_ok.2 ⟨_, m, first, bind_eq_ok.2 ⟨_, c', bind_eq_ok.2 ⟨_, m₁, opened,
      bind_eq_ok.2 ⟨_, m₂, tryCatch_ok kept, bind_eq_ok.2 ⟨_, c', closed, rfl⟩⟩⟩, judged⟩⟩
  | string => exact absurd tagged id
  | plain plain => cases v <;> first | exact absurd tagged id | contradiction

end Shape
end ConditionQuery.Json

namespace ConditionQuery.Expr
open Json Json.Reading

theorem exists_name_of_decodeTag {α : Type} {naming : Naming α} {v : Json} {a : α}
    (decoded : naming.decodeTag .direct v = .ok a) : ∃ name ∈ naming.names, v = .string name := by
  cases v with
  | string name =>
    simp only [Naming.decodeTag, Naming.decodeName] at decoded
    split at decoded
    · rename_i found
      have named := List.find?_some (p := fun a => naming.name a == name) found
      exact ⟨name, List.mem_map.2 ⟨_, List.mem_of_find?_eq_some found, beq_iff_eq.1 named⟩, rfl⟩
    · contradiction
  | null | bool b | int n | double d | array items | object ms => contradiction

theorem hasTag_of_decode {v : Json} {e : Expr} (decoded : decode .direct v = .ok e) :
    Shape.HasTag "kind" Kind.naming.names v := by
  cases v with
  | object ms =>
    rw [decode] at decoded
    obtain ⟨_, split, -⟩ := exists_of_bind_ok decoded
    obtain ⟨v, single, named, -⟩ := Naming.splitTag_object_eq_ok.1 split
    obtain ⟨name, known, rfl⟩ := exists_name_of_decodeTag named
    exact ⟨name, known, single⟩
  | array items =>
    cases items with
    | nil => contradiction
    | cons tag items =>
      rw [decode] at decoded
      obtain ⟨kind, named, -⟩ := exists_of_bind_ok decoded
      exact exists_name_of_decodeTag named
  | null | bool b | int n | double d | string s => contradiction

theorem shape_eq_ok {depth : Nat} {c c' : Cursor} {v : Json} :
    shape depth c = .ok v c' ↔ value depth c = .ok v c' ∧ ∃ e, decode .direct v = .ok e := by
  constructor
  · intro read
    obtain ⟨value, checked⟩ := Shape.value_of_tagged read
    refine ⟨value, ?_⟩
    cases decoded : decode .direct v with
    | error failure =>
      rw [decoded] at checked
      contradiction
    | ok e => exact ⟨e, rfl⟩
  · rintro ⟨value, e, decoded⟩
    apply Shape.tagged_of_value value (hasTag_of_decode decoded)
    rw [decoded]
    rfl

/-- A tree is read wherever its document is. -/
theorem comes_shape {depth : Nat} {v : Json} {e : Expr} {text after : List Char}
    (reads : (value depth).Comes text after (some v)) (decoded : decode .direct v = .ok e) :
    (shape depth).Comes text after (some v) := by
  intro p
  obtain ⟨q, read⟩ := reads p
  exact ⟨q, shape_eq_ok.2 ⟨read, e, decoded⟩⟩

/-- A text that holds a tree holds a document, which is read as the tree. -/
theorem exists_of_parse {text : String} {e : Expr} (read : parse text = .ok e) :
    ∃ v, Json.parse text = .ok v ∧ decode .direct v = .ok e := by
  obtain ⟨v, reads, decoded⟩ := exists_of_bind_ok read
  refine ⟨v, ?_, decoded⟩
  obtain ⟨c, reads⟩ := runPart_eq_ok.1 reads
  obtain ⟨w, m, tagged, rest⟩ := bind_eq_ok.1 reads
  exact runPart_eq_ok.2 ⟨c, bind_eq_ok.2 ⟨w, m, (shape_eq_ok.1 tagged).1, rest⟩⟩

end ConditionQuery.Expr
