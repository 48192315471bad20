import ConditionQuery.Proofs.TreeRoundTrip
import Mathlib.Data.String.Basic

/-! Trees in canonical documents. Sorting the members of an object keeps those whose key stands
there once, and a tree is read from such members only; so the tree that a document holds is read
from its canonical form too. -/
namespace ConditionQuery
namespace Json

namespace Members

variable {key name : String} {value v : Json} {ms sorted : Members}

def Ascending (ms : Members) : Prop := ms.Pairwise fun a b => a.1 < b.1

theorem mem_insert {m : String × Json} (member : m ∈ insert key value ms) :
    m = (key, value) ∨ m ∈ ms := by
  induction ms with
  | nil => simpa [insert] using member
  | cons m' ms ih =>
    obtain ⟨k, w⟩ := m'
    simp only [insert] at member
    split at member
    · simpa using member
    split at member
    · rcases List.mem_cons.1 member with rfl | later
      · exact .inl rfl
      · exact .inr (List.mem_cons_of_mem _ later)
    · rcases List.mem_cons.1 member with rfl | later
      · exact .inr List.mem_cons_self
      · exact (ih later).imp id (List.mem_cons_of_mem _)

theorem Ascending.insert (ascending : Ascending ms) (key : String) (value : Json) :
    Ascending (ms.insert key value) := by
  induction ms with
  | nil => exact List.pairwise_singleton _ _
  | cons m ms ih =>
    obtain ⟨k, v⟩ := m
    obtain ⟨first, rest⟩ := List.pairwise_cons.1 ascending
    simp only [Members.insert]
    split
    · rename_i before
      refine List.pairwise_cons.2 ⟨List.forall_mem_cons.2 ⟨before, fun m later => ?_⟩, ascending⟩
      exact before.trans (first m later)
    split
    · rename_i same
      subst same
      exact List.pairwise_cons.2 ⟨first, rest⟩
    · rename_i before other
      refine List.pairwise_cons.2 ⟨fun m among => ?_, ih rest⟩
      rcases mem_insert among with rfl | later
      · exact lt_of_le_of_ne (not_lt.1 before) (Ne.symm other)
      · exact first m later

theorem filter_of_below (below : ∀ m ∈ ms, key < m.1) :
    (ms.filter fun m => m.1 == key) = [] :=
  List.filter_eq_nil_iff.2 fun m among same =>
    (below m among).ne (beq_iff_eq.1 same).symm

/-- The inserted member is the only one with its key. -/
theorem filter_insert_same (ascending : Ascending ms) :
    ((insert key value ms).filter fun m => m.1 == key) = [(key, value)] := by
  induction ms with
  | nil => simp [insert]
  | cons m ms ih =>
    obtain ⟨k, v⟩ := m
    obtain ⟨first, rest⟩ := List.pairwise_cons.1 ascending
    simp only [insert]
    split
    · rename_i before
      have others : (((k, v) :: ms).filter fun m => m.1 == key) = [] :=
        filter_of_below
          (List.forall_mem_cons.2 ⟨before, fun m later => before.trans (first m later)⟩)
      rw [List.filter_cons_of_pos (by simp), others]
    split
    · rename_i same
      subst same
      rw [List.filter_cons_of_pos (by simp), filter_of_below first]
    · rename_i other
      rw [List.filter_cons_of_neg (by simpa using Ne.symm other), ih rest]

theorem filter_insert_other (other : key ≠ name) :
    ((insert key value ms).filter fun m => m.1 == name) = ms.filter fun m => m.1 == name := by
  induction ms with
  | nil => simp [insert, other]
  | cons m ms ih =>
    obtain ⟨k, v⟩ := m
    simp only [insert]
    split
    · rw [List.filter_cons_of_neg (by simpa using other)]
    split
    · rename_i same
      subst same
      rw [List.filter_cons_of_neg (by simpa using other),
        List.filter_cons_of_neg (by simpa using other)]
    · rw [List.filter_cons, ih, List.filter_cons]

theorem filter_foldl_of_absent (absent : (ms.filter fun m => m.1 == name) = []) :
    ((ms.foldl (fun sorted (k, v) => sorted.insert k v) sorted).filter fun m => m.1 == name) =
      sorted.filter fun m => m.1 == name := by
  induction ms generalizing sorted with
  | nil => rfl
  | cons m ms ih =>
    obtain ⟨other, rest⟩ := List.forall_mem_cons.1 (List.filter_eq_nil_iff.1 absent)
    rw [List.foldl_cons, ih (List.filter_eq_nil_iff.2 rest),
      filter_insert_other (by simpa using other)]

theorem filter_foldl_of_single (ascending : Ascending sorted)
    (single : (ms.filter fun m => m.1 == name) = [(name, v)]) :
    ((ms.foldl (fun sorted (k, v) => sorted.insert k v) sorted).filter fun m => m.1 == name) =
      [(name, v)] := by
  induction ms generalizing sorted with
  | nil => contradiction
  | cons m ms ih =>
    rw [List.filter_cons] at single
    rw [List.foldl_cons]
    split at single
    · obtain ⟨rfl, absent⟩ := List.cons.inj single
      rw [filter_foldl_of_absent absent, filter_insert_same ascending]
    · exact ih (ascending.insert _ _) single

theorem mem_foldl {m : String × Json}
    (member : m ∈ ms.foldl (fun sorted (k, v) => sorted.insert k v) sorted) :
    m ∈ ms ∨ m ∈ sorted := by
  induction ms generalizing sorted with
  | nil => exact .inr member
  | cons m' ms ih =>
    rcases ih member with later | inserted
    · exact .inl (List.mem_cons_of_mem _ later)
    rcases mem_insert inserted with rfl | before
    · exact .inl List.mem_cons_self
    · exact .inr before

/-- The members of the canonical form. -/
def canonical (ms : Members) : Members := sort (canonicalMembers ms)

theorem exists_of_mem_canonical {m : String × Json} (member : m ∈ ms.canonical) :
    ∃ m' ∈ ms, m = (m'.1, m'.2.canonical) := by
  rcases mem_foldl member with among | none
  · rw [canonicalMembers_eq] at among
    obtain ⟨m', stands, rfl⟩ := List.mem_map.1 among
    exact ⟨m', stands, rfl⟩
  · contradiction

theorem filter_canonicalMembers (ms : Members) (name : String) :
    ((canonicalMembers ms).filter fun m => m.1 == name) =
      (ms.filter fun m => m.1 == name).map fun m => (m.1, m.2.canonical) := by
  rw [canonicalMembers_eq, List.filter_map]
  rfl

theorem filter_canonical_of_absent (absent : (ms.filter fun m => m.1 == name) = []) :
    (ms.canonical.filter fun m => m.1 == name) = [] := by
  apply filter_foldl_of_absent
  rw [filter_canonicalMembers, absent]
  rfl

theorem filter_canonical_of_single (single : (ms.filter fun m => m.1 == name) = [(name, v)]) :
    (ms.canonical.filter fun m => m.1 == name) = [(name, v.canonical)] := by
  apply filter_foldl_of_single List.Pairwise.nil
  rw [filter_canonicalMembers, single]
  rfl

end Members

namespace Gathered

variable {α β : Type} {f : α → β} {g g' : Gathered (α → β)} {x y : Gathered α}

/-- Whatever is gathered by the one is gathered by the other. -/
def Refines (x y : Gathered α) : Prop := ∀ a, x = .ok a → y = .ok a

theorem Refines.map (f : α → β) (refines : x.Refines y) : (f <$> x).Refines (f <$> y) := by
  intro b made
  obtain ⟨a, read, rfl⟩ := map_eq_ok.1 made
  exact map_eq_ok.2 ⟨a, refines a read, rfl⟩

theorem Refines.seq (first : g.Refines g') (second : x.Refines y) :
    (g <*> x).Refines (g' <*> y) := by
  intro b made
  obtain ⟨f, a, read, read', rfl⟩ := seq_eq_ok.1 made
  exact seq_eq_ok.2 ⟨f, a, first f read, second a read', rfl⟩

end Gathered

namespace Parts

variable {α β : Type} {R : α → α → Prop} {p q : Parts α} {decode : α → Decoded β}

/-- The parts have the same fields, related to one another. -/
def Keeps (R : α → α → Prop) : Parts α → Parts α → Prop
  | .members ms, .members ms' => ∀ name,
    ((ms.filter fun m => m.1 == name) = [] → (ms'.filter fun m => m.1 == name) = []) ∧
    ∀ a, (ms.filter fun m => m.1 == name) = [(name, a)] →
      ∃ a', (ms'.filter fun m => m.1 == name) = [(name, a')] ∧ R a a'
  | .items xs, .items xs' => List.Forall₂ R xs xs'
  | _, _ => False

theorem forall₂_getElem? {xs ys : List α} (related : List.Forall₂ R xs ys) (i : Nat) :
    (xs[i]? = none ∧ ys[i]? = none) ∨ ∃ a b, xs[i]? = some a ∧ ys[i]? = some b ∧ R a b := by
  induction related generalizing i with
  | nil => exact .inl ⟨rfl, rfl⟩
  | cons first _ ih =>
    cases i with
    | zero => exact .inr ⟨_, _, rfl, rfl, first⟩
    | succ i => exact ih i

/-- What is read of a field is read of the related one. -/
def Reads (R : α → α → Prop) (decode : α → Decoded β) : Prop :=
  ∀ a a', R a a' → ∀ b, decode a = .ok b → decode a' = .ok b

theorem Keeps.field? (keeps : Keeps R p q) (reads : Reads R decode) (index : Nat)
    (name : String) : (p.field? index name decode).Refines (q.field? index name decode) := by
  intro b? read
  cases p with
  | members ms =>
    cases q with
    | items => exact keeps.elim
    | members ms' =>
      obtain ⟨none, one⟩ := keeps name
      obtain ⟨absent, rfl⟩ | ⟨a, b, single, decoded, rfl⟩ := absent_or_single read
      · exact field?_of_absent (none absent)
      · obtain ⟨a', single', related⟩ := one a single
        exact field?_of_single single' (reads a a' related b decoded)
  | items xs =>
    cases q with
    | members => exact keeps.elim
    | items xs' =>
      simp only [Parts.field?] at read ⊢
      obtain ⟨none, none'⟩ | ⟨a, a', stands, stands', related⟩ := forall₂_getElem? keeps index
      · rw [none] at read
        rw [none']
        exact read
      · rw [stands] at read
        rw [stands']
        dsimp only at read ⊢
        split at read
        · contradiction
        · rename_i b decoded
          rw [reads a a' related b decoded]
          exact read

theorem Keeps.required (keeps : Keeps R p q) (reads : Reads R decode) (index : Nat)
    (name : String) : (p.required index name decode).Refines (q.required index name decode) := by
  intro b read
  have field : p.field? index name decode = .ok (some b) := by
    unfold Parts.required at read
    split at read <;> simp_all
  rw [Parts.required, keeps.field? reads index name _ field]

theorem Keeps.defaulted (keeps : Keeps R p q) (reads : Reads R decode) (index : Nat)
    (name : String) (default : β) :
    (p.defaulted index name default decode).Refines (q.defaulted index name default decode) :=
  (keeps.field? reads index name).map _

/-- A record is made of the related fields. -/
theorem Keeps.record (keeps : Keeps R p q) {x y : Gathered β} (refines : x.Refines y)
    {stage : Stage} {title : Title} {b : β} (made : x.record stage title p = .ok b) :
    y.record stage title q = .ok b := by
  have gathered := Gathered.eq_ok_of_record made
  rw [refines b gathered]
  rw [gathered] at made
  cases p with
  | members ms =>
    cases q with
    | items => exact keeps.elim
    | members ms' => rfl
  | items xs =>
    cases q with
    | members => exact keeps.elim
    | items xs' =>
      simp only [Gathered.record] at made ⊢
      rwa [← List.Forall₂.length_eq keeps]

end Parts
/-! Values other than trees. -/

/-- What is read of a value is read of its canonical form. -/
def Sortable {α : Type} (read : Json → Decoded α) : Prop :=
  ∀ v a, read v = .ok a → read v.canonical = .ok a

theorem sortable_decodeString : Sortable decodeString := by
  intro v s decoded
  cases v with
  | string s => simpa [canonical] using decoded
  | null | bool b | int n | double d | array items | object ms => contradiction

theorem sortable_decodeOption : Sortable (decodeOption decodeString) := by
  intro v s decoded
  cases v with
  | null | string s => simpa [canonical] using decoded
  | bool b | int n | double d | array items | object ms => contradiction

namespace Naming

variable {α : Type} (naming : Naming α) (stage : Stage)

theorem sortable_decodeTag : Sortable (naming.decodeTag stage) := by
  intro v a decoded
  cases v with
  | string s | int n => simpa [canonical] using decoded
  | null | bool b | double d | array items | object ms => cases stage <;> contradiction

/-- A name has at most one member to sort. -/
theorem sortable_decode : Sortable (naming.decode stage) := by
  intro v a decoded
  cases v with
  | string s => simpa [canonical] using decoded
  | object ms =>
    rcases ms with _ | ⟨⟨name, payload⟩, _ | ⟨m, ms⟩⟩
    · contradiction
    · have sorted : canonical (.object [(name, payload)]) =
          .object [(name, payload.canonical)] := by
        simp [canonical, canonicalMembers, Members.sort, Members.insert]
      rw [sorted]
      obtain ⟨b, named, decoded⟩ := exists_of_bind_ok decoded
      rw [decode, named]
      cases payload with
      | null =>
        rw [canonical]
        exact decoded
      | object ms =>
        cases ms with
        | nil =>
          rw [canonical, canonicalMembers]
          exact decoded
        | cons => cases stage <;> contradiction
      | bool b | int n | double d | string s | array items => contradiction
    · contradiction
  | null | bool b | int n | double d | array items => contradiction

end Naming
end Json

theorem Literal.sortable_decode : Json.Sortable decode := by
  intro v l decoded
  cases v with
  | null | bool b | int n | double d | string s => simpa [Json.canonical] using decoded
  | array items | object ms => contradiction

namespace Expr
open Json

/-- The candidate is the canonical form of the other. -/
structure Candidate.Sorts (c c' : Candidate) : Prop where
  value : c'.value = c.value.canonical
  tree : ∀ e, c.tree () = .ok e → c'.tree () = .ok e
  trees : ∀ args, c.trees () = .ok args → c'.trees () = .ok args

theorem reads_value {α : Type} {read : Json → Decoded α} (sortable : Sortable read) :
    Parts.Reads Candidate.Sorts fun c => read c.value := by
  intro c c' sorts a decoded
  have read' := sortable c.value a decoded
  rwa [← sorts.value] at read'

theorem ofFields_refines {p q : Parts Candidate} (keeps : Parts.Keeps Candidate.Sorts p q)
    (kind : Kind) : (ofFields p kind).Refines (ofFields q kind) := by
  have tree := keeps.required (fun _ _ sorts => sorts.tree)
  have text := keeps.required (reads_value sortable_decodeString)
  have optionalText (index : Nat) (name : String) :=
    keeps.defaulted (reads_value sortable_decodeOption) index name none
  have named {α : Type} (naming : Naming α) :=
    keeps.required (reads_value (naming.sortable_decode .setAside))
  have type (index : Nat) := named AttributeType.naming index "type"
  cases kind with
  | and | or => exact .seq (.map _ (tree _ _)) (tree _ _)
  | not | isNull => exact .map _ (tree _ _)
  | compare => exact .seq (.seq (.map _ (named CompareOp.naming _ _)) (tree _ _)) (tree _ _)
  | math => exact .seq (.seq (.map _ (named MathOp.naming _ _)) (tree _ _)) (tree _ _)
  | isIn => exact .seq (.map _ (text _ _)) (tree _ _)
  | function =>
    exact .seq (.seq (.map _ (optionalText _ _)) (text _ _))
      (keeps.defaulted (fun _ _ sorts => sorts.trees) _ _ _)
  | constant =>
    exact .seq (.map _ (keeps.required (reads_value Literal.sortable_decode) _ _)) (type _)
  | streamVariable => exact .seq (.seq (.map _ (text _ _)) (optionalText _ _)) (type _)
  | storeVariable => exact .seq (.seq (.map _ (text _ _)) (text _ _)) (type _)

theorem keeps_candidateMembers {ms : Members}
    (each : ∀ m ∈ ms, (candidate m.2).Sorts (candidate m.2.canonical)) :
    Parts.Keeps Candidate.Sorts (.members (candidateMembers ms))
      (.members (candidateMembers ms.canonical)) := by
  intro name
  rw [candidateMembers_eq, candidateMembers_eq, List.filter_map, List.filter_map]
  constructor
  · intro absent
    have sorted := Members.filter_canonical_of_absent (List.map_eq_nil_iff.1 absent)
    exact List.map_eq_nil_iff.2 sorted
  · intro c single
    obtain ⟨⟨k, v⟩, found, made⟩ := List.map_eq_singleton_iff.1 single
    obtain ⟨rfl, rfl⟩ := Prod.mk.inj made
    have sorted := Members.filter_canonical_of_single found
    have among : (k, v) ∈ ms := List.mem_of_mem_filter (found ▸ List.mem_cons_self)
    exact ⟨candidate v.canonical, List.map_eq_singleton_iff.2 ⟨_, sorted, rfl⟩, each _ among⟩

-- The induction is that of the reader, over the document.
mutual

/-- The tree that a document holds is read from its canonical form. -/
theorem decode_canonical {stage : Stage} {v : Json} {e : Expr} (decoded : decode stage v = .ok e) :
    decode stage v.canonical = .ok e := by
  cases v with
  | object ms =>
    rw [decode] at decoded
    obtain ⟨⟨kind, parts⟩, split, made⟩ := exists_of_bind_ok decoded
    obtain ⟨tag, single, named, rfl⟩ := Naming.splitTag_object_eq_ok.1 split
    have keeps := keeps_candidateMembers (sorts_candidateMembers ms)
    have sorted : Kind.naming.splitTag stage "kind" expected (.object (Members.canonical ms)) =
        .ok (kind, .members (Members.canonical ms)) :=
      Naming.splitTag_object_eq_ok.2 ⟨tag.canonical, Members.filter_canonical_of_single single,
        Kind.naming.sortable_decodeTag stage tag kind named, rfl⟩
    have form : canonical (.object ms) = .object (Members.canonical ms) := by
      rw [canonical, Members.canonical]
    rw [form, decode, sorted]
    exact keeps.record (ofFields_refines keeps kind) made
  | array items =>
    cases items with
    | nil => contradiction
    | cons tag items =>
      rw [decode] at decoded
      obtain ⟨kind, named, made⟩ := exists_of_bind_ok decoded
      have keeps : Parts.Keeps Candidate.Sorts (.items (candidateItems items))
          (.items (candidateItems (canonicalItems items))) := sorts_candidateItems items
      rw [canonical, canonicalItems, decode,
        Kind.naming.sortable_decodeTag stage tag kind named]
      exact keeps.record (ofFields_refines keeps kind) made
  | null | bool b | int n | double d | string s => contradiction

theorem decodeAll_canonical {v : Json} {args : List Expr} (decoded : decodeAll v = .ok args) :
    decodeAll v.canonical = .ok args := by
  cases v with
  | array items =>
    rw [canonical]
    exact decodeItems_canonical decoded
  | null | bool b | int n | double d | string s | object ms => contradiction

theorem decodeItems_canonical {items : List Json} {args : List Expr}
    (decoded : decodeItems items = .ok args) :
    decodeItems (canonicalItems items) = .ok args := by
  cases items with
  | nil => exact decoded
  | cons item rest =>
    rw [decodeItems] at decoded
    obtain ⟨e, first, decoded⟩ := exists_of_bind_ok decoded
    obtain ⟨others, later, made⟩ := exists_of_bind_ok decoded
    rw [canonicalItems, decodeItems, decode_canonical first, decodeItems_canonical later]
    exact made

theorem sorts_candidateMembers :
    ∀ ms : Members, ∀ m ∈ ms, (candidate m.2).Sorts (candidate m.2.canonical)
  | [] => by simp
  | (_, v) :: rest => List.forall_mem_cons.2
    ⟨⟨rfl, fun _ => decode_canonical, fun _ => decodeAll_canonical⟩, sorts_candidateMembers rest⟩

theorem sorts_candidateItems : ∀ items : List Json,
    List.Forall₂ Candidate.Sorts (candidateItems items) (candidateItems (canonicalItems items))
  | [] => .nil
  | v :: rest => by
    rw [canonicalItems, candidateItems, candidateItems]
    exact .cons ⟨rfl, fun _ => decode_canonical, fun _ => decodeAll_canonical⟩
      (sorts_candidateItems rest)

end

end Expr
end ConditionQuery
