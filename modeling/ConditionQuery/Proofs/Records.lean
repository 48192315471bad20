import ConditionQuery.Json.Decode
import Mathlib.Data.List.Perm.Basic

/-! Fields of records. A field that is read comes from a value of the record, and an object with
different keys gives its fields whatever the order of its members, so its canonical form gives the
same. -/
namespace ConditionQuery

/-- Entries with different keys that are put in one by one are all there in the end. -/
theorem perm_foldl {κ β : Type} {insert : κ → β → List (κ × β) → List (κ × β)}
    (perm : ∀ k b sorted, k ∉ sorted.map Prod.fst → (insert k b sorted).Perm ((k, b) :: sorted))
    {entries sorted : List (κ × β)} (distinct : ((entries ++ sorted).map Prod.fst).Nodup) :
    (entries.foldl (fun sorted entry => insert entry.1 entry.2 sorted) sorted).Perm
      (entries ++ sorted) := by
  induction entries generalizing sorted with
  | nil => exact .refl _
  | cons entry entries ih =>
    obtain ⟨k, b⟩ := entry
    obtain ⟨new, distinct⟩ := List.nodup_cons.1 distinct
    have unsorted : k ∉ sorted.map Prod.fst := by
      intro member
      exact new (by simp [member])
    have moved := ((perm k b sorted unsorted).append_left entries).trans List.perm_middle
    have keys : ((entries ++ insert k b sorted).map Prod.fst).Nodup :=
      (moved.map Prod.fst).nodup_iff.2 (List.nodup_cons.2 ⟨new, distinct⟩)
    exact (ih keys).trans moved

namespace Json

namespace Members

theorem perm_insert {key : String} {value : Json} {ms : Members}
    (new : key ∉ ms.map Prod.fst) : (insert key value ms).Perm ((key, value) :: ms) := by
  induction ms with
  | nil => exact .refl _
  | cons m ms ih =>
    obtain ⟨k, v⟩ := m
    obtain ⟨differs, later⟩ := List.ne_and_not_mem_of_not_mem_cons new
    simp only [insert]
    split
    · exact .refl _
    · exact ((ih later).cons (k, v)).trans (.swap ..)

/-- Sorting rearranges members with different keys. -/
theorem perm_sort {ms : Members} (distinct : (ms.map Prod.fst).Nodup) : (sort ms).Perm ms := by
  have keys : ((ms ++ []).map Prod.fst).Nodup := by simpa using distinct
  have sorted := perm_foldl (fun _ _ _ new => perm_insert new) keys
  rwa [List.append_nil] at sorted

end Members

/-- The function arranges the members of objects with different keys, at every level, and changes
nothing else. -/
structure Arranges (f : Json → Json) : Prop where
  null : f .null = .null
  bool : ∀ b, f (.bool b) = .bool b
  int : ∀ n, f (.int n) = .int n
  double : ∀ d, f (.double d) = .double d
  string : ∀ s, f (.string s) = .string s
  array : ∀ items, f (.array items) = .array (items.map f)
  object : ∀ ms : Members, (ms.map Prod.fst).Nodup →
    ∃ ms', f (.object ms) = .object ms' ∧ ms'.Perm (ms.map fun m => (m.1, f m.2))

theorem arranges_id : Arranges id where
  null := rfl
  bool _ := rfl
  int _ := rfl
  double _ := rfl
  string _ := rfl
  array items := by simp
  object ms _ := ⟨ms, rfl, by simp⟩

theorem canonicalItems_eq (items : List Json) : canonicalItems items = items.map canonical := by
  induction items with
  | nil => rfl
  | cons item rest ih => simp [canonicalItems, ih]

theorem canonicalMembers_eq (ms : Members) :
    canonicalMembers ms = ms.map fun m => (m.1, canonical m.2) := by
  induction ms with
  | nil => rfl
  | cons m rest ih => simp [canonicalMembers, ih]

theorem arranges_canonical : Arranges canonical where
  null := by simp [canonical]
  bool _ := by simp [canonical]
  int _ := by simp [canonical]
  double _ := by simp [canonical]
  string _ := by simp [canonical]
  array items := by simp [canonical, canonicalItems_eq]
  object ms distinct := by
    refine ⟨_, by rw [canonical], ?_⟩
    rw [canonicalMembers_eq]
    apply Members.perm_sort
    simpa [Function.comp_def] using distinct

namespace Gathered

variable {α β : Type}

theorem seq_eq_ok {g : Gathered (α → β)} {x : Gathered α} {b : β} :
    g <*> x = .ok b ↔ ∃ f a, g = .ok f ∧ x = .ok a ∧ f a = b := by
  constructor
  · intro gathered
    cases g <;> cases x <;> simp [Seq.seq, ap] at gathered ⊢
    · exact gathered
    · split at gathered <;> simp at gathered
  · rintro ⟨f, a, rfl, rfl, rfl⟩
    rfl

theorem map_eq_ok {f : α → β} {x : Gathered α} {b : β} :
    f <$> x = .ok b ↔ ∃ a, x = .ok a ∧ f a = b := by
  have started : f <$> x = Gathered.ok f <*> x := rfl
  simp [started, seq_eq_ok]

theorem eq_ok_of_record {stage : Stage} {title : Title} {parts : Parts α} {g : Gathered β} {b : β}
    (made : g.record stage title parts = .ok b) : g = .ok b := by
  cases g with
  | missing index name => cases parts <;> simp [record, reject] at made
  | failed place failure => simp [record] at made
  | ok a =>
    cases parts with
    | members ms => exact congrArg Gathered.ok (Except.ok.inj made)
    | items xs =>
      simp only [record] at made
      split at made
      · exact congrArg Gathered.ok (Except.ok.inj made)
      · cases stage <;> simp [reject] at made

end Gathered

namespace Parts

variable {α β : Type}

/-- The values that the fields are read from. -/
def values : Parts α → List α
  | .members ms => ms.map Prod.snd
  | .items xs => xs

theorem exists_of_field? {parts : Parts α} {index : Nat} {name : String}
    {decode : α → Decoded β} {b : β} (found : parts.field? index name decode = .ok (some b)) :
    ∃ a ∈ parts.values, decode a = .ok b := by
  cases parts with
  | members ms =>
    simp only [field?] at found
    split at found
    · simp at found
    · rename_i m place again only
      have member : (m, place) ∈ ms.zipIdx := List.mem_of_mem_filter (only ▸ List.mem_cons_self)
      split at found
      · simp at found
      · rename_i b' decoded
        split at found
        · obtain rfl : b' = b := by simpa using found
          exact ⟨m.2, List.mem_map_of_mem (List.fst_mem_of_mem_zipIdx member), decoded⟩
        · simp at found
  | items xs =>
    simp only [field?] at found
    split at found
    · simp at found
    · rename_i x stands
      split at found
      · simp at found
      · rename_i b' decoded
        obtain rfl : b' = b := by simpa using found
        exact ⟨x, List.mem_of_getElem? stands, decoded⟩

theorem exists_of_required {parts : Parts α} {index : Nat} {name : String}
    {decode : α → Decoded β} {b : β} (found : parts.required index name decode = .ok b) :
    ∃ a ∈ parts.values, decode a = .ok b := by
  have field : parts.field? index name decode = .ok (some b) := by
    unfold required at found
    split at found <;> simp_all
  exact exists_of_field? field

theorem exists_of_defaulted {parts : Parts α} {index : Nat} {name : String} {b default : β}
    {decode : α → Decoded β} (found : parts.defaulted index name default decode = .ok b) :
    b = default ∨ ∃ a ∈ parts.values, decode a = .ok b := by
  obtain ⟨b?, field, rfl⟩ := Gathered.map_eq_ok.1 found
  cases b? with
  | none => exact .inl rfl
  | some b => exact .inr (exists_of_field? field)

/-- The parts are the members in some order, and their keys differ. -/
structure Are (parts : Parts α) (ms : List (String × α)) : Prop where
  order : ∃ ms', parts = .members ms' ∧ ms'.Perm ms
  distinct : (ms.map Prod.fst).Nodup

variable {parts : Parts α} {ms : List (String × α)} {index : Nat} {name : String} {a : α} {b : β}
  {decode : α → Decoded β}

theorem filter_eq_of_mem (distinct : (ms.map Prod.fst).Nodup) (member : (name, a) ∈ ms) :
    ms.filter (fun m => m.1 == name) = [(name, a)] := by
  induction ms with
  | nil => simp at member
  | cons m ms ih =>
    obtain ⟨new, distinct⟩ := List.nodup_cons.1 distinct
    rcases List.mem_cons.1 member with rfl | member
    · have others : ms.filter (fun m => m.1 == name) = [] := by
        rw [List.filter_eq_nil_iff]
        intro m among same
        exact new (List.mem_map.2 ⟨m, among, by simpa using same⟩)
      simp [others]
    · have differs : m.1 ≠ name := by
        intro same
        exact new (List.mem_map.2 ⟨(name, a), member, same.symm⟩)
      simpa [differs] using ih distinct member

/-- A field is looked for among the members with its name. -/
theorem map_filter_zipIdx (ms : List (String × α)) (name : String) :
    (ms.zipIdx.filter fun m => m.1.1 == name).map Prod.fst =
      ms.filter fun m => m.1 == name := by
  have members : ms.zipIdx.map Prod.fst = ms := List.zipIdx_map_fst 0 ms
  conv => rhs; rw [← members, List.filter_map]
  rfl

/-- A field is missing where no member has its name. -/
theorem field?_of_absent (absent : (ms.filter fun m => m.1 == name) = []) :
    (members ms).field? index name decode = .ok none := by
  rw [← map_filter_zipIdx, List.map_eq_nil_iff] at absent
  simp only [field?, absent]

theorem field?_of_single (single : (ms.filter fun m => m.1 == name) = [(name, a)])
    (decoded : decode a = .ok b) : (members ms).field? index name decode = .ok (some b) := by
  rw [← map_filter_zipIdx, List.map_eq_singleton_iff] at single
  obtain ⟨⟨m, place⟩, found, rfl⟩ := single
  simp only [field?, found, decoded]

/-- A field that is read has one member, or none. -/
theorem absent_or_single {b? : Option β} (read : (members ms).field? index name decode = .ok b?) :
    ((ms.filter fun m => m.1 == name) = [] ∧ b? = none) ∨
      ∃ a b, (ms.filter fun m => m.1 == name) = [(name, a)] ∧ decode a = .ok b ∧ b? = some b := by
  have named : ∀ m ∈ ms.filter fun m => m.1 == name, m.1 = name := fun m member =>
    beq_iff_eq.1 (List.mem_filter.1 member).2
  rw [← map_filter_zipIdx] at named ⊢
  simp only [field?] at read
  split at read
  · rename_i absent
    exact .inl ⟨by rw [absent]; rfl, (Gathered.ok.inj read).symm⟩
  · rename_i m place again found
    rw [found] at named ⊢
    obtain ⟨k, a⟩ := m
    obtain rfl : k = name := named _ List.mem_cons_self
    split at read
    · contradiction
    · rename_i b decoded
      cases again with
      | nil => exact .inr ⟨a, b, rfl, decoded, (Gathered.ok.inj read).symm⟩
      | cons => contradiction

theorem Are.field? (are : parts.Are ms) (member : (name, a) ∈ ms) (decoded : decode a = .ok b) :
    parts.field? index name decode = .ok (some b) := by
  obtain ⟨ms', rfl, order⟩ := are.order
  have single := order.filter fun m => m.1 == name
  rw [filter_eq_of_mem are.distinct member, List.perm_singleton] at single
  exact field?_of_single single decoded

theorem Are.required (are : parts.Are ms) (member : (name, a) ∈ ms) (decoded : decode a = .ok b) :
    parts.required index name decode = .ok b := by
  rw [Parts.required, are.field? member decoded]

theorem Are.defaulted {default : β} (are : parts.Are ms) (member : (name, a) ∈ ms)
    (decoded : decode a = .ok b) : parts.defaulted index name default decode = .ok b := by
  rw [Parts.defaulted, are.field? member decoded]
  rfl

theorem Are.absent {default : β} (are : parts.Are ms) (absent : name ∉ ms.map Prod.fst) :
    parts.defaulted index name default decode = .ok default := by
  obtain ⟨ms', rfl, order⟩ := are.order
  have none : ms'.filter (fun m => m.1 == name) = [] := by
    rw [List.filter_eq_nil_iff]
    intro m member same
    exact absent (List.mem_map.2 ⟨m, order.mem_iff.1 member, by simpa using same⟩)
  rw [Parts.defaulted, field?_of_absent none]
  rfl

theorem Are.map {ms' : List (String × α)} (are : (members ms').Are ms) (g : α → β) :
    (members (ms'.map fun m => (m.1, g m.2))).Are (ms.map fun m => (m.1, g m.2)) := by
  obtain ⟨_, same, order⟩ := are.order
  obtain rfl := Parts.members.inj same
  refine ⟨⟨_, rfl, order.map _⟩, ?_⟩
  simpa [Function.comp_def] using are.distinct

theorem Are.record (are : parts.Are ms) (stage : Stage) (title : Title) (b : β) :
    (Gathered.ok b).record stage title parts = .ok b := by
  obtain ⟨ms', rfl, -⟩ := are.order
  rfl

end Parts

namespace Naming

variable {α : Type} {naming : Naming α}

/-- Each value is the one that its name stands for. -/
def Unambiguous (naming : Naming α) : Prop := ∀ a, naming.find? (naming.name a) = some a

theorem Unambiguous.decodeName (unambiguous : naming.Unambiguous) (a : α) :
    naming.decodeName (naming.name a) = .ok a := by
  rw [Naming.decodeName, unambiguous a]

theorem Unambiguous.decode (unambiguous : naming.Unambiguous) (stage : Stage) (a : α) :
    naming.decode stage (.string (naming.name a)) = .ok a :=
  unambiguous.decodeName a

/-- A tag is found where one member has its key. -/
theorem splitTag_object_eq_ok {stage : Stage} {tag expected : String} {ms : Members} {a : α}
    {parts : Parts Json} : naming.splitTag stage tag expected (.object ms) = .ok (a, parts) ↔
      ∃ v, (ms.filter fun m => m.1 == tag) = [(tag, v)] ∧ naming.decodeTag stage v = .ok a ∧
        parts = .members ms := by
  have named : ∀ m ∈ ms.filter fun m => m.1 == tag, m.1 = tag := fun m member =>
    beq_iff_eq.1 (List.mem_filter.1 member).2
  rw [splitTag]
  split
  · rename_i absent
    rw [absent]
    simp [reject]
  · rename_i k v again found
    obtain rfl : k = tag := named _ (found ▸ List.mem_cons_self)
    rw [found]
    cases decoded : naming.decodeTag stage v with
    | error failure =>
      constructor
      · exact nofun
      · rintro ⟨_, ⟨⟩, decoded', -⟩
        cases decoded.symm.trans decoded'
    | ok b =>
      cases again with
      | nil =>
        constructor
        · rintro ⟨⟩
          exact ⟨v, rfl, decoded, rfl⟩
        · rintro ⟨_, ⟨⟩, decoded', rfl⟩
          cases decoded.symm.trans decoded'
          rfl
      | cons m again =>
        constructor
        · exact nofun
        · rintro ⟨_, ⟨⟩, -⟩

theorem Unambiguous.splitTag (unambiguous : naming.Unambiguous) {stage : Stage}
    {tag expected : String} {a : α} {ms ms' : Members} (are : (Parts.members ms').Are ms)
    (member : (tag, .string (naming.name a)) ∈ ms) :
    naming.splitTag stage tag expected (.object ms') = .ok (a, .members ms') := by
  obtain ⟨_, same, order⟩ := are.order
  obtain rfl := Parts.members.inj same
  have single := order.filter fun m => m.1 == tag
  rw [Parts.filter_eq_of_mem are.distinct member, List.perm_singleton] at single
  exact splitTag_object_eq_ok.2 ⟨_, single, unambiguous.decodeName a, rfl⟩

end Naming

section Arranged

variable {f : Json → Json} (order : Arranges f)

include order

theorem Arranges.members (ms : Members) (distinct : (ms.map Prod.fst).Nodup) :
    ∃ ms', f (.object ms) = .object ms' ∧
      (Parts.members ms').Are (ms.map fun m => (m.1, f m.2)) := by
  obtain ⟨ms', arranged, perm⟩ := order.object ms distinct
  refine ⟨ms', arranged, ⟨_, rfl, perm⟩, ?_⟩
  simpa [Function.comp_def] using distinct

theorem Arranges.decodeString (s : String) : Json.decodeString (f (.string s)) = .ok s := by
  rw [order.string]
  rfl

theorem Arranges.decodeName {α : Type} {naming : Naming α} (unambiguous : naming.Unambiguous)
    (stage : Stage) (a : α) : naming.decode stage (f (.string (naming.name a))) = .ok a := by
  rw [order.string]
  exact unambiguous.decode stage a

end Arranged

theorem mapM_map {ε α β : Type} {f : α → Except ε β} {g : β → α} {xs : List β}
    (each : ∀ x ∈ xs, f (g x) = .ok x) : (xs.map g).mapM f = .ok xs := by
  induction xs with
  | nil => rfl
  | cons x xs ih =>
    obtain ⟨first, rest⟩ := List.forall_mem_cons.1 each
    rw [List.map_cons, List.mapM_cons, first, ih rest]
    rfl

end Json
end ConditionQuery
