import ConditionQuery.Proofs.ConditionAnswers
import Mathlib.Data.List.Induction
import Mathlib.Data.List.Nodup

/-! The stored conditions over any sequence of operations, held against a ledger that is only added
to: it lists what has been created, and the ids of what has been deleted or evicted. The hub stores
what the ledger leaves, in the order of creation. -/
namespace ConditionQuery

/-- What is asked of the stored conditions. -/
inductive Operation where
  | create (arrival : Arrival) (wanted : CompileRequest)
  | list
  | get (id : String)
  | compiled (id : String)
  | delete (id : String)

namespace Operation

/-- The token that an operation uses. -/
def token? : Operation → Option String
  | .create arrival _ => some arrival.token
  | .list | .get _ | .compiled _ | .delete _ => none

/-- The condition that an operation creates, if it does. -/
def creation? (config : HubConfig) : Operation → Option StoredCondition
  | .create arrival wanted =>
    match config.compile wanted with
    | .ok c => some (Hub.entry arrival wanted c)
    | .error _ => none
  | .list | .get _ | .compiled _ | .delete _ => none

end Operation

/-- The document has the id of the condition, and its artifact. -/
def StoredCondition.HeldBy (stored : StoredCondition) (document : Json) : Prop :=
  document.get? "id" = some (.string stored.id) ∧
    document.get? "compiled" = some stored.compiled.encode

theorem StoredCondition.heldBy_encode (stored : StoredCondition) :
    stored.HeldBy stored.encode := ⟨rfl, rfl⟩

namespace Hub

/-- The hub after an operation. -/
def perform (hub : Hub) : Operation → Hub
  | .create arrival wanted =>
    match hub.create arrival wanted with
    | .ok (_, after) => after
    | .error _ => hub
  | .delete id =>
    match hub.remove id with
    | .ok after => after
    | .error _ => hub
  | .list | .get _ | .compiled _ => hub

def performAll (hub : Hub) (operations : List Operation) : Hub := operations.foldl perform hub

/-- The list, a look-up and a binding give the same condition for an id: the entry that is listed
and the document that is answered under it hold the artifact that a binding builds on. -/
structure Consistent (hub : Hub) : Prop where
  listed : ∃ entries, hub.list = .array entries ∧
    List.Forall₂ StoredCondition.HeldBy hub.store.conditions entries
  found : ∀ id stored, hub.find id = .ok stored ↔ stored ∈ hub.store.conditions ∧ stored.id = id
  answered : ∀ stored ∈ hub.store.conditions, ∀ visit : Visit, visit.request.method = .get →
    visit.request.Addresses .condition stored.id →
    ∃ document, hub.answer visit = .document .ok document ∧ stored.HeldBy document
  bound : ∀ stored ∈ hub.store.conditions, ∀ event,
    hub.bind stored.id event = (QuerySpec.build stored.compiled event).mapError .unbindable

end Hub

structure Ledger where
  /-- All conditions that have been created, the oldest first. -/
  created : List StoredCondition
  deleted : List String
  evicted : List String

namespace Ledger

def blank : Ledger := ⟨[], [], []⟩

/-- What is neither deleted nor evicted. -/
def left (ledger : Ledger) : List StoredCondition :=
  ledger.created.filter fun stored => stored.id ∉ ledger.deleted ∧ stored.id ∉ ledger.evicted

/-- The id of the oldest condition left, if there is no room for one more. -/
def outgoing (ledger : Ledger) (capacity : Nat) : Option String :=
  if capacity ≤ ledger.left.length then ledger.left.head?.map StoredCondition.id else none

def create (ledger : Ledger) (capacity : Nat) (stored : StoredCondition) : Ledger :=
  { ledger with
    created := ledger.created ++ [stored]
    evicted := ledger.evicted ++ (ledger.outgoing capacity).toList }

/-- Only what is left can be deleted. -/
def delete (ledger : Ledger) (id : String) : Ledger :=
  if id ∈ ledger.left.map StoredCondition.id then
    { ledger with deleted := ledger.deleted ++ [id] }
  else ledger

def enter (config : HubConfig) (ledger : Ledger) : Operation → Ledger
  | .create arrival wanted =>
    match config.compile wanted with
    | .ok c => ledger.create config.capacity (Hub.entry arrival wanted c)
    | .error _ => ledger
  | .delete id => ledger.delete id
  | .list | .get _ | .compiled _ => ledger

def ofOperations (config : HubConfig) (operations : List Operation) : Ledger :=
  operations.foldl (enter config) blank

theorem created_enter (config : HubConfig) (ledger : Ledger) (operation : Operation) :
    (ledger.enter config operation).created =
      ledger.created ++ (operation.creation? config).toList := by
  cases operation with
  | create arrival wanted =>
    cases compiled : config.compile wanted <;>
      simp [enter, create, Operation.creation?, compiled]
  | delete id =>
    simp only [enter, delete, Operation.creation?, Option.toList_none, List.append_nil]
    split <;> rfl
  | list | get id | compiled id => simp [enter, Operation.creation?]

theorem ofOperations_concat (config : HubConfig) (operations : List Operation)
    (operation : Operation) :
    ofOperations config (operations ++ [operation]) =
      (ofOperations config operations).enter config operation := by
  simp [ofOperations]

/-- What a ledger lists as created are the conditions that the operations create, in order. -/
theorem created_ofOperations (config : HubConfig) (operations : List Operation) :
    (ofOperations config operations).created =
      operations.filterMap (Operation.creation? config) := by
  induction operations using List.reverseRecOn with
  | nil => rfl
  | append_singleton operations operation ih =>
    rw [ofOperations_concat, created_enter, ih, List.filterMap_append]
    cases made : operation.creation? config <;> simp [made]

variable {ledger : Ledger}

/-- Only conditions that have been created are deleted or evicted. -/
def Marks (ledger : Ledger) : Prop :=
  ∀ id, id ∈ ledger.deleted ∨ id ∈ ledger.evicted → id ∈ ledger.created.map StoredCondition.id

theorem left_sublist (ledger : Ledger) : ledger.left.Sublist ledger.created := List.filter_sublist

/-- Without the first condition the others are left, as ids are distinct. -/
theorem filter_head (conditions : List StoredCondition)
    (distinct : (conditions.map StoredCondition.id).Nodup) :
    (conditions.filter fun stored =>
      conditions.head?.map StoredCondition.id ≠ some stored.id) = conditions.tail := by
  cases conditions with
  | nil => rfl
  | cons oldest rest =>
    obtain ⟨unlike, -⟩ := List.nodup_cons.1 distinct
    have others : ∀ stored ∈ rest, oldest.id ≠ stored.id := by
      intro stored member same
      exact unlike (same ▸ List.mem_map_of_mem member)
    simpa using others

theorem mem_of_outgoing {capacity : Nat} {id : String}
    (oldest : ledger.outgoing capacity = some id) : id ∈ ledger.left.map StoredCondition.id := by
  unfold outgoing at oldest
  split at oldest
  · obtain ⟨stored, first, rfl⟩ := Option.map_eq_some_iff.1 oldest
    exact List.mem_map_of_mem (List.mem_of_mem_head? first)
  · contradiction

theorem Marks.create {capacity : Nat} (marks : ledger.Marks) (stored : StoredCondition) :
    (ledger.create capacity stored).Marks := by
  intro id gone
  rw [Ledger.create, List.map_append, List.mem_append]
  left
  rcases gone with gone | gone
  · exact marks id (.inl gone)
  · rcases List.mem_append.1 gone with gone | oldest
    · exact marks id (.inr gone)
    · exact (ledger.left_sublist.map _).subset (mem_of_outgoing (Option.mem_toList.1 oldest))

theorem Marks.delete (marks : ledger.Marks) (id : String) : (ledger.delete id).Marks := by
  unfold Ledger.delete
  split
  · rename_i known
    intro other gone
    rcases gone with gone | gone
    · rcases List.mem_append.1 gone with gone | same
      · exact marks other (.inl gone)
      · obtain rfl := List.mem_singleton.1 same
        exact (ledger.left_sublist.map _).subset known
    · exact marks other (.inr gone)
  · exact marks

/-- A created condition is left after the others, of which the oldest goes if there is no room. -/
theorem left_create {stored : StoredCondition} {capacity : Nat} (marks : ledger.Marks)
    (distinct : ((ledger.created ++ [stored]).map StoredCondition.id).Nodup) :
    (ledger.create capacity stored).left =
      (if capacity ≤ ledger.left.length then ledger.left.tail else ledger.left) ++ [stored] := by
  rw [List.map_append, List.nodup_append] at distinct
  obtain ⟨distinct, -, unlike⟩ := distinct
  have unused : stored.id ∉ ledger.created.map StoredCondition.id :=
    fun member => unlike _ member _ (by simp) rfl
  have older : (ledger.left.filter fun other => ledger.outgoing capacity ≠ some other.id) =
      if capacity ≤ ledger.left.length then ledger.left.tail else ledger.left := by
    unfold outgoing
    split
    · exact filter_head _ ((ledger.left_sublist.map _).nodup distinct)
    · simp
  have undeleted : stored.id ∉ ledger.deleted := fun gone => unused (marks _ (.inl gone))
  have unevicted : stored.id ∉ ledger.evicted := fun gone => unused (marks _ (.inr gone))
  have stays : ledger.outgoing capacity ≠ some stored.id := fun oldest =>
    unused ((ledger.left_sublist.map _).subset (mem_of_outgoing oldest))
  rw [← older, left, left, create, List.filter_append, List.filter_filter]
  congr 1
  · apply List.filter_congr
    intro other _
    grind
  · simp [undeleted, unevicted, stays]

theorem left_delete (ledger : Ledger) (id : String) :
    (ledger.delete id).left = ledger.left.filter fun stored => stored.id ≠ id := by
  unfold delete
  split
  · rw [left, left, List.filter_filter]
    apply List.filter_congr
    intro stored _
    grind
  · rename_i unknown
    symm
    apply List.filter_eq_self.2
    intro stored member
    simpa using fun same : stored.id = id => unknown (same ▸ List.mem_map_of_mem member)

end Ledger

namespace Store

variable {store : Store}

/-- There is room for a condition, and no more are stored than there is room for. -/
structure Bounded (store : Store) : Prop where
  room : 0 < store.capacity
  size : store.size ≤ store.capacity

theorem bounded_empty (config : HubConfig) : (empty config.capacity).Bounded where
  room := Nat.le_max_left 1 config.historyCapacity
  size := Nat.zero_le _

theorem Bounded.length_retained_lt (bounded : store.Bounded) :
    store.retained.length < store.capacity := by
  unfold retained
  split
  · rw [List.length_tail]
    exact Nat.lt_of_le_of_lt (Nat.sub_le_sub_right bounded.size 1)
      (Nat.sub_one_lt_of_lt bounded.room)
  · rename_i roomy
    exact Nat.lt_of_not_le roomy

theorem Bounded.insert (bounded : store.Bounded) (stored : StoredCondition) :
    (store.insert stored).Bounded where
  room := bounded.room
  size := by
    rw [Store.size, Store.insert, List.length_append]
    exact bounded.length_retained_lt

theorem Bounded.erase (bounded : store.Bounded) (id : String) : (store.erase id).Bounded where
  room := bounded.room
  size := List.eraseP_sublist.length_le.trans bounded.size

theorem get?_eq_some (distinct : (store.conditions.map StoredCondition.id).Nodup) {id : String}
    {stored : StoredCondition} :
    store.get? id = some stored ↔ stored ∈ store.conditions ∧ stored.id = id := by
  constructor
  · intro found
    exact ⟨List.mem_of_find?_eq_some found, by simpa using List.find?_some found⟩
  · rintro ⟨member, rfl⟩
    cases found : store.get? stored.id with
    | none => exact absurd (List.find?_eq_none.1 found stored member) (by simp)
    | some other =>
      have same : other.id = stored.id := by simpa using List.find?_some found
      rw [List.inj_on_of_nodup_map distinct (List.mem_of_find?_eq_some found) member same]

/-- Erasing an id takes out the condition with the id, if there is one. -/
theorem conditions_erase (distinct : (store.conditions.map StoredCondition.id).Nodup)
    (id : String) :
    (store.erase id).conditions = store.conditions.filter fun stored => stored.id ≠ id := by
  unfold erase
  generalize store.conditions = conditions at distinct
  induction conditions with
  | nil => rfl
  | cons first rest ih =>
    obtain ⟨unlike, distinct⟩ := List.nodup_cons.1 distinct
    by_cases same : first.id = id
    · have others : ∀ stored ∈ rest, stored.id ≠ id := by
        intro stored member other
        exact unlike (same.trans other.symm ▸ List.mem_map_of_mem member)
      have kept : (rest.filter fun stored => stored.id ≠ id) = rest :=
        List.filter_eq_self.2 (by simpa using others)
      rw [List.filter_cons, kept]
      simp [same]
    · simpa [same] using ih distinct

end Store

namespace Hub

theorem perform_create (hub : Hub) (arrival : Arrival) (wanted : CompileRequest) :
    hub.perform (.create arrival wanted) =
      match hub.config.compile wanted with
      | .ok c => { hub with store := hub.store.insert (entry arrival wanted c) }
      | .error _ => hub := by
  cases compiled : hub.config.compile wanted with
  | error r =>
    rw [perform, create, compiled]
    rfl
  | ok c =>
    rw [perform, create, compiled]
    rfl

theorem perform_delete (hub : Hub) (id : String) :
    hub.perform (.delete id) = { hub with store := hub.store.erase id } := by
  rw [perform, remove, find]
  cases found : hub.store.get? id with
  | some stored => rfl
  | none =>
    have others : ∀ stored ∈ hub.store.conditions, ¬ (stored.id == id) = true :=
      List.find?_eq_none.1 found
    simp only [Store.erase, List.eraseP_of_forall_not others]
    rfl

/-- The hub stores what the ledger leaves. -/
structure Follows (hub : Hub) (config : HubConfig) (ledger : Ledger) : Prop where
  configured : hub.config = config
  capacity : hub.store.capacity = config.capacity
  stored : hub.store.conditions = ledger.left
  bounded : hub.store.Bounded
  marks : ledger.Marks

variable {hub : Hub} {config : HubConfig} {ledger : Ledger}

theorem Follows.create {stored : StoredCondition} (follows : hub.Follows config ledger)
    (distinct : ((ledger.created ++ [stored]).map StoredCondition.id).Nodup) :
    { hub with store := hub.store.insert stored }.Follows config
      (ledger.create config.capacity stored) where
  configured := follows.configured
  capacity := follows.capacity
  stored := by
    simp only [Store.insert, Store.retained, Store.size, follows.stored, follows.capacity,
      Ledger.left_create follows.marks distinct]
  bounded := follows.bounded.insert stored
  marks := follows.marks.create stored

theorem Follows.delete (follows : hub.Follows config ledger)
    (distinct : (ledger.created.map StoredCondition.id).Nodup) (id : String) :
    { hub with store := hub.store.erase id }.Follows config (ledger.delete id) where
  configured := follows.configured
  capacity := follows.capacity
  stored := by
    have distinct := (ledger.left_sublist.map StoredCondition.id).nodup distinct
    rw [← follows.stored] at distinct
    rw [Store.conditions_erase distinct, Ledger.left_delete, follows.stored]
  bounded := follows.bounded.erase id
  marks := follows.marks.delete id

theorem Follows.perform {operation : Operation} (follows : hub.Follows config ledger)
    (distinct : ((ledger.enter config operation).created.map StoredCondition.id).Nodup) :
    (hub.perform operation).Follows config (ledger.enter config operation) := by
  rw [Ledger.created_enter] at distinct
  obtain rfl := follows.configured
  cases operation with
  | create arrival wanted =>
    cases compiled : hub.config.compile wanted with
    | error r => simpa only [perform_create, Ledger.enter, compiled]
    | ok c =>
      simp only [Operation.creation?, compiled, Option.toList_some] at distinct
      simpa only [perform_create, Ledger.enter, compiled] using follows.create distinct
  | delete id =>
    rw [perform_delete]
    exact follows.delete (by simpa [Operation.creation?] using distinct) id
  | list | get id | compiled id => exact follows

theorem follows_performAll {operations : List Operation}
    (distinct :
      ((Ledger.ofOperations config operations).created.map StoredCondition.id).Nodup) :
    ((start config).performAll operations).Follows config
      (Ledger.ofOperations config operations) := by
  induction operations using List.reverseRecOn with
  | nil =>
    exact ⟨rfl, rfl, rfl, Store.bounded_empty config, fun id gone => gone.elim nofun nofun⟩
  | append_singleton operations operation ih =>
    rw [Ledger.ofOperations_concat] at distinct ⊢
    rw [performAll, List.foldl_append]
    refine (ih ?_).perform distinct
    rw [Ledger.created_enter, List.map_append] at distinct
    exact distinct.of_append_left

/-- The ids that are given are made of the tokens that are used. -/
theorem ids_sublist (config : HubConfig) (operations : List Operation) :
    ((operations.filterMap (Operation.creation? config)).map StoredCondition.id).Sublist
      ((operations.filterMap Operation.token?).map ("cond-" ++ ·)) := by
  induction operations with
  | nil => exact .slnil
  | cons operation operations ih =>
    cases operation with
    | create arrival wanted =>
      cases compiled : config.compile wanted with
      | error r =>
        have uncreated : (Operation.create arrival wanted).creation? config = none := by
          simp only [Operation.creation?, compiled]
        rw [List.filterMap_cons_none uncreated]
        exact ih.cons (newId arrival)
      | ok c =>
        have created : (Operation.create arrival wanted).creation? config =
            some (entry arrival wanted c) := by
          simp only [Operation.creation?, compiled]
        rw [List.filterMap_cons_some created]
        exact ih.cons_cons (newId arrival)
    | list | get id | compiled id | delete id => exact ih

/-- Fresh tokens give distinct ids. -/
theorem distinct_of_fresh (config : HubConfig) {operations : List Operation}
    (fresh : (operations.filterMap Operation.token?).Nodup) :
    ((Ledger.ofOperations config operations).created.map StoredCondition.id).Nodup := by
  rw [Ledger.created_ofOperations]
  refine (ids_sublist config operations).nodup (fresh.map ?_)
  intro token token' same
  simpa only [String.append_right_inj] using same

theorem find_eq_ok (distinct : (hub.store.conditions.map StoredCondition.id).Nodup) {id : String}
    {stored : StoredCondition} :
    hub.find id = .ok stored ↔ stored ∈ hub.store.conditions ∧ stored.id = id := by
  rw [← Store.get?_eq_some distinct, find]
  cases hub.store.get? id <;> simp

theorem consistent_of_distinct (distinct : (hub.store.conditions.map StoredCondition.id).Nodup) :
    hub.Consistent where
  listed := by
    refine ⟨_, rfl, List.forall₂_map_right_iff.2 (List.forall₂_same.2 ?_)⟩
    exact fun stored _ => stored.heldBy_encode
  found id stored := find_eq_ok distinct
  answered stored member visit asked addressed := by
    refine ⟨stored.encode, ?_, stored.heldBy_encode⟩
    rw [answer_get asked addressed, (find_eq_ok distinct).2 ⟨member, rfl⟩]
  bound stored member event := by
    rw [bind, (find_eq_ok distinct).2 ⟨member, rfl⟩]
    rfl

/-- What is created of a request is what the request asks to compile. -/
theorem compiled_of_creation {operations : List Operation} {stored : StoredCondition}
    (created : stored ∈ operations.filterMap (Operation.creation? config)) :
    ∃ arrival wanted options,
      .create arrival wanted ∈ operations ∧ stored.id = newId arrival ∧
      stored.source = wanted.condition ∧ config.resolve wanted = .ok options ∧
      stored.source.compile options = .ok stored.compiled := by
  obtain ⟨operation, member, made⟩ := List.mem_filterMap.1 created
  cases operation with
  | create arrival wanted =>
    cases compiled : config.compile wanted with
    | error r => simp [Operation.creation?, compiled] at made
    | ok c =>
      obtain rfl : entry arrival wanted c = stored := by
        simpa [Operation.creation?, compiled] using made
      obtain ⟨options, resolved, result⟩ := HubConfig.compile_ok compiled
      exact ⟨arrival, wanted, options, member, rfl, rfl, resolved, result⟩
  | list | get id | compiled id | delete id => contradiction

/-- After any operations at most as many conditions are stored as there is room for, under distinct
ids: those that have been created and neither deleted nor evicted, in the order of creation, each
compiled as its request asked. -/
theorem stored_of_operations (config : HubConfig) (operations : List Operation)
    (fresh : (operations.filterMap Operation.token?).Nodup) :
    let hub := (start config).performAll operations
    let ledger := Ledger.ofOperations config operations
    hub.store.size ≤ max 1 config.historyCapacity ∧
    (hub.store.conditions.map StoredCondition.id).Nodup ∧
    ledger.created = operations.filterMap (Operation.creation? config) ∧
    hub.store.conditions = ledger.left ∧
    (∀ stored ∈ hub.store.conditions, ∃ arrival wanted options,
      .create arrival wanted ∈ operations ∧ stored.id = newId arrival ∧
      stored.source = wanted.condition ∧ config.resolve wanted = .ok options ∧
      stored.source.compile options = .ok stored.compiled) ∧
    hub.Consistent := by
  intro hub ledger
  have distinct := distinct_of_fresh config fresh
  have follows : hub.Follows config ledger := follows_performAll distinct
  have unlike : (hub.store.conditions.map StoredCondition.id).Nodup := by
    rw [follows.stored]
    exact (ledger.left_sublist.map _).nodup distinct
  have bounded := follows.bounded.size
  rw [follows.capacity] at bounded
  refine ⟨bounded, unlike, Ledger.created_ofOperations config operations, follows.stored, ?_,
    consistent_of_distinct unlike⟩
  intro stored member
  rw [follows.stored] at member
  apply compiled_of_creation
  rw [← Ledger.created_ofOperations]
  exact ledger.left_sublist.subset member

/-- A condition on a price, for a table that may be left open. -/
def cheap (table : Option String) : CompileRequest :=
  ⟨table, none, .compare .lessThan (.storeVariable "stock" "price" .int) (.constant (.long 5) .int)⟩

theorem stored_of_refusedDeletedEvicted :
    let config : HubConfig := ⟨2, none, "S", false⟩
    let operations : List Operation := [.create ⟨"1", "now", 0⟩ (cheap "T"),
      .create ⟨"2", "now", 0⟩ (cheap none), .create ⟨"3", "now", 0⟩ (cheap "T"),
      .delete "cond-1", .create ⟨"4", "now", 0⟩ (cheap "T"), .list,
      .create ⟨"5", "now", 0⟩ (cheap "T")]
    (operations.filterMap Operation.token?).Nodup ∧
      ((start config).performAll operations).store.conditions.map StoredCondition.id =
        ["cond-4", "cond-5"] ∧
      (Ledger.ofOperations config operations).deleted = ["cond-1"] ∧
      (Ledger.ofOperations config operations).evicted = ["cond-3"] := by
  intro config operations
  have fresh : (operations.filterMap Operation.token?).Nodup := by decide
  obtain ⟨-, -, -, stored, -⟩ := stored_of_operations config operations fresh
  refine ⟨fresh, ?_, by decide +kernel, by decide +kernel⟩
  rw [stored]
  decide +kernel

end Hub
end ConditionQuery
