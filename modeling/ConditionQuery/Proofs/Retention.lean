import ConditionQuery.Proofs.ConditionAnswers
import ConditionQuery.Proofs.Ledger

/-! How long a created condition can be asked for: until it is deleted, or until as many others have
been created after it as there is room for. What has gone does not come back. -/
namespace ConditionQuery.Hub

variable {hub : Hub} {visit : Visit} {id : String}

/-- The hub after visits, one after the other. -/
def afterAll (hub : Hub) (visits : List Visit) : Hub := visits.foldl next hub

/-- The visits, each with the hub that it finds. -/
def trail (hub : Hub) : List Visit → List (Hub × Visit)
  | [] => []
  | visit :: rest => (hub, visit) :: trail (hub.next visit) rest

instance (hub : Hub) (visit : Visit) : Decidable (hub.Creates visit) :=
  decidable_of_iff (visit.request.method = .post ∧
      Route.ofPath? visit.request.path = some .conditions ∧
      (hub.answer visit).status = .created)
    ⟨fun ⟨posted, routed, answered⟩ => ⟨posted, routed, answered⟩,
      fun creates => ⟨creates.posted, creates.routed, creates.answered⟩⟩

/-- Those of the visits that create a condition. -/
def creating (hub : Hub) (visits : List Visit) : List Visit :=
  ((hub.trail visits).filter fun (hub, visit) => hub.Creates visit).map Prod.snd

theorem creating_cons (hub : Hub) (visit : Visit) (visits : List Visit) :
    hub.creating (visit :: visits) =
      (if hub.Creates visit then [visit] else []) ++ (hub.next visit).creating visits := by
  simp only [creating, trail, List.filter_cons, decide_eq_true_eq]
  split <;> rfl

theorem capacity_next (hub : Hub) (visit : Visit) :
    (hub.next visit).store.capacity = hub.store.capacity := by
  rcases hub.next_cases visit with ⟨-, after⟩ | ⟨-, wanted, c, -, -, -, after⟩ |
    ⟨id, stored, -, -, after⟩ <;>
  simp only [after, Store.insert, Store.erase]

/-- The condition is stored, and at most so many newer ones are. -/
def Shelves (hub : Hub) (stored : StoredCondition) (newer : Nat) : Prop :=
  ∃ front back, hub.store.conditions = front ++ stored :: back ∧ back.length ≤ newer

section
variable {stored : StoredCondition} {newer : Nat}

theorem Shelves.weaken {more : Nat} (shelves : hub.Shelves stored newer) (bound : newer ≤ more) :
    hub.Shelves stored more := by
  obtain ⟨front, back, split, length⟩ := shelves
  exact ⟨front, back, split, length.trans bound⟩

theorem Shelves.insert (shelves : hub.Shelves stored newer)
    (room : newer + 1 < hub.store.capacity) (newest : StoredCondition) :
    { hub with store := hub.store.insert newest }.Shelves stored (newer + 1) := by
  obtain ⟨front, back, split, length⟩ := shelves
  simp only [Shelves, Store.insert, Store.retained, Store.size, split]
  have longer : (back ++ [newest]).length ≤ newer + 1 := by simpa using length
  cases front with
  | nil =>
    -- A store that is full of newer conditions would give up this one.
    have roomy : ¬ hub.store.capacity ≤ ([] ++ stored :: back).length := by
      simp only [List.nil_append, List.length_cons]
      omega
    exact ⟨[], back ++ [newest], by rw [if_neg roomy]; rfl, longer⟩
  | cons oldest front =>
    split
    · exact ⟨front, back ++ [newest], by simp, longer⟩
    · exact ⟨oldest :: front, back ++ [newest], by simp, longer⟩

theorem Shelves.erase (shelves : hub.Shelves stored newer) (other : id ≠ stored.id) :
    { hub with store := hub.store.erase id }.Shelves stored newer := by
  obtain ⟨front, back, split, length⟩ := shelves
  have rest : (stored :: back).eraseP (fun stored => stored.id == id) =
      stored :: back.eraseP fun stored => stored.id == id :=
    List.eraseP_cons_of_neg (by simpa using other.symm)
  simp only [Shelves, Store.erase, split, List.eraseP_append, rest]
  split
  · exact ⟨_, back, rfl, length⟩
  · exact ⟨front, _, rfl, List.eraseP_sublist.length_le.trans length⟩

/-- One more condition is newer for each that is created. -/
theorem Shelves.next (shelves : hub.Shelves stored newer)
    (room : newer + (if hub.Creates visit then 1 else 0) < hub.store.capacity)
    (undeleted : ¬ hub.Deletes visit stored.id) :
    (hub.next visit).Shelves stored (newer + if hub.Creates visit then 1 else 0) := by
  rcases hub.next_cases visit with ⟨-, same⟩ | ⟨creates, wanted, c, -, -, -, after⟩ |
    ⟨id, other, deletes, -, after⟩
  · rw [same]
    exact shelves.weaken (Nat.le_add_right _ _)
  · rw [if_pos creates] at room ⊢
    rw [after]
    exact shelves.insert room _
  · rw [after]
    have unlike : id ≠ stored.id := fun same => undeleted (same ▸ deletes)
    exact (shelves.erase unlike).weaken (Nat.le_add_right _ _)

theorem Shelves.afterAll {visits : List Visit} (shelves : hub.Shelves stored newer)
    (few : newer + (hub.creating visits).length < hub.store.capacity)
    (undeleted : ∀ later ∈ hub.trail visits, ¬ later.1.Deletes later.2 stored.id) :
    (hub.afterAll visits).Shelves stored (newer + (hub.creating visits).length) := by
  induction visits generalizing hub newer with
  | nil => exact shelves
  | cons visit visits ih =>
    have length : (hub.creating (visit :: visits)).length =
        (if hub.Creates visit then 1 else 0) + ((hub.next visit).creating visits).length := by
      rw [creating_cons, List.length_append]
      split <;> rfl
    rw [length, ← Nat.add_assoc] at few ⊢
    obtain ⟨first, others⟩ := List.forall_mem_cons.1 undeleted
    have moved := shelves.next (Nat.lt_of_le_of_lt (Nat.le_add_right _ _) few) first
    exact ih moved (by rwa [capacity_next]) others

end

/-- A request to store the condition that there is no price. -/
def priceless : Request where
  method := .post
  path := "/api/conditions"
  contentType := some "application/json"
  body := "[\"T\", null, [\"is_null\", [\"store_variable\", \"S\", \"price\", \"int\"]]]"

end ConditionQuery.Hub
