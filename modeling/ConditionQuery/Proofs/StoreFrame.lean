import ConditionQuery.Proofs.CompileAnswers

/-! What a request does to the stored conditions. They change when a condition is created and when
one is deleted, and the answer says so; every other answer leaves the hub as it is. -/
namespace ConditionQuery

/-- A request, and what the hub learns from outside when it arrives. -/
structure Visit where
  arrival : Arrival
  request : Request

/-- The path is the one that the route has for the id. -/
def Request.Addresses (request : Request) (route : String → Route) (id : String) : Prop :=
  ∃ raw, Route.ofPath? request.path = some (route raw) ∧ Hub.decodeId raw = .ok id

/-- The answer does not tell of a change. -/
structure Response.Neutral (response : Response) : Prop where
  created : response.status ≠ .created
  noContent : response.status ≠ .noContent

theorem Request.Addresses.unique {request : Request} {route : String → Route} {id id' : String}
    (injective : Function.Injective route) (first : request.Addresses route id)
    (second : request.Addresses route id') : id = id' := by
  obtain ⟨raw, routed, decoded⟩ := first
  obtain ⟨raw', routed', decoded'⟩ := second
  obtain rfl := injective (Option.some.inj (routed.symm.trans routed'))
  exact Except.ok.inj (decoded.symm.trans decoded')

theorem Response.status_refusal_ne (r : Refusal) {status : Status}
    (success : status.isSuccess = true) : (Response.refusal r).status ≠ status := by
  rintro rfl
  rw [status_refusal, r.isSuccess_status] at success
  contradiction

namespace Response.Neutral

theorem of_ok {response : Response} (ok : response.status = .ok) : response.Neutral :=
  ⟨by simp [ok], by simp [ok]⟩

theorem refusal (r : Refusal) : (Response.refusal r).Neutral :=
  ⟨status_refusal_ne r rfl, status_refusal_ne r rfl⟩

theorem of_code {response : Response} (failed : 400 ≤ response.status.code) :
    response.Neutral := by
  constructor <;> intro told <;> simp [told, Status.code] at failed

end Response.Neutral

theorem exists_of_bind_ok {ε α β : Type} {x : Except ε α} {f : α → Except ε β} {b : β}
    (done : x >>= f = .ok b) : ∃ a, x = .ok a ∧ f a = .ok b := by
  cases x with
  | error err => contradiction
  | ok a => exact ⟨a, rfl, done⟩

namespace Store

variable {store : Store}

/-- A full store gives up its oldest condition, any other store none. -/
theorem exists_retained (store : Store) :
    ∃ gone, store.conditions = gone ++ store.retained ∧ gone.length ≤ 1 ∧
      (gone ≠ [] → store.capacity ≤ store.size) := by
  unfold retained
  split
  · rename_i full
    cases store.conditions with
    | nil => exact ⟨[], rfl, by simp, fun _ => full⟩
    | cons oldest rest => exact ⟨[oldest], rfl, Nat.le_refl 1, fun _ => full⟩
  · exact ⟨[], rfl, Nat.zero_le 1, fun some => absurd rfl some⟩

/-- The condition that is found under an id is the one that goes when the id is erased. -/
theorem erase_of_get? {id : String} {stored : StoredCondition}
    (found : store.get? id = some stored) :
    ∃ front back, store.conditions = front ++ stored :: back ∧ stored.id = id ∧
      (∀ other ∈ front, other.id ≠ id) ∧ (store.erase id).conditions = front ++ back := by
  obtain ⟨same, front, back, split, before⟩ := List.find?_eq_some_iff_append.1 found
  simp only [Bool.not_eq_true', beq_eq_false_iff_ne, ne_eq] at before
  refine ⟨front, back, split, by simpa using same, before, ?_⟩
  have unequal : ∀ other ∈ front, ¬ (other.id == id) = true := by simpa using before
  simp only [erase, split, List.eraseP_append_right _ unequal, List.eraseP_cons, same, cond_true]

end Store

namespace Hub

variable {hub : Hub} {visit : Visit}

def answer (hub : Hub) (visit : Visit) : Response := (hub.respond visit.arrival visit.request).1

/-- The hub after the answer. -/
def next (hub : Hub) (visit : Visit) : Hub := (hub.respond visit.arrival visit.request).2

/-- A condition is posted, and the answer is that it is created. -/
structure Creates (hub : Hub) (visit : Visit) : Prop where
  posted : visit.request.method = .post
  routed : Route.ofPath? visit.request.path = some .conditions
  answered : (hub.answer visit).status = .created

/-- The condition with the id is to be deleted, and the answer is that it is. -/
structure Deletes (hub : Hub) (visit : Visit) (id : String) : Prop where
  asked : visit.request.method = .delete
  addressed : visit.request.Addresses .condition id
  answered : (hub.answer visit).status = .noContent

/-- What is stored of a request that is compiled. -/
def entry (arrival : Arrival) (wanted : CompileRequest) (c : CompiledCondition) : StoredCondition :=
  ⟨newId arrival, arrival.time, wanted.condition, c⟩

theorem create_ok {arrival : Arrival} {wanted : CompileRequest} {created : StoredCondition × Hub}
    (done : hub.create arrival wanted = .ok created) :
    ∃ c, hub.config.compile wanted = .ok c ∧ created = (entry arrival wanted c,
      { hub with store := hub.store.insert (entry arrival wanted c) }) := by
  obtain ⟨c, compiled, made⟩ := exists_of_bind_ok done
  exact ⟨c, compiled, (Except.ok.inj made).symm⟩

theorem remove_ok {id : String} {after : Hub} (done : hub.remove id = .ok after) :
    ∃ stored, hub.find id = .ok stored ∧ after = { hub with store := hub.store.erase id } := by
  obtain ⟨stored, found, made⟩ := exists_of_bind_ok done
  exact ⟨stored, found, (Except.ok.inj made).symm⟩

/-- The answer to a visit with the hub after it, by what happens to the stored conditions. -/
inductive Moves (hub : Hub) (visit : Visit) : Response × Hub → Prop where
  | keeps {response : Response} (neutral : response.Neutral) : Moves hub visit (response, hub)
  | stores {wanted : CompileRequest} {c : CompiledCondition}
    (sent : visit.request.Posts .conditions wanted) (compiled : hub.config.compile wanted = .ok c) :
    Moves hub visit (.document .created (entry visit.arrival wanted c).encode,
      { hub with store := hub.store.insert (entry visit.arrival wanted c) })
  | removes {id : String} {stored : StoredCondition} (asked : visit.request.method = .delete)
    (addressed : visit.request.Addresses .condition id) (found : hub.find id = .ok stored) :
    Moves hub visit (.empty .noContent, { hub with store := hub.store.erase id })

/-- An answer without a change is neutral if its success is. -/
theorem neutral_unchanged {answer : Except Refusal Response}
    (success : ∀ response, answer = .ok response → response.status = .ok) :
    (hub.unchanged answer).1.Neutral ∧ (hub.unchanged answer).2 = hub := by
  cases answer with
  | error r => exact ⟨.refusal r, rfl⟩
  | ok response => exact ⟨.of_ok (success response rfl), rfl⟩

/-- What is only looked at stays. -/
theorem neutral_serve?_get {arrival : Arrival} {request : Request} {route : Route}
    {answered : Response × Hub}
    (served : hub.serve? arrival request .get route = some answered) :
    answered.1.Neutral ∧ answered.2 = hub := by
  cases route with
  | status | conditions =>
    obtain rfl := Option.some.inj served
    exact ⟨.of_ok rfl, rfl⟩
  | condition raw =>
    obtain rfl := Option.some.inj served
    apply neutral_unchanged
    intro response shown
    obtain ⟨id, -, shown⟩ := exists_of_bind_ok shown
    obtain ⟨stored, -, shown⟩ := exists_of_bind_ok shown
    obtain rfl := Except.ok.inj shown
    rfl
  | compile | binding raw => simp [serve?] at served

theorem Moves.of_neutral {answered : Response × Hub}
    (neutral : answered.1.Neutral ∧ answered.2 = hub) : hub.Moves visit answered := by
  obtain ⟨response, after⟩ := answered
  obtain ⟨neutral, rfl⟩ := neutral
  exact .keeps neutral

theorem Moves.of_changing {answer : Except Refusal (Response × Hub)}
    (success : ∀ answered, answer = .ok answered → hub.Moves visit answered) :
    hub.Moves visit (hub.changing answer) := by
  cases answer with
  | error r => exact .keeps (.refusal r)
  | ok answered => exact success answered rfl

theorem moves_serve?_post {route : Route} {answered : Response × Hub}
    (posted : visit.request.method = .post)
    (routed : Route.ofPath? visit.request.path = some route)
    (served : hub.serve? visit.arrival visit.request .post route = some answered) :
    hub.Moves visit answered := by
  cases route with
  | status | condition raw => simp [serve?] at served
  | compile =>
    obtain rfl := Option.some.inj served
    apply Moves.of_neutral
    apply neutral_unchanged
    intro response shown
    obtain ⟨wanted, -, shown⟩ := exists_of_bind_ok shown
    obtain ⟨c, -, shown⟩ := exists_of_bind_ok shown
    obtain rfl := Except.ok.inj shown
    rfl
  | conditions =>
    obtain rfl := Option.some.inj served
    apply Moves.of_changing
    intro answered shown
    obtain ⟨wanted, decoded, shown⟩ := exists_of_bind_ok shown
    obtain ⟨created, done, shown⟩ := exists_of_bind_ok shown
    obtain ⟨c, compiled, rfl⟩ := create_ok done
    obtain rfl := Except.ok.inj shown
    exact .stores ⟨posted, routed, decoded⟩ compiled
  | binding raw =>
    obtain rfl := Option.some.inj served
    apply Moves.of_neutral
    apply neutral_unchanged
    intro response shown
    obtain ⟨id, -, shown⟩ := exists_of_bind_ok shown
    obtain ⟨wanted, -, shown⟩ := exists_of_bind_ok shown
    obtain ⟨spec, -, shown⟩ := exists_of_bind_ok shown
    obtain rfl := Except.ok.inj shown
    rfl

theorem moves_serve?_delete {route : Route} {answered : Response × Hub}
    (asked : visit.request.method = .delete)
    (routed : Route.ofPath? visit.request.path = some route)
    (served : hub.serve? visit.arrival visit.request .delete route = some answered) :
    hub.Moves visit answered := by
  cases route with
  | status | compile | conditions | binding raw => simp [serve?] at served
  | condition raw =>
    obtain rfl := Option.some.inj served
    apply Moves.of_changing
    intro answered shown
    obtain ⟨id, decoded, shown⟩ := exists_of_bind_ok shown
    obtain ⟨after, done, shown⟩ := exists_of_bind_ok shown
    obtain ⟨stored, found, rfl⟩ := remove_ok done
    obtain rfl := Except.ok.inj shown
    exact .removes asked ⟨raw, routed, decoded⟩ found

theorem Moves.getD {served : Option (Response × Hub)} {route : Route}
    (each : ∀ answered, served = some answered → hub.Moves visit answered) :
    hub.Moves visit (served.getD (.allowing .methodNotAllowed route, hub)) := by
  cases served with
  | none => exact .keeps ⟨nofun, nofun⟩
  | some answered => exact each answered rfl

/-- All that a visit can do. -/
theorem moves (hub : Hub) (visit : Visit) : hub.Moves visit (hub.answer visit, hub.next visit) := by
  change hub.Moves visit (hub.respond visit.arrival visit.request)
  unfold respond
  cases routed : Route.ofPath? visit.request.path with
  | none => cases visit.request.method <;> exact .keeps ⟨nofun, nofun⟩
  | some route =>
    cases asked : visit.request.method with
    | options => exact .keeps ⟨nofun, nofun⟩
    | head =>
      cases served : hub.serve? visit.arrival visit.request .get route with
      | none => simpa only [served] using .keeps ⟨nofun, nofun⟩
      | some answered =>
        obtain ⟨neutral, rfl⟩ := neutral_serve?_get served
        simpa only [served] using .keeps ⟨neutral.created, neutral.noContent⟩
    | get => exact .getD fun _ served => .of_neutral (neutral_serve?_get served)
    | post => exact .getD fun _ served => moves_serve?_post asked routed served
    | delete => exact .getD fun _ served => moves_serve?_delete asked routed served
    | other name => exact .getD fun _ served => by cases route <;> contradiction

theorem Deletes.not_creates {id : String} (deletes : hub.Deletes visit id) :
    ¬ hub.Creates visit := by
  intro creates
  have told := deletes.answered.symm.trans creates.answered
  contradiction

/-- A hub changes by creating and by deleting only, and then in one way. -/
theorem next_cases (hub : Hub) (visit : Visit) :
    ((hub.answer visit).Neutral ∧ hub.next visit = hub) ∨
    (hub.Creates visit ∧ ∃ wanted c, visit.request.Posts .conditions wanted ∧
      hub.config.compile wanted = .ok c ∧
      hub.answer visit = .document .created (entry visit.arrival wanted c).encode ∧
      hub.next visit = { hub with store := hub.store.insert (entry visit.arrival wanted c) }) ∨
    ∃ id stored, hub.Deletes visit id ∧ hub.find id = .ok stored ∧
      hub.next visit = { hub with store := hub.store.erase id } := by
  have moved := hub.moves visit
  generalize answered : hub.answer visit = response, hub.next visit = after at moved ⊢
  cases moved with
  | keeps neutral => exact .inl ⟨neutral, rfl⟩
  | @stores wanted c sent compiled =>
    have creates : hub.Creates visit := ⟨sent.posted, sent.routed, by rw [answered]; rfl⟩
    exact .inr (.inl ⟨creates, wanted, c, sent, compiled, rfl, rfl⟩)
  | @removes id stored asked addressed found =>
    have deletes : hub.Deletes visit id := ⟨asked, addressed, by rw [answered]; rfl⟩
    exact .inr (.inr ⟨id, stored, deletes, found, rfl⟩)

/-- A neutral answer leaves everything as it is. -/
theorem next_of_neutral (neutral : (hub.answer visit).Neutral) : hub.next visit = hub := by
  rcases hub.next_cases visit with ⟨-, same⟩ | ⟨creates, -⟩ | ⟨id, stored, deletes, -⟩
  · exact same
  · exact absurd creates.answered neutral.created
  · exact absurd deletes.answered neutral.noContent

theorem next_of_creates (creates : hub.Creates visit) :
    ∃ wanted c, visit.request.Posts .conditions wanted ∧ hub.config.compile wanted = .ok c ∧
      hub.answer visit = .document .created (entry visit.arrival wanted c).encode ∧
      hub.next visit = { hub with store := hub.store.insert (entry visit.arrival wanted c) } := by
  rcases hub.next_cases visit with ⟨neutral, -⟩ | ⟨-, stores⟩ | ⟨id, stored, deletes, -⟩
  · exact absurd creates.answered neutral.created
  · exact stores
  · exact absurd creates deletes.not_creates

theorem next_of_deletes {id : String} (deletes : hub.Deletes visit id) :
    ∃ stored, hub.find id = .ok stored ∧
      hub.next visit = { hub with store := hub.store.erase id } := by
  rcases hub.next_cases visit with ⟨neutral, -⟩ | ⟨creates, -⟩ | ⟨_, stored, other, found, after⟩
  · exact absurd deletes.answered neutral.noContent
  · exact absurd creates deletes.not_creates
  · obtain rfl := other.addressed.unique (fun _ _ => Route.condition.inj) deletes.addressed
    exact ⟨stored, found, after⟩

theorem get?_of_find {id : String} {stored : StoredCondition} (found : hub.find id = .ok stored) :
    hub.store.get? id = some stored := by
  unfold find at found
  split at found
  · rename_i known
    rwa [Except.ok.inj found] at known
  · contradiction

/-- A created condition is the newest and only takes the place of the oldest, where there is no
room; a deleted one goes from between the others; nothing else changes what is stored. -/
theorem stored_next (hub : Hub) (visit : Visit) :
    (¬ hub.Creates visit → (∀ id, ¬ hub.Deletes visit id) → hub.next visit = hub) ∧
    (hub.Creates visit → ∃ stored gone kept,
      hub.answer visit = .document .created (StoredCondition.encode stored) ∧
      hub.store.conditions = gone ++ kept ∧
      (hub.next visit).store.conditions = kept ++ [stored] ∧
      gone.length ≤ 1 ∧ (gone ≠ [] → hub.store.capacity ≤ hub.store.size)) ∧
    (∀ id, hub.Deletes visit id → ∃ front stored back,
      hub.store.conditions = front ++ stored :: back ∧ stored.id = id ∧
      (∀ other ∈ front, other.id ≠ id) ∧
      (hub.next visit).store.conditions = front ++ back) ∧
    (400 ≤ (hub.answer visit).status.code → hub.next visit = hub) ∧
    (visit.request.method ≠ .post ∨ Route.ofPath? visit.request.path ≠ some .conditions →
      visit.request.method ≠ .delete ∨ (∀ id, ¬ visit.request.Addresses .condition id) →
      hub.next visit = hub) := by
  have kept : ¬ hub.Creates visit → (∀ id, ¬ hub.Deletes visit id) → hub.next visit = hub := by
    intro uncreated undeleted
    rcases hub.next_cases visit with ⟨-, same⟩ | ⟨creates, -⟩ | ⟨id, stored, deletes, -⟩
    · exact same
    · exact absurd creates uncreated
    · exact absurd deletes (undeleted id)
  refine ⟨kept, ?_, ?_, fun failed => next_of_neutral (.of_code failed), ?_⟩
  · intro creates
    obtain ⟨wanted, c, -, -, answered, after⟩ := next_of_creates creates
    obtain ⟨gone, split, single, full⟩ := hub.store.exists_retained
    exact ⟨_, gone, _, answered, split, by rw [after]; rfl, single, full⟩
  · intro id deletes
    obtain ⟨stored, found, after⟩ := next_of_deletes deletes
    obtain ⟨front, back, split, same, earlier, erased⟩ :=
      Store.erase_of_get? (get?_of_find found)
    exact ⟨front, stored, back, split, same, earlier, by rw [after]; exact erased⟩
  · intro other other'
    apply kept
    · intro creates
      exact other.elim (· creates.posted) (· creates.routed)
    · intro id deletes
      exact other'.elim (· deletes.asked) (· id deletes.addressed)

end Hub
end ConditionQuery
