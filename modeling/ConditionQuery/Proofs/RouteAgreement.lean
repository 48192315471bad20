import ConditionQuery.CommandLine.Program
import ConditionQuery.Proofs.ConditionAnswers

/-! Three ways to compile a condition and to bind it: on a hub that keeps nothing, on a hub that
stores it, and locally. They come to the same for every request, tree and event. -/
namespace ConditionQuery

namespace CommandLine

/-- What is shown of a binding. -/
def Outcome.ofBinding : Except BindError QuerySpec → Outcome
  | .ok spec => .success (spec.encode.pretty ++ "\n")
  | .error err => ⟨1, "", "Error: " ++ err.message ++ "\n"⟩

/-- What is shown of a tree that is compiled and bound at once. -/
def bindLocally (options : CompileOptions) (e : Expr) (event : Event) : Outcome :=
  match e.compile options with
  | .ok c => .ofBinding (QuerySpec.build c event)
  | .error err => ⟨1, "", "Error: " ++ err.message ++ "\n"⟩

section
variable {m : Type → Type} [Monad m] (env : Environment m)

/-- The tree and the event that a job is to bind. -/
def readBoth (job : Job) (eventSource : String) : Run m (Expr × Event) := do
  let e ← readJson env job.source Expr.parse
  let event ← readJson env eventSource fun text => do Event.decode (← Event.shape.read text)
  return (e, event)

theorem run_liftM {α : Type} (x : Except CommandError α) :
    ExceptT.run (liftM x : Run m α) = pure x := rfl

/-- A local run reads, and what it shows depends on nothing but what has been read. -/
theorem run_bind [LawfulMonad m] {arguments : List String} {job : Job} {eventSource : String}
    (asked : Invocation.read? arguments = some (.run (.bind job eventSource))) :
    run env arguments = do
      match ← (readBoth env job eventSource).run with
      | .ok (e, event) => return bindLocally job.options e event
      | .error err => return .failure err := by
  simp only [run, asked, runCommand, runBind, readBoth, ExceptT.run_bind, bind_assoc]
  congr 1
  funext tree
  cases tree with
  | error err => simp only [pure_bind]
  | ok e =>
    simp only [bind_assoc]
    congr 1
    funext found
    cases found with
    | error err => simp only [pure_bind]
    | ok event =>
      simp only [run_liftM, ExceptT.run_pure, pure_bind, bindLocally, Job.compile, bindEvent]
      cases e.compile job.options with
      | error err =>
        simp only [Except.mapError, pure_bind]
        rfl
      | ok c =>
        cases built : QuerySpec.build c event with
        | error err =>
          simp only [Except.mapError, built, pure_bind]
          rfl
        | ok spec =>
          simp only [Except.mapError, built, pure_bind]
          rfl

end
end CommandLine

namespace Hub
open CommandLine

variable {hub : Hub} {checked posted : Visit} {wanted : CompileRequest}

/-- What is stored under a new id is found under it. -/
theorem find_next (sent : posted.request.Posts .conditions wanted) {c : CompiledCondition}
    (compiled : hub.config.compile wanted = .ok c)
    (unused : newId posted.arrival ∉ hub.store.conditions.map StoredCondition.id) :
    (hub.next posted).find (newId posted.arrival) = .ok (entry posted.arrival wanted c) := by
  have creates : hub.Creates posted :=
    ⟨sent.posted, sent.routed, by rw [answer_create sent, compiled]; rfl⟩
  obtain ⟨wanted', c', sent', compiled', -, after⟩ := next_of_creates creates
  obtain rfl : wanted' = wanted := Except.ok.inj (sent'.decoded.symm.trans sent.decoded)
  obtain rfl : c' = c := Except.ok.inj (compiled'.symm.trans compiled)
  have others : ∀ stored ∈ hub.store.retained, ¬ (stored.id == newId posted.arrival) = true := by
    obtain ⟨gone, split, -⟩ := hub.store.exists_retained
    intro stored kept same
    apply unused
    rw [split, List.map_append, List.mem_append]
    exact .inr (List.mem_map.2 ⟨stored, kept, by simpa using same⟩)
  have found : (hub.next posted).store.get? (newId posted.arrival) =
      some (entry posted.arrival wanted' c') := by
    simp [after, Store.get?, Store.insert, List.find?_append, List.find?_eq_none.2 others, entry]
  rw [find, found]

/-- Wherever a stored condition is found, it is bound as a local run binds its tree. -/
structure BoundAlike (stored : StoredCondition) (options : CompileOptions) : Prop where
  onHub : ∀ (hub : Hub) (visit : Visit) (event : Event), hub.find stored.id = .ok stored →
    visit.request.Binds stored.id event →
    hub.answer visit = .ofBinding (QuerySpec.build stored.compiled event)
  locally : ∀ event : Event,
    bindLocally options stored.source event = .ofBinding (QuerySpec.build stored.compiled event)
  run : ∀ (m : Type → Type) [Monad m] [LawfulMonad m] (env : Environment m)
    (arguments : List String) (job : Job) (eventSource : String),
    Invocation.read? arguments = some (.run (.bind job eventSource)) → job.options = options →
    run env arguments = do
      match ← (readBoth env job eventSource).run with
      | .ok (e, event) => return bindLocally options e event
      | .error err => return .failure err

theorem boundAlike_of_compile {stored : StoredCondition} {options : CompileOptions}
    (compiled : stored.source.compile options = .ok stored.compiled) :
    BoundAlike stored options where
  onHub hub visit event found binds := by
    rw [answer_bind binds, found]
  locally event := by
    rw [bindLocally, compiled]
  run m _ _ env arguments job eventSource asked same := by
    rw [← same]
    exact run_bind env asked

/-- Both routes accept a request, with the same compiled condition, or both refuse it with the same
answer; and what is stored of it is bound as its tree is bound locally. -/
theorem routes_agree (asked : checked.request.Posts .compile wanted)
    (sent : posted.request.Posts .conditions wanted) :
    ((hub.answer checked).status = .ok ↔ (hub.answer posted).status = .created) ∧
    ((hub.answer checked).status ≠ .ok → ∃ r : Refusal,
      hub.answer checked = .refusal r ∧ hub.answer posted = .refusal r) ∧
    ((hub.answer posted).status = .created → ∃ options c,
      hub.config.resolve wanted = .ok options ∧ wanted.condition.compile options = .ok c ∧
      hub.answer checked = .document .ok
        (.object [("compiled", c.encode), ("query", .string c.query)]) ∧
      hub.answer posted = .document .created
        (.object [("id", .string (newId posted.arrival)),
          ("created_at", .string posted.arrival.time), ("source", wanted.condition.encode),
          ("compiled", c.encode), ("query", .string c.query)]) ∧
      (newId posted.arrival ∉ hub.store.conditions.map StoredCondition.id →
        (hub.next posted).find (newId posted.arrival) = .ok (entry posted.arrival wanted c)) ∧
      BoundAlike (entry posted.arrival wanted c) options) := by
  have given : hub.answer checked = _ := answer_compile asked
  have stored : hub.answer posted = _ := answer_create sent
  cases compiled : hub.config.compile wanted with
  | error r =>
    rw [compiled] at given stored
    have refused : (hub.answer checked).status ≠ .ok ∧ (hub.answer posted).status ≠ .created := by
      rw [given, stored]
      exact ⟨Response.status_refusal_ne r rfl, Response.status_refusal_ne r rfl⟩
    exact ⟨iff_of_false refused.1 refused.2, fun _ => ⟨r, given, stored⟩,
      fun created => absurd created refused.2⟩
  | ok c =>
    rw [compiled] at given stored
    have accepted : (hub.answer checked).status = .ok ∧ (hub.answer posted).status = .created := by
      rw [given, stored]
      exact ⟨rfl, rfl⟩
    obtain ⟨options, resolved, result⟩ := HubConfig.compile_ok compiled
    refine ⟨iff_of_true accepted.1 accepted.2, fun refused => absurd accepted.1 refused, ?_⟩
    intro _
    exact ⟨options, c, resolved, result, given, stored, find_next sent compiled,
      boundAlike_of_compile result⟩

/-- The price is below the limit of an event. -/
def belowLimit : Expr :=
  .compare .lessThan (.storeVariable "S" "price" .int) (.streamVariable "limit" none .int)

def isBelowLimit : Expr → Bool
  | .compare .lessThan (.storeVariable "S" "price" .int) (.streamVariable "limit" none .int) => true
  | _ => false

theorem eq_belowLimit {e : Expr} (holds : isBelowLimit e = true) : e = belowLimit := by
  unfold isBelowLimit at holds
  split at holds
  · rfl
  · contradiction

def limitFive : Event := [("limit", .int 5)]

def isLimitFive : Event → Bool
  | [("limit", .int 5)] => true
  | _ => false

theorem eq_limitFive {event : Event} (holds : isLimitFive event = true) : event = limitFive := by
  unfold isLimitFive at holds
  split at holds
  · rfl
  · contradiction

theorem exists_ok_of_any {ε α : Type} {x : Except ε α} {p : α → Bool}
    (holds : x.toOption.any p = true) : ∃ a, x = .ok a ∧ p a = true := by
  cases x with
  | error err => simp [Except.toOption] at holds
  | ok a => exact ⟨a, rfl, holds⟩

def treeText : String :=
  "[\"compare\", \"less_than\", [\"store_variable\", \"S\", \"price\", \"int\"], " ++
    "[\"stream_variable\", \"limit\", null, \"int\"]]"

def eventText : String := "\x7b\"limit\": 5\x7d"

def eventBody : String := "\x7b\"event\": " ++ eventText ++ "\x7d"

/-- The tree and the event in files, and no hub. -/
def files : Environment Id where
  fileContent path :=
    if path = "tree.json" then .ok treeText.toUTF8
    else if path = "event.json" then .ok eventText.toUTF8
    else .error .missing
  inputContent := Except.error .notUtf8
  send _ := Except.error "no hub"

theorem read_files (options : CompileOptions) :
    ExceptT.run (readBoth files ⟨options, "tree.json"⟩ "event.json") =
      (.ok (belowLimit, limitFive) : Except CommandError (Expr × Event)) := by
  obtain ⟨⟨e, event⟩, read, holds⟩ := exists_ok_of_any
    (x := Id.run (readBoth files ⟨⟨"T", false, "S"⟩, "tree.json"⟩ "event.json").run)
    (p := fun (e, event) => isBelowLimit e && isLimitFive event) (by decide +kernel)
  obtain ⟨below, five⟩ := Bool.and_eq_true_iff.1 holds
  rw [← eq_belowLimit below, ← eq_limitFive five]
  exact read

theorem routes_agree_onLimit :
    let hub := start .standard
    let visit (token path body : String) : Visit :=
      ⟨⟨token, "now", 0⟩, ⟨.post, path, some "application/json", body⟩⟩
    let checked := visit "1" "/api/compile" ("[\"T\", null, " ++ treeText ++ "]")
    let posted := visit "2" "/api/conditions" ("[\"T\", null, " ++ treeText ++ "]")
    let bound := visit "3" "/api/conditions/cond-2/bind" eventBody
    (hub.answer checked).status = .ok ∧ (hub.answer posted).status = .created ∧
      ((hub.next posted).answer bound).status = .ok ∧
      ∃ result, (hub.next posted).answer bound = .ofBinding result ∧
        run files ["bind", "tree.json", "--table", "T", "--event", "event.json"] =
          Outcome.ofBinding result := by
  intro hub visit checked posted bound
  obtain ⟨wanted, asked, holds⟩ := checked.request.exists_posts .compile
    (fun wanted => isBelowLimit wanted.condition &&
      (hub.config.resolve wanted).toOption == some ⟨"T", false, "S"⟩) rfl
    (by decide +kernel) (by decide +kernel)
  obtain ⟨below, options⟩ := Bool.and_eq_true_iff.1 holds
  have sent : posted.request.Posts .conditions wanted := ⟨rfl, by decide +kernel, asked.decoded⟩
  obtain ⟨agree, -, accepted⟩ := @routes_agree hub checked posted wanted asked sent
  have created : (hub.answer posted).status = .created := by decide +kernel
  obtain ⟨resolvedTo, c, resolved, -, -, -, found, alike⟩ := accepted created
  rw [resolved] at options
  obtain rfl : resolvedTo = ⟨"T", false, "S"⟩ := by simpa [Except.toOption] using options
  have binds : bound.request.Binds "cond-2" limitFive := by
    obtain ⟨⟨event⟩, decoded, five⟩ := exists_ok_of_any
      (x := bound.request.read BindRequest.shape BindRequest.decode)
      (p := fun wanted => isLimitFive wanted.event) (by decide +kernel)
    obtain rfl : event = limitFive := eq_limitFive five
    have plain : Text.percentDecode? "cond-2" = some "cond-2" := by decide +kernel
    exact ⟨rfl, ⟨"cond-2", by decide +kernel, by rw [decodeId, plain]⟩, decoded⟩
  refine ⟨agree.2 created, created, by decide +kernel, QuerySpec.build c limitFive,
    alike.onHub _ bound _ (found (by decide +kernel)) binds, ?_⟩
  rw [alike.run Id files _ ⟨_, "tree.json"⟩ "event.json" (by decide +kernel) rfl, read_files,
    ← eq_belowLimit below]
  exact alike.locally limitFive

end Hub
end ConditionQuery
