import ConditionQuery.Proofs.StatementText

/-! What a hub answers to a condition that is posted. A compiled condition is returned only if all
names in its statement are identifiers, wherever they stand in the tree, so that a statement is
harmless whatever else the tree holds; otherwise the request is refused, and nothing is stored. -/
namespace ConditionQuery

namespace Expr

/-- The trees directly under the root. -/
def parts : Expr → List Expr
  | .and left right | .or left right | .compare _ left right | .math _ left right => [left, right]
  | .not operand | .isNull operand | .isIn _ operand => [operand]
  | .function _ _ args => args
  | .constant _ _ | .streamVariable _ _ _ | .storeVariable _ _ _ => []

/-- The first tree is the second, or stands at any depth under its root. -/
inductive Occurs (e : Expr) : Expr → Prop where
  | here : Occurs e e
  | under {part whole : Expr} (member : part ∈ whole.parts) (inside : Occurs e part) :
    Occurs e whole

theorem storeAttributesOfArgs_eq (args : List Expr) :
    storeAttributesOfArgs args = args.flatMap storeAttributes := by
  induction args with
  | nil => rfl
  | cons arg rest ih => rw [storeAttributesOfArgs, ih, List.flatMap_cons]

theorem storeAttributes_of_parts {part whole : Expr} (member : part ∈ whole.parts) :
    part.storeAttributes ⊆ whole.storeAttributes := by
  cases whole with
  | and left right | or left right | compare op left right | math op left right =>
    rcases List.mem_pair.1 member with rfl | rfl
    · exact List.subset_append_left _ _
    · exact List.subset_append_right _ _
  | not operand | isNull operand | isIn storeId operand =>
    obtain rfl := List.mem_singleton.1 member
    exact List.Subset.refl _
  | function space name args =>
    rw [storeAttributes, storeAttributesOfArgs_eq]
    exact fun attr known => List.mem_flatMap.2 ⟨part, member, known⟩
  | constant v type | streamVariable id streamId type | storeVariable storeId attr type =>
    simp [parts] at member

mutual

theorem occurs_of_mem {attr : String} {e : Expr} (member : attr ∈ e.storeAttributes) :
    ∃ storeId type, Occurs (.storeVariable storeId attr type) e := by
  cases e with
  | and left right | or left right | compare op left right | math op left right =>
    rcases List.mem_append.1 member with member | member
    · obtain ⟨storeId, type, inside⟩ := occurs_of_mem member
      exact ⟨storeId, type, .under List.mem_cons_self inside⟩
    · obtain ⟨storeId, type, inside⟩ := occurs_of_mem member
      exact ⟨storeId, type, .under (List.mem_pair.2 (.inr rfl)) inside⟩
  | not operand | isNull operand | isIn storeId operand =>
    obtain ⟨storeId, type, inside⟩ := occurs_of_mem (e := operand) member
    exact ⟨storeId, type, .under List.mem_cons_self inside⟩
  | function space name args =>
    have inArgs : attr ∈ storeAttributesOfArgs args := member
    obtain ⟨arg, known, storeId, type, inside⟩ := occurs_of_memArgs inArgs
    exact ⟨storeId, type, .under known inside⟩
  | constant v type | streamVariable id streamId type => simp [storeAttributes] at member
  | storeVariable storeId name type =>
    obtain rfl := List.mem_singleton.1 member
    exact ⟨storeId, type, .here⟩

theorem occurs_of_memArgs {attr : String} {args : List Expr}
    (member : attr ∈ storeAttributesOfArgs args) :
    ∃ arg ∈ args, ∃ storeId type, Occurs (.storeVariable storeId attr type) arg := by
  cases args with
  | nil => simp [storeAttributesOfArgs] at member
  | cons arg rest =>
    rcases List.mem_append.1 member with member | member
    · exact ⟨arg, List.mem_cons_self, occurs_of_mem member⟩
    · obtain ⟨other, known, inside⟩ := occurs_of_memArgs member
      exact ⟨other, List.mem_cons_of_mem _ known, inside⟩

end

/-- The attributes of a tree are the names of the columns at any depth of it. -/
theorem mem_storeAttributes_iff {attr : String} {e : Expr} :
    attr ∈ e.storeAttributes ↔ ∃ storeId type, Occurs (.storeVariable storeId attr type) e := by
  constructor
  · exact occurs_of_mem
  · rintro ⟨storeId, type, inside⟩
    induction inside with
    | here => exact List.mem_singleton.2 rfl
    | under member inside ih => exact storeAttributes_of_parts member ih

end Expr

namespace HubConfig

variable {config : HubConfig} {wanted : CompileRequest}

/-- The checks of a request in their order. -/
theorem resolve_eq (config : HubConfig) (wanted : CompileRequest) :
    config.resolve wanted =
      match wanted.table <|> config.defaultTable with
      | none => .error .noTable
      | some table =>
        if isIdentifier table = false then .error (.invalidTable table)
        else
          match wanted.condition.storeAttributes.find? fun attr => !isIdentifier attr with
          | some attr => .error (.invalidAttribute attr)
          | none =>
            if isIdentifier config.subqueryAlias = false then
              .error (.invalidAlias config.subqueryAlias)
            else
              .ok ⟨table, wanted.afterSelect.getD config.afterSelect, config.subqueryAlias⟩ := by
  unfold resolve
  cases wanted.table <|> config.defaultTable with
  | none => rfl
  | some table =>
    dsimp only
    cases isIdentifier table with
    | false => rfl
    | true =>
      cases wanted.condition.storeAttributes.find? fun attr => !isIdentifier attr with
      | some attr => rfl
      | none => cases isIdentifier config.subqueryAlias <;> rfl

/-- A request is compiled with identifiers only. -/
theorem resolve_ok {options : CompileOptions} (resolved : config.resolve wanted = .ok options) :
    wanted.condition.NamesAll (fun name => isIdentifier name = true) options ∧
      isIdentifier options.subqueryAlias = true := by
  rw [resolve_eq] at resolved
  split at resolved
  · contradiction
  split at resolved
  · contradiction
  rename_i valid
  split at resolved
  · contradiction
  rename_i attrs
  split at resolved
  · contradiction
  rename_i subquery
  obtain rfl := Except.ok.inj resolved
  rw [Bool.not_eq_false] at valid subquery
  exact ⟨⟨valid, by simpa using attrs⟩, subquery⟩

/-- A request with another name is refused, whatever the configured alias is. -/
theorem resolve_error
    (invalid : (∃ attr ∈ wanted.condition.storeAttributes, isIdentifier attr = false) ∨
      ∃ table, (wanted.table <|> config.defaultTable) = some table ∧ isIdentifier table = false) :
    ∃ r, config.resolve wanted = .error r ∧ r.status = .badRequest := by
  rw [resolve_eq]
  split
  · exact ⟨_, rfl, rfl⟩
  rename_i table given
  split
  · exact ⟨_, rfl, rfl⟩
  rename_i valid
  split
  · exact ⟨_, rfl, rfl⟩
  rename_i attrs
  -- The alias is looked at last: a request that comes so far has no other invalid name.
  rcases invalid with ⟨attr, member, invalid⟩ | ⟨other, given', invalid⟩
  · have known := List.find?_eq_none.1 attrs attr member
    simp [invalid] at known
  · obtain rfl := Option.some.inj (given.symm.trans given')
    exact absurd invalid valid

theorem compile_ok {c : CompiledCondition} (compiled : config.compile wanted = .ok c) :
    ∃ options, config.resolve wanted = .ok options ∧
      wanted.condition.compile options = .ok c := by
  unfold HubConfig.compile at compiled
  cases resolved : config.resolve wanted with
  | error r => simp [resolved, bind, Except.bind] at compiled
  | ok options =>
    simp only [resolved, bind, Except.bind] at compiled
    cases result : wanted.condition.compile options with
    | error err => simp [result, Except.mapError] at compiled
    | ok c' =>
      obtain rfl : c' = c := by simpa [result, Except.mapError] using compiled
      exact ⟨options, rfl, result⟩

theorem compile_error {r : Refusal} (refused : config.resolve wanted = .error r) :
    config.compile wanted = .error r := by
  rw [HubConfig.compile, refused]
  rfl

end HubConfig

theorem Refusal.isSuccess_status (r : Refusal) : r.status.isSuccess = false := by
  cases r with
  | unreadable failure =>
    simp only [status]
    split <;> rfl
  | _ => rfl

theorem Response.status_refusal (r : Refusal) : (refusal r).status = r.status := by
  unfold refusal
  split <;> rfl

/-- The answer returns the compiled condition, by itself or with what is stored beside it. -/
def Response.Returns (response : Response) (c : CompiledCondition) : Prop :=
  response.body = .document (.object c.answerMembers) ∨
    ∃ stored : StoredCondition, stored.compiled = c ∧ response.body = .document stored.encode

/-- The request posts on the route what is read as a condition to compile. -/
structure Request.Posts (request : Request) (route : Route) (wanted : CompileRequest) : Prop where
  posted : request.method = .post
  routed : Route.ofPath? request.path = some route
  decoded : request.read CompileRequest.shape CompileRequest.decode = .ok wanted

/-- A request of which something can be read posts it. -/
theorem Request.exists_posts (request : Request) (route : Route) (p : CompileRequest → Bool)
    (posted : request.method = .post) (routed : Route.ofPath? request.path = some route)
    (checked : (request.read CompileRequest.shape CompileRequest.decode).toOption.any p = true) :
    ∃ wanted, request.Posts route wanted ∧ p wanted = true := by
  cases decoded : request.read CompileRequest.shape CompileRequest.decode with
  | error r => simp [decoded, Except.toOption] at checked
  | ok wanted =>
    rw [decoded] at checked
    exact ⟨wanted, ⟨posted, routed, decoded⟩, checked⟩

namespace Hub

variable {hub : Hub} {arrival : Arrival} {request : Request} {wanted : CompileRequest}

theorem respond_compile (sent : request.Posts .compile wanted) :
    hub.respond arrival request =
      hub.unchanged do
        let c ← hub.config.compile wanted
        return .document .ok (.object c.answerMembers) := by
  simp only [respond, sent.routed, sent.posted, serve?, sent.decoded]
  rfl

theorem respond_conditions (sent : request.Posts .conditions wanted) :
    hub.respond arrival request =
      hub.changing do
        let (stored, hub) ← hub.create arrival wanted
        return (.document .created stored.encode, hub) := by
  simp only [respond, sent.routed, sent.posted, serve?, sent.decoded]
  rfl

theorem respond_error (sent : request.Posts .compile wanted ∨ request.Posts .conditions wanted)
    {r : Refusal} (refused : hub.config.compile wanted = .error r) :
    hub.respond arrival request = (.refusal r, hub) := by
  rcases sent with sent | sent
  · rw [respond_compile sent, refused]
    rfl
  · rw [respond_conditions sent, create, refused]
    rfl

theorem respond_ok (sent : request.Posts .compile wanted ∨ request.Posts .conditions wanted)
    {c : CompiledCondition} (compiled : hub.config.compile wanted = .ok c) :
    (hub.respond arrival request).1.Returns c := by
  rcases sent with sent | sent
  · rw [respond_compile sent, compiled]
    exact .inl rfl
  · rw [respond_conditions sent, create, compiled]
    exact .inr ⟨_, rfl, rfl⟩

/-- A hub returns harmless conditions only, whatever is posted, and it refuses names that are not
identifiers. -/
theorem harmless_of_respond
    (sent : request.Posts .compile wanted ∨ request.Posts .conditions wanted) :
    ((hub.respond arrival request).1.status.isSuccess = true →
      ∃ c, (hub.respond arrival request).1.Returns c ∧ c.Harmless) ∧
    ((∃ storeId attr type, Expr.Occurs (.storeVariable storeId attr type) wanted.condition ∧
        isIdentifier attr = false) ∨
      (∃ table, (wanted.table <|> hub.config.defaultTable) = some table ∧
        isIdentifier table = false) →
      (hub.respond arrival request).1.status = .badRequest ∧
        (hub.respond arrival request).2 = hub) := by
  constructor
  · intro success
    cases result : hub.config.compile wanted with
    | error r =>
      rw [respond_error sent result, Response.status_refusal, r.isSuccess_status] at success
      contradiction
    | ok c =>
      obtain ⟨options, resolved, compiled⟩ := HubConfig.compile_ok result
      obtain ⟨names, subquery⟩ := HubConfig.resolve_ok resolved
      exact ⟨c, respond_ok sent result, Expr.harmless_of_compile names subquery compiled⟩
  · intro invalid
    obtain ⟨r, refused, bad⟩ : ∃ r, hub.config.resolve wanted = .error r ∧
        r.status = .badRequest := by
      apply HubConfig.resolve_error
      rcases invalid with ⟨storeId, attr, type, inside, invalid⟩ | invalid
      · exact .inl ⟨attr, Expr.mem_storeAttributes_iff.2 ⟨storeId, type, inside⟩, invalid⟩
      · exact .inr invalid
    rw [respond_error sent (HubConfig.compile_error refused), Response.status_refusal]
    exact ⟨bad, rfl⟩

/-- A request that names a column, and that has values like parts of statements. -/
def quoting (path attr : String) : Request where
  method := .post
  path := path
  contentType := some "application/json"
  body := "[\"T\", null, [\"compare\", \"equal\", [\"store_variable\", \"?(\", \"" ++ attr ++
    "\", \"int\"], [\"constant\", \"1) OR (1 = ?\", \"string\"]]]"

theorem harmless_of_quoting :
    (∃ c, ((start .standard).respond ⟨"1", "now", 0⟩
        (quoting "/api/conditions" "price")).1.Returns c ∧ c.Harmless) ∧
      ((start .standard).respond ⟨"1", "now", 0⟩
        (quoting "/api/compile" "a) OR (1 = 1")).1.status = .badRequest := by
  constructor
  · obtain ⟨wanted, sent, -⟩ := (quoting "/api/conditions" "price").exists_posts .conditions
      (fun _ => true) rfl (by decide +kernel) (by decide +kernel)
    exact (harmless_of_respond (.inr sent)).1 (by decide +kernel)
  · obtain ⟨wanted, sent, invalid⟩ := (quoting "/api/compile" "a) OR (1 = 1").exists_posts .compile
      (fun wanted => wanted.condition.storeAttributes.any fun attr => !isIdentifier attr) rfl
      (by decide +kernel) (by decide +kernel)
    obtain ⟨attr, member, other⟩ := List.any_eq_true.1 invalid
    obtain ⟨storeId, type, inside⟩ := Expr.mem_storeAttributes_iff.1 member
    rw [Bool.not_eq_true'] at other
    exact ((harmless_of_respond (.inl sent)).2 (.inl ⟨storeId, attr, type, inside, other⟩)).1

end Hub

end ConditionQuery
