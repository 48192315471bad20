import ConditionQuery.Proofs.BoundStatement
import ConditionQuery.Proofs.Finiteness

/-! Filling the slots of an arbitrary condition. Each slot is filled or fails by itself, for one
reason; the slots are filled together if each can be, and otherwise the least ordinal that fails
gives the reason. -/
namespace ConditionQuery

section Traversal

variable {α β ε : Type} {f : α → Except ε β}

/-- A traversal fails at the first element that does. -/
theorem mapM_eq_error_iff {xs : List α} {err : ε} :
    xs.mapM f = .error err ↔ ∃ before x after, xs = before ++ x :: after ∧
      (∀ y ∈ before, ∃ b, f y = .ok b) ∧ f x = .error err := by
  induction xs with
  | nil => simp [pure, Except.pure]
  | cons x xs ih =>
    rw [List.mapM_cons]
    constructor
    · intro failed
      cases first : f x with
      | error other =>
        obtain rfl : other = err := by simpa [first, bind, Except.bind] using failed
        exact ⟨[], x, xs, rfl, by simp, first⟩
      | ok b =>
        have later : xs.mapM f = .error err := by
          cases others : xs.mapM f with
          | error other => simpa [first, others, bind, Except.bind] using failed
          | ok rest => simp [first, others, bind, Except.bind, pure, Except.pure] at failed
        obtain ⟨before, y, after, rfl, passed, fails⟩ := ih.1 later
        exact ⟨x :: before, y, after, rfl, by simpa [first] using passed, fails⟩
    · rintro ⟨before, y, after, parts, passed, fails⟩
      cases before with
      | nil =>
        obtain ⟨rfl, rfl⟩ := List.cons.inj parts
        simp [fails, bind, Except.bind]
      | cons z before =>
        obtain ⟨rfl, rfl⟩ := List.cons.inj parts
        obtain ⟨b, first⟩ := passed x List.mem_cons_self
        have later := ih.2 ⟨before, y, after, rfl,
          fun z member => passed z (List.mem_cons_of_mem _ member), fails⟩
        simp only [first, later, bind, Except.bind]

theorem exists_mapM_eq_ok_iff {xs : List α} :
    (∃ ys, xs.mapM f = .ok ys) ↔ ∀ x ∈ xs, ∃ y, f x = .ok y := by
  constructor
  · rintro ⟨ys, traversed⟩ x member
    induction mapM_eq_ok_iff.1 traversed with
    | nil => simp at member
    | cons first rest ih =>
      rcases List.mem_cons.1 member with rfl | member
      · exact ⟨_, first⟩
      · exact ih (mapM_eq_ok_iff.2 rest) member
  · intro each
    cases traversed : xs.mapM f with
    | ok ys => exact ⟨ys, rfl⟩
    | error err =>
      obtain ⟨before, x, after, parts, -, fails⟩ := mapM_eq_error_iff.1 traversed
      obtain ⟨y, passes⟩ := each x (by simp [parts])
      rw [fails] at passes
      contradiction

theorem mapM_congr {g : α → Except ε β} {xs : List α} (same : ∀ x ∈ xs, f x = g x) :
    xs.mapM f = xs.mapM g := by
  induction xs with
  | nil => rfl
  | cons x xs ih =>
    rw [List.mapM_cons, List.mapM_cons, same x List.mem_cons_self,
      ih fun y member => same y (List.mem_cons_of_mem _ member)]

end Traversal

namespace ValueHolder

variable {event : Event} {n : Nat} {holder : ValueHolder} {err : BindError}

/-- The holder stands for some value when the event occurs: a constant that is finite, or an
attribute that the event has. -/
def Resolves (event : Event) : ValueHolder → Prop
  | .constant literal _ => literal.isFinite = true
  | .event id _ => ∃ value, event.get? id = some value

/-- Why the holder of an ordinal stands for no value when the event occurs. -/
inductive Unresolved (event : Event) (n : Nat) : ValueHolder → BindError → Prop where
  | missing {id : String} {type : AttributeType} (absent : event.get? id = none) :
      Unresolved event n (.event id type) (.missingAttribute n id)
  | unrepresentable {literal : Literal} {type : AttributeType}
      (infinite : literal.isFinite = false) :
      Unresolved event n (.constant literal type) (.unrepresentable n)

theorem value?_isSome (literal : Literal) : literal.value?.isSome = literal.isFinite := by
  cases literal with
  | double d => cases finite : d.isFinite <;> simp [Literal.value?, Literal.isFinite, finite]
  | _ => rfl

theorem resolves_iff : holder.Resolves event ↔ ∃ value, holder.Gives event value := by
  cases holder with
  | constant literal type =>
    simp only [Resolves, Gives, ← value?_isSome, Option.isSome_iff_exists]
  | event id type => rfl

theorem resolve_eq_ok_iff {value : Json} :
    holder.resolve event n = .ok value ↔ holder.Gives event value := by
  constructor
  · exact resolve_ok
  · intro given
    cases holder <;> simp only [Gives] at given <;> simp [resolve, given]

theorem resolve_eq_error_iff :
    holder.resolve event n = .error err ↔ holder.Unresolved event n err := by
  cases holder with
  | constant literal type =>
    have known := value?_isSome literal
    constructor
    · intro failed
      cases value : literal.value? with
      | some v => simp [resolve, value] at failed
      | none =>
        obtain rfl : .unrepresentable n = err := by simpa [resolve, value] using failed
        exact .unrepresentable (by simpa [value] using known.symm)
    · rintro ⟨⟩
      rename_i infinite
      have none : literal.value? = none := by simpa [infinite] using known
      simp [resolve, none]
  | event id type =>
    constructor
    · intro failed
      cases value : event.get? id with
      | some v => simp [resolve, value] at failed
      | none =>
        obtain rfl : .missingAttribute n id = err := by simpa [resolve, value] using failed
        exact .missing value
    · rintro ⟨⟩
      rename_i absent
      simp [resolve, absent]

end ValueHolder

theorem Json.isString_iff {value : Json} : value.isString = true ↔ ∃ s, value = .string s := by
  cases value <;> simp [isString, string?]

namespace CompiledCondition

/-- A slot is filled by the parameter when the event occurs. -/
structure Fills (c : CompiledCondition) (event : Event) (slot : Nat × ValueHolder)
    (p : BoundParameter) : Prop where
  name : p.name = "@p" ++ toString slot.1
  value : slot.2.Gives event p.value
  pattern : slot.1 ∈ c.patternOrdinals.elems → ∃ s, p.value = .string s

/-- A slot can be filled when the event occurs. -/
structure Fillable (c : CompiledCondition) (event : Event) (slot : Nat × ValueHolder) : Prop where
  resolves : slot.2.Resolves event
  pattern : slot.1 ∈ c.patternOrdinals.elems → ∃ s, slot.2.Gives event (.string s)

/-- Why a slot cannot be filled when the event occurs. Only a value that there is can be of the
wrong kind. -/
inductive Fails (c : CompiledCondition) (event : Event) (slot : Nat × ValueHolder) :
    BindError → Prop where
  | unresolved {err : BindError} (failed : slot.2.Unresolved event slot.1 err) :
      Fails c event slot err
  | patternNotString {value : Json} (pattern : slot.1 ∈ c.patternOrdinals.elems)
      (given : slot.2.Gives event value) (other : ¬ ∃ s, value = .string s) :
      Fails c event slot (.patternNotString slot.1)

variable {c : CompiledCondition} {event : Event} {slot : Nat × ValueHolder}

theorem isPattern_iff {n : Nat} : c.isPattern n = true ↔ n ∈ c.patternOrdinals.elems := by
  simp [isPattern, OrdinalSet.contains]

/-- The value of a slot is tested after it has been found. -/
theorem bindSlot_of_gives {value : Json} (given : slot.2.Gives event value) :
    c.bindSlot event slot.1 slot.2 =
      if c.isPattern slot.1 && !value.isString then .error (.patternNotString slot.1)
      else .ok ⟨parameterName slot.1, value⟩ := by
  rw [bindSlot, ValueHolder.resolve_eq_ok_iff.2 given]
  simp only [Bind.bind, Except.bind]
  split <;> rfl

theorem bindSlot_eq_ok_iff {p : BoundParameter} :
    c.bindSlot event slot.1 slot.2 = .ok p ↔ c.Fills event slot p := by
  constructor
  · intro bound
    obtain ⟨name, given⟩ := bindSlot_ok bound
    refine ⟨name, given, fun pattern => ?_⟩
    rw [bindSlot_of_gives given, isPattern_iff.2 pattern] at bound
    rw [← Json.isString_iff]
    cases tested : p.value.isString with
    | true => rfl
    | false => simp [tested] at bound
  · intro filled
    have fits : ¬ (c.isPattern slot.1 && !p.value.isString) = true := by
      intro refused
      simp only [Bool.and_eq_true, isPattern_iff, Bool.not_eq_true'] at refused
      rw [Json.isString_iff.2 (filled.pattern refused.1)] at refused
      exact Bool.noConfusion refused.2
    obtain ⟨name, value⟩ := p
    obtain rfl : name = parameterName slot.1 := filled.name
    rw [bindSlot_of_gives filled.value, if_neg fits]

theorem bindSlot_eq_error_iff {err : BindError} :
    c.bindSlot event slot.1 slot.2 = .error err ↔ c.Fails event slot err := by
  constructor
  · intro failed
    cases resolved : slot.2.resolve event slot.1 with
    | error other =>
      obtain rfl : other = err := by
        simpa [bindSlot, resolved, Bind.bind, Except.bind] using failed
      exact .unresolved (ValueHolder.resolve_eq_error_iff.1 resolved)
    | ok value =>
      have given := ValueHolder.resolve_ok resolved
      rw [bindSlot_of_gives given] at failed
      split at failed
      · rename_i refused
        obtain rfl := Except.error.inj failed
        simp only [Bool.and_eq_true, isPattern_iff, Bool.not_eq_true'] at refused
        refine .patternNotString refused.1 given ?_
        simp [← Json.isString_iff, refused.2]
      · contradiction
  · intro fails
    cases fails with
    | unresolved failed =>
      have resolved := ValueHolder.resolve_eq_error_iff.2 failed
      simp [bindSlot, resolved, Bind.bind, Except.bind]
    | patternNotString pattern given other =>
      rw [← Json.isString_iff, Bool.not_eq_true] at other
      simp [bindSlot_of_gives given, isPattern_iff.2 pattern, other]

theorem fillable_iff : c.Fillable event slot ↔ ∃ p, c.Fills event slot p := by
  constructor
  · intro fillable
    obtain ⟨value, given⟩ := ValueHolder.resolves_iff.1 fillable.resolves
    refine ⟨⟨_, value⟩, rfl, given, fun pattern => ?_⟩
    obtain ⟨s, other⟩ := fillable.pattern pattern
    have same := (ValueHolder.resolve_eq_ok_iff (n := 0)).2 given
    rw [ValueHolder.resolve_eq_ok_iff.2 other] at same
    exact ⟨s, (Except.ok.inj same).symm⟩
  · rintro ⟨p, filled⟩
    refine ⟨ValueHolder.resolves_iff.2 ⟨_, filled.value⟩, fun pattern => ?_⟩
    obtain ⟨s, text⟩ := filled.pattern pattern
    exact ⟨s, text ▸ filled.value⟩

theorem bind_eq_ok_iff {parameters : List BoundParameter} :
    c.bind event = .ok parameters ↔
      List.Forall₂ (c.Fills event) c.parameters.entries parameters := by
  simp only [bind, mapM_eq_ok_iff, bindSlot_eq_ok_iff]

theorem exists_bind_iff :
    (∃ parameters, c.bind event = .ok parameters) ↔
      ∀ slot ∈ c.parameters.entries, c.Fillable event slot := by
  simp only [bind, exists_mapM_eq_ok_iff, bindSlot_eq_ok_iff, ← fillable_iff]

/-- Slots are tried in the order of their ordinals. -/
theorem bind_eq_error_iff {err : BindError} :
    c.bind event = .error err ↔ ∃ slot ∈ c.parameters.entries, c.Fails event slot err ∧
      ∀ other ∈ c.parameters.entries, other.1 < slot.1 → c.Fillable event other := by
  simp only [bind, mapM_eq_error_iff, bindSlot_eq_error_iff, bindSlot_eq_ok_iff, ← fillable_iff]
  have ascending := c.parameters.ascending
  constructor
  · rintro ⟨before, slot, after, parts, passed, fails⟩
    refine ⟨slot, by simp [parts], fails, fun other member lower => passed other ?_⟩
    rw [parts] at member ascending
    obtain ⟨-, later, -⟩ := List.pairwise_append.1 ascending
    rcases List.mem_append.1 member with earlier | member
    · exact earlier
    · rcases List.mem_cons.1 member with rfl | member
      · exact absurd lower (Nat.lt_irrefl _)
      · exact absurd lower (Nat.lt_asymm ((List.pairwise_cons.1 later).1 other member))
  · rintro ⟨slot, member, fails, passed⟩
    obtain ⟨before, after, parts⟩ := List.append_of_mem member
    refine ⟨before, slot, after, parts, fun other earlier => passed other ?_ ?_, fails⟩
    · simp [parts, earlier]
    · rw [parts] at ascending
      exact (List.pairwise_append.1 ascending).2.2 other earlier slot List.mem_cons_self

/-- Only the attributes that the holders name are read from an event. -/
theorem bind_congr {event' : Event}
    (agree : ∀ n id type, (n, .event id type) ∈ c.parameters.entries →
      event'.get? id = event.get? id) : c.bind event' = c.bind event := by
  refine mapM_congr ?_
  rintro ⟨n, holder⟩ member
  cases holder with
  | constant literal type => rfl
  | event id type => simp only [bindSlot, ValueHolder.resolve, agree n id type member]

/-- A condition is bound exactly if each slot can be filled, and then by one parameter for each slot
in ascending order of the ordinals. Otherwise the least ordinal that fails says why, and events
with the same values for the attributes that the slots name are not told apart. -/
theorem bind_of_slots (c : CompiledCondition) (event : Event) :
    ((∃ parameters, c.bind event = .ok parameters) ↔
        ∀ slot ∈ c.parameters.entries, c.Fillable event slot) ∧
      (∀ parameters, c.bind event = .ok parameters ↔
        List.Forall₂ (c.Fills event) c.parameters.entries parameters) ∧
      (c.parameters.entries.map Prod.fst).Pairwise (· < ·) ∧
      (∀ err, c.bind event = .error err ↔
        ∃ slot ∈ c.parameters.entries, c.Fails event slot err ∧
          ∀ other ∈ c.parameters.entries, other.1 < slot.1 → c.Fillable event other) ∧
      ∀ event' : Event,
        (∀ n id type, (n, .event id type) ∈ c.parameters.entries →
          event'.get? id = event.get? id) →
        c.bind event' = c.bind event :=
  ⟨exists_bind_iff, fun _ => bind_eq_ok_iff, List.pairwise_map.2 c.parameters.ascending,
    fun _ => bind_eq_error_iff, fun _ => bind_congr⟩

/-- A condition whose slots have gaps between them; the last but one is a pattern. -/
def gapped : CompiledCondition where
  table := "T"
  text := "? ? ?"
  parameters := .ofList [(10, .event "limit" .int), (2, .constant (.long 5) .int),
    (9, .event "name" .string)]
  patternOrdinals := .ofList [9]
  markerOffsets := [0, 2, 4]
  join := .empty "S"
  membership := false

theorem entries_gapped :
    gapped.parameters.entries =
      [(2, .constant (.long 5) .int), (9, .event "name" .string), (10, .event "limit" .int)] := by
  decide

theorem patterns_gapped : gapped.patternOrdinals.elems = [9] := by decide

theorem bind_of_gapped :
    gapped.bind [("limit", .null), ("name", .string "x")] =
        .ok [⟨"@p2", .int 5⟩, ⟨"@p9", .string "x"⟩, ⟨"@p10", .null⟩] ∧
      gapped.bind [("limit", .null), ("name", .string "x"), ("other", .bool true)] =
        gapped.bind [("limit", .null), ("name", .string "x")] ∧
      gapped.bind [("name", .null)] = .error (.patternNotString 9) ∧
      ¬ ∃ parameters, gapped.bind [("name", .string "x")] = .ok parameters := by
  obtain ⟨-, bound, -, -, agree⟩ := bind_of_slots gapped [("limit", .null), ("name", .string "x")]
  obtain ⟨-, -, -, failed, -⟩ := bind_of_slots gapped [("name", .null)]
  obtain ⟨filled, -⟩ := bind_of_slots gapped [("name", .string "x")]
  rw [entries_gapped] at bound agree failed filled
  refine ⟨?_, ?_, ?_, ?_⟩
  · have first : gapped.Fills [("limit", .null), ("name", .string "x")]
        (2, .constant (.long 5) .int) ⟨"@p2", .int 5⟩ := ⟨rfl, rfl, by simp [patterns_gapped]⟩
    have second : gapped.Fills [("limit", .null), ("name", .string "x")]
        (9, .event "name" .string) ⟨"@p9", .string "x"⟩ := ⟨rfl, rfl, fun _ => ⟨"x", rfl⟩⟩
    have third : gapped.Fills [("limit", .null), ("name", .string "x")]
        (10, .event "limit" .int) ⟨"@p10", .null⟩ := ⟨rfl, rfl, by simp [patterns_gapped]⟩
    exact (bound _).2 (.cons first (.cons second (.cons third .nil)))
  · refine agree _ ?_
    intro n id type member
    simp only [List.mem_cons, Prod.mk.injEq, ValueHolder.event.injEq, reduceCtorEq, and_false,
      List.not_mem_nil, or_false, false_or] at member
    rcases member with ⟨-, rfl, -⟩ | ⟨-, rfl, -⟩ <;> rfl
  · have notString : gapped.Fails [("name", .null)] (9, .event "name" .string)
        (.patternNotString 9) := by
      have given : (ValueHolder.event "name" .string).Gives [("name", .null)] .null := rfl
      exact .patternNotString (by simp [patterns_gapped]) given (by simp)
    refine (failed _).2 ⟨_, by simp, notString, ?_⟩
    intro other member lower
    have constant : gapped.Fillable [("name", .null)] (2, .constant (.long 5) .int) :=
      ⟨rfl, by simp [patterns_gapped]⟩
    simp only [List.mem_cons, List.not_mem_nil, or_false] at member
    rcases member with rfl | rfl | rfl
    · exact constant
    · contradiction
    · contradiction
  · rw [filled]
    intro each
    obtain ⟨value, present⟩ := (each (10, .event "limit" .int) (by simp)).resolves
    contradiction

end CompiledCondition
end ConditionQuery
