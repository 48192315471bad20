import ConditionQuery.Compile.Binding
import ConditionQuery.Proofs.Slots

/-! Statements ready for the store. The query names a parameter at the place of each value of the
tree, and the parameters give the values in that order. -/
namespace ConditionQuery

/-- A traversal succeeds with what each element gives. -/
theorem mapM_eq_ok_iff {α β ε : Type} {f : α → Except ε β} {xs : List α} {ys : List β} :
    xs.mapM f = .ok ys ↔ List.Forall₂ (fun x y => f x = .ok y) xs ys := by
  induction xs generalizing ys with
  | nil => cases ys <;> simp [pure, Except.pure]
  | cons x xs ih =>
    rw [List.mapM_cons]
    cases first : f x with
    | error err => cases ys <;> simp [first, bind, Except.bind]
    | ok y =>
      cases others : xs.mapM f with
      | error err => cases ys <;> simp [first, bind, Except.bind, ← ih, others]
      | ok rest => cases ys <;> simp [first, bind, Except.bind, pure, Except.pure, ← ih, others]

/-- What the holder stands for when the event occurs. -/
def ValueHolder.Gives (event : Event) : ValueHolder → Json → Prop
  | .constant literal _, value => literal.value? = some value
  | .event id _, value => event.get? id = some value

theorem ValueHolder.resolve_ok {event : Event} {ordinal : Nat} {holder : ValueHolder} {value : Json}
    (resolved : holder.resolve event ordinal = .ok value) : holder.Gives event value := by
  cases holder with
  | constant literal type =>
    cases given : literal.value? with
    | none => simp [resolve, given] at resolved
    | some v =>
      obtain rfl : v = value := by simpa [resolve, given] using resolved
      exact given
  | event id type =>
    cases given : event.get? id with
    | none => simp [resolve, given] at resolved
    | some v =>
      obtain rfl : v = value := by simpa [resolve, given] using resolved
      exact given

namespace CompiledCondition

variable {c : CompiledCondition} {event : Event}

theorem bindSlot_ok {ordinal : Nat} {holder : ValueHolder} {p : BoundParameter}
    (bound : c.bindSlot event ordinal holder = .ok p) :
    p.name = parameterName ordinal ∧ holder.Gives event p.value := by
  unfold bindSlot at bound
  cases resolved : holder.resolve event ordinal with
  | error err => simp [resolved, Bind.bind, Except.bind] at bound
  | ok value =>
    simp only [resolved, Except.bind, Bind.bind] at bound
    split at bound
    · contradiction
    · obtain rfl : ⟨parameterName ordinal, value⟩ = p := by simpa [pure, Except.pure] using bound
      exact ⟨rfl, ValueHolder.resolve_ok resolved⟩

/-- Slots numbered from `n` on are bound one after the other. -/
theorem bindSlots_ok {n : Nat} {holders : List ValueHolder} {parameters : List BoundParameter}
    (bound : (OrdinalMap.numberFrom n holders).mapM
      (fun (ordinal, holder) => c.bindSlot event ordinal holder) = .ok parameters) :
    parameters.map BoundParameter.name = (List.range' n holders.length).map parameterName ∧
      List.Forall₂ (ValueHolder.Gives event) holders (parameters.map BoundParameter.value) := by
  rw [mapM_eq_ok_iff] at bound
  induction holders generalizing n parameters with
  | nil =>
    cases bound
    exact ⟨rfl, .nil⟩
  | cons holder holders ih =>
    cases bound with
    | cons first others =>
      obtain ⟨name, value⟩ := bindSlot_ok first
      obtain ⟨names, values⟩ := ih others
      exact ⟨by simp [name, names, List.range'_succ], .cons value values⟩

/-- Nothing before the text of the condition depends on it. -/
theorem statement_eq (c : CompiledCondition) (projection : Projection) {text text' : String}
    (together : text.isEmpty = text'.isEmpty) :
    ∃ front, c.statement projection text = front ++ text ∧
      c.statement projection text' = front ++ text' := by
  unfold statement
  cases empty : text.isEmpty with
  | true =>
    rw [empty] at together
    rw [String.isEmpty_iff.1 empty, String.isEmpty_iff.1 together.symm]
    exact ⟨_, (String.append_empty).symm, (String.append_empty).symm⟩
  | false =>
    simp only [← together, empty]
    exact ⟨_, (String.append_assoc ..).symm, (String.append_assoc ..).symm⟩

/-- The statement of a condition whose slots are filled. -/
theorem build_ok {spec : QuerySpec} (built : QuerySpec.build c event = .ok spec) :
    c.bind event = .ok spec.parameters ∧
      spec.query = c.statement c.projection (c.namedText parameterName) := by
  unfold QuerySpec.build at built
  cases bound : c.bind event with
  | error err => simp [bound, Bind.bind, Except.bind] at built
  | ok parameters =>
    obtain rfl : ⟨c.statement c.projection (c.namedText parameterName), parameters⟩ = spec := by
      simpa [bound, Bind.bind, Except.bind, pure, Except.pure] using built
    exact ⟨rfl, rfl⟩

end CompiledCondition

namespace Template

theorem fill_eq_nil {α : Type} {name : Nat → String} (named : ∀ k, (name k).toList ≠ []) {k : Nat}
    {t : Template α} : fill name k t = [] ↔ t = [] := by
  cases t with
  | nil => simp [fill]
  | cons g t => cases g <;> simp [fill, named]

end Template

/-- A condition has a text as long as it has one with its parameters named. -/
theorem CompiledCondition.Renders.isEmpty_namedText {c : CompiledCondition}
    {t : Template ValueHolder} (renders : c.Renders t) :
    c.text.isEmpty = (c.namedText parameterName).isEmpty := by
  rw [Bool.eq_iff_iff, String.isEmpty_iff, String.isEmpty_iff, ← String.toList_eq_nil_iff,
    ← String.toList_eq_nil_iff, renders.text, renders.namedText,
    Template.fill_eq_nil (by simp [parameterName])]
  exact List.map_eq_nil_iff

namespace Expr

variable {options : CompileOptions} {e : Expr} {c : CompiledCondition} {event : Event}
  {spec : QuerySpec}

/-- The k-th parameter gives the k-th value of the tree, and the statement names the parameters at
the slots of the tree's template. All else is as in the text of the condition, also where a name
has the character of a marker, which the template holds as a character like any other. -/
theorem build_of_compile (names : e.NamesAll (fun name => '[' ∉ name.toList) options)
    (compiled : e.compile options = .ok c) (built : QuerySpec.build c event = .ok spec) :
    spec.parameters.map BoundParameter.name =
        (List.range' 1 e.holders.length).map parameterName ∧
      List.Forall₂ (ValueHolder.Gives event) e.holders
        (spec.parameters.map BoundParameter.value) ∧
      (e.template options).slots = e.holders ∧
      c.text.toList = (e.template options).shown ∧
      c.markerOffsets = (e.template options).offsets 0 ∧
      ∃ front, c.query = front ++ c.text ∧
        spec.query = front ++ String.ofList ((e.template options).fill parameterName 1) := by
  have renders := compile_renders names compiled
  have slots := slots_template compiled
  have numbered : c.parameters = .enumerate e.holders := by rw [renders.parameters, slots]
  obtain ⟨bound, query⟩ := CompiledCondition.build_ok built
  rw [CompiledCondition.bind, numbered] at bound
  obtain ⟨given, values⟩ := CompiledCondition.bindSlots_ok bound
  obtain ⟨front, positional, named⟩ := c.statement_eq c.projection renders.isEmpty_namedText
  refine ⟨given, values, slots, renders.text, renders.markerOffsets, front, positional, ?_⟩
  rw [← renders.namedText, String.ofList_toList, query]
  exact named

theorem build_of_likeMarkers :
    ∃ c spec, likeMarkers.compile likeMarker = .ok c ∧
      QuerySpec.build c [("volume", .int 7)] = .ok spec ∧
      spec.query = "SELECT * FROM ?] WHERE (?]. é]?  > (@p1 + @p2))" ∧
      spec.parameters.map BoundParameter.name = ["@p1", "@p2"] ∧
      List.Forall₂ (ValueHolder.Gives [("volume", .int 7)])
        [.event "volume" .int, .constant (.long 5) .int]
        (spec.parameters.map BoundParameter.value) := by
  have compiled := compile_eq likeMarker likeMarkers
  have query : (QuerySpec.build (likeMarkers.finish likeMarker (likeMarkers.draft likeMarker))
      [("volume", .int 7)]).toOption.map QuerySpec.query =
        some "SELECT * FROM ?] WHERE (?]. é]?  > (@p1 + @p2))" := by decide +kernel
  cases built : QuerySpec.build (likeMarkers.finish likeMarker (likeMarkers.draft likeMarker))
      [("volume", .int 7)] with
  | error err => simp [built, Except.toOption] at query
  | ok spec =>
    obtain ⟨named, values, -⟩ := build_of_compile (by decide) compiled built
    exact ⟨_, spec, compiled, built, by simpa [built, Except.toOption] using query, named, values⟩

end Expr
end ConditionQuery
