import ConditionQuery.Proofs.Rendering

/-! The slots of a compiled condition. They are the values of the tree, numbered from one in the
order of a walk, and the marker of each stands at its own offset of the text. -/
namespace ConditionQuery

namespace OrdinalMap

variable {α : Type}

theorem keys_numberFrom (n : Nat) (values : List α) :
    (numberFrom n values).map Prod.fst = List.range' n values.length := by
  induction values generalizing n with
  | nil => rfl
  | cons a rest ih => simp [numberFrom, ih, List.range'_succ]

theorem size_enumerate (values : List α) : (enumerate values).size = values.length := by
  have keys := congrArg List.length (keys_numberFrom 1 values)
  rwa [List.length_map, List.length_range'] at keys

theorem find?_numberFrom (n k : Nat) (values : List α) :
    (numberFrom n values).find? (fun entry => entry.1 == n + k) =
      values[k]?.map fun a => (n + k, a) := by
  induction values generalizing n k with
  | nil => rfl
  | cons a rest ih =>
    cases k with
    | zero => simp [numberFrom]
    | succ k =>
      have later := ih (n + 1) k
      rw [Nat.add_right_comm, Nat.add_assoc] at later
      simpa [numberFrom, List.find?_cons] using later

theorem get?_enumerate (values : List α) (k : Nat) :
    (enumerate values).get? (k + 1) = values[k]? := by
  have found := find?_numberFrom 1 k values
  rw [Nat.add_comm] at found
  rw [get?, enumerate, found, Option.map_map]
  simp [Function.comp_def]

theorem mem_numberFrom {n m : Nat} {a : α} {values : List α} :
    (m, a) ∈ numberFrom n values ↔ ∃ k, m = n + k ∧ values[k]? = some a := by
  induction values generalizing n with
  | nil => simp [numberFrom]
  | cons b rest ih =>
    simp only [numberFrom, List.mem_cons, Prod.mk.injEq, ih]
    constructor
    · rintro (⟨rfl, rfl⟩ | ⟨k, rfl, found⟩)
      · exact ⟨0, rfl, rfl⟩
      · exact ⟨k + 1, by omega, found⟩
    · rintro ⟨k, rfl, found⟩
      cases k with
      | zero => exact .inl ⟨rfl, (Option.some.inj found).symm⟩
      | succ k => exact .inr ⟨k, by omega, found⟩

theorem mem_ordinalsWhere_enumerate {p : α → Bool} {values : List α} {n : Nat} :
    n ∈ ((enumerate values).ordinalsWhere p).elems ↔
      ∃ k a, n = k + 1 ∧ values[k]? = some a ∧ p a = true := by
  simp only [ordinalsWhere, enumerate, List.mem_map, List.mem_filter, Prod.exists,
    mem_numberFrom]
  constructor
  · rintro ⟨m, a, ⟨⟨k, rfl, found⟩, holds⟩, rfl⟩
    exact ⟨k, a, Nat.add_comm 1 k, found, holds⟩
  · rintro ⟨k, a, rfl, found, holds⟩
    exact ⟨k + 1, a, ⟨⟨k, Nat.add_comm k 1, found⟩, holds⟩, rfl⟩

end OrdinalMap

namespace Expr

variable {options : CompileOptions} {e : Expr} {c : CompiledCondition}

theorem get?_parameters (names : e.NamesAll (fun name => '[' ∉ name.toList) options)
    (compiled : e.compile options = .ok c) (k : Nat) :
    c.parameters.get? (k + 1) = e.holders[k]? := by
  rw [(compile_renders names compiled).parameters, slots_template compiled]
  exact OrdinalMap.get?_enumerate e.holders k

/-- The slots are the values of the tree in the order of a walk, and the markers stand in that
order at the offsets. -/
theorem slots_of_compile (names : e.NamesAll (fun name => '[' ∉ name.toList) options)
    (compiled : e.compile options = .ok c) :
    c.parameters.entries.map Prod.fst = List.range' 1 e.holders.length ∧
      (∀ k, c.parameters.get? (k + 1) = e.holders[k]?) ∧
      c.markerOffsets.length = e.holders.length ∧
      c.markerOffsets.Pairwise (· < ·) ∧
      ∀ offset ∈ c.markerOffsets, Template.MarkedAt c.text.toList offset := by
  have renders := compile_renders names compiled
  have slots := slots_template compiled
  have parameters : c.parameters = .enumerate e.holders := by rw [renders.parameters, slots]
  refine ⟨?_, ?_, ?_, ?_, ?_⟩
  · rw [parameters]
    exact OrdinalMap.keys_numberFrom 1 e.holders
  · intro k
    rw [parameters]
    exact OrdinalMap.get?_enumerate e.holders k
  · rw [renders.markerOffsets, Template.length_offsets, slots]
  · rw [renders.markerOffsets]
    exact Template.offsets_ascending 0 _
  · intro offset member
    rw [renders.markerOffsets] at member
    rw [renders.text]
    exact Template.markedAt_of_mem_offsets member

/-- A tree whose attribute looks like a marker between blanks. -/
def likeMarkers : Expr :=
  .compare .greaterThan (.storeVariable "stock" " é]? " .int)
    (.math .add (.streamVariable "volume" none .int) (.constant (.long 5) .int))

/-- Options whose table looks like a marker. -/
def likeMarker : CompileOptions := ⟨"?]", false, "S"⟩

theorem slots_of_likeMarkers :
    ∃ c, likeMarkers.compile likeMarker = .ok c ∧
      c.text = "(?]. é]?  > (? + ?))" ∧ c.markerOffsets = [14, 18] ∧
      c.parameters.get? 1 = some (.event "volume" .int) ∧
      c.parameters.get? 2 = some (.constant (.long 5) .int) ∧
      ∀ offset ∈ c.markerOffsets, Template.MarkedAt c.text.toList offset := by
  have compiled := compile_eq likeMarker likeMarkers
  have renders := compile_renders (by decide) compiled
  obtain ⟨-, slots, -, -, marked⟩ := slots_of_compile (by decide) compiled
  have offsets := renders.markerOffsets.trans
    (by decide : Template.offsets 0 (likeMarkers.template likeMarker) = [14, 18])
  have text : _ = "(?]. é]?  > (? + ?))" :=
    String.toList_inj.1 (renders.text.trans (by decide))
  exact ⟨_, compiled, text, offsets, slots 0, slots 1, marked⟩

end Expr
end ConditionQuery
