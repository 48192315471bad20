import ConditionQuery.Compile.Compiled
import ConditionQuery.Proofs.Template

/-! Texts with names at their marker offsets. Naming the markers of a template fills its slots. -/
namespace ConditionQuery

namespace Text

theorem cutAt?_append {n : Nat} {cs rest : List Char} (fits : byteLength cs ≤ n) :
    cutAt? n (cs ++ rest) =
      (cutAt? (n - byteLength cs) rest).map fun p => (cs ++ p.1, p.2) := by
  apply Option.ext
  rintro ⟨front, back⟩
  simp only [Option.map_eq_some_iff, Prod.exists, Prod.mk.injEq, cutAt?_eq_some_iff]
  constructor
  · rintro ⟨parts, size⟩
    rcases List.append_eq_append_iff.1 parts with ⟨more, rfl, rfl⟩ | ⟨more, rfl, rfl⟩
    · exact ⟨more, back, ⟨rfl, by simp only [byteLength_append] at size; omega⟩, rfl, rfl⟩
    · refine ⟨[], more ++ rest, ?_⟩
      simp only [byteLength_append] at fits
      have empty : more = [] := by
        cases more with
        | nil => rfl
        | cons c more =>
          have := c.utf8Size_pos
          simp only [byteLength_cons] at fits
          omega
      subst empty
      simp [size]
  · rintro ⟨middle, back, ⟨rfl, size⟩, rfl, rfl⟩
    refine ⟨by simp, ?_⟩
    simp only [byteLength_append]
    omega

end Text

namespace CompiledCondition

/-- Text before the first marker is kept. -/
theorem nameMarkers_append (name : Nat → String) {offsets : List Nat} {start : Nat}
    {cs : List Char} (beyond : ∀ offset ∈ offsets, start + Text.byteLength cs ≤ offset)
    (index : Nat) (rest : List Char) :
    nameMarkers name index start offsets (cs ++ rest) =
      cs ++ nameMarkers name index (start + Text.byteLength cs) offsets rest := by
  induction offsets generalizing index with
  | nil => rfl
  | cons offset offsets ih =>
    have here := beyond offset List.mem_cons_self
    have later := ih fun o member => beyond o (List.mem_cons_of_mem _ member)
    have same : offset - start - Text.byteLength cs = offset - (start + Text.byteLength cs) := by
      omega
    rw [nameMarkers, nameMarkers, if_neg (by omega), if_neg (by omega),
      Text.cutAt?_append (by omega), same]
    cases Text.cutAt? (offset - (start + Text.byteLength cs)) rest with
    | none => exact later _
    | some parts =>
      obtain ⟨front, back⟩ := parts
      cases back with
      | nil => exact later _
      | cons c back =>
        by_cases mark : c = '?'
        · subst mark
          simp [List.append_assoc]
        · simpa [mark] using later _

/-- Naming the markers of a template fills its slots. -/
theorem nameMarkers_offsets {α : Type} (name : Nat → String) (k o : Nat) (t : Template α) :
    nameMarkers name k o (Template.offsets o t) (Template.shown t) = Template.fill name k t := by
  induction t generalizing k o with
  | nil => rfl
  | cons g t ih =>
    cases g with
    | char c =>
      have beyond : ∀ offset ∈ Template.offsets (o + c.utf8Size) t,
          o + Text.byteLength [c] ≤ offset := by
        intro offset member
        simpa using Template.le_of_mem_offsets member
      simpa [Template.offsets, Template.fill, ih] using
        nameMarkers_append name beyond k (Template.shown t)
    | slot a => simp [Template.offsets, Template.fill, nameMarkers, Text.cutAt?, ih]

end CompiledCondition
end ConditionQuery
