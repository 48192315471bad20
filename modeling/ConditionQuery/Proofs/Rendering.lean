import ConditionQuery.Proofs.Layout
import ConditionQuery.Proofs.NamedText
import ConditionQuery.Proofs.Tokens
import ConditionQuery.Proofs.Walk

/-! A compiled condition renders the template of its tree: the text shows the template, the
parameters are its values and the offsets those of its markers. The names of the table may have any
characters but opening brackets. -/
namespace ConditionQuery

namespace Template

theorem slots_foldl_lay (entries : List Entry) (t : Template ValueHolder) :
    slots (entries.foldl lay t) = slots t ++ entries.filterMap Entry.holder? := by
  induction entries generalizing t with
  | nil => simp
  | cons entry entries ih =>
    rw [List.foldl_cons, ih]
    cases entry <;> simp [lay, Entry.holder?, List.filterMap_cons]

theorem char_foldl_lay {ok : Char → Prop} (blank : ok ' ') {entries : List Entry}
    (within : ∀ entry ∈ entries, entry.Within ok) {t : Template ValueHolder}
    (before : ∀ c, .char c ∈ t → ok c) : ∀ c, .char c ∈ entries.foldl lay t → ok c := by
  induction entries generalizing t with
  | nil => exact before
  | cons entry entries ih =>
    obtain ⟨first, rest⟩ := List.forall_mem_cons.1 within
    apply ih rest
    intro c member
    cases entry with
    | token s =>
      rcases mem_add member with earlier | separator | added
      · exact before c earlier
      · cases separator
        exact blank
      · simp only [ofChars, List.mem_map, Glyph.char.injEq, exists_eq_right] at added
        exact first c added
    | value pattern holder =>
      rcases mem_add member with earlier | separator | added
      · exact before c earlier
      · cases separator
        exact blank
      · simp at added
    | correlated attr | latest key => exact before c member

end Template

/-- The condition shows the template, and its slots are those of the template. -/
structure CompiledCondition.Renders (c : CompiledCondition) (t : Template ValueHolder) : Prop where
  text : c.text.toList = Template.shown t
  parameters : c.parameters = .enumerate (Template.slots t)
  markerOffsets : c.markerOffsets = Template.offsets 0 t

theorem CompiledCondition.Renders.namedText {c : CompiledCondition} {t : Template ValueHolder}
    (renders : c.Renders t) (name : Nat → String) :
    (c.namedText name).toList = Template.fill name 1 t := by
  rw [CompiledCondition.namedText, String.toList_ofList, renders.text, renders.markerOffsets,
    nameMarkers_offsets]

namespace Expr

variable {options : CompileOptions} {e : Expr} {c : CompiledCondition}

/-- The text of the tree before blanks around it are dropped. -/
def layout (options : CompileOptions) (e : Expr) : Template ValueHolder :=
  (e.entries options .free false).foldl Template.lay []

def template (options : CompileOptions) (e : Expr) : Template ValueHolder :=
  Template.trimmed (e.layout options)

def draft (options : CompileOptions) (e : Expr) : Draft :=
  (Draft.start options).after options (e.entries options .free false) false

theorem compile_eq (options : CompileOptions) (e : Expr) :
    e.compile options =
      match e.fault .free with
      | some err => .error err
      | none => .ok (e.finish options (e.draft options)) := by
  have walk : (emit options .free e).run (Draft.start options) = _ :=
    emit_performs .free e false (Draft.start options) rfl
  rw [compile, walk]
  cases e.fault .free with
  | some err => rfl
  | none => rfl

theorem compile_ok (compiled : e.compile options = .ok c) :
    e.fault .free = none ∧ c = e.finish options (e.draft options) := by
  rw [compile_eq] at compiled
  cases sound : e.fault .free with
  | some err => simp [sound] at compiled
  | none =>
    simp only [sound, Except.ok.injEq] at compiled
    exact ⟨rfl, compiled.symm⟩

theorem slots_layout (sound : e.fault .free = none) :
    Template.slots (e.layout options) = e.holders := by
  rw [layout, Template.slots_foldl_lay, holders_entries options sound false, Template.slots_nil,
    List.nil_append]

theorem slots_template (compiled : e.compile options = .ok c) :
    Template.slots (e.template options) = e.holders := by
  rw [template, Template.slots_trimmed, slots_layout (compile_ok compiled).1]

/-- The text of a tree has no other characters than those of statements and of its names. -/
theorem char_layout {ok : Char → Prop} (allowed : ∀ c ∈ statementChars, ok c)
    (names : e.NamesAll (fun name => ∀ c ∈ name.toList, ok c) options) :
    ∀ c, .char c ∈ e.layout options → ok c :=
  Template.char_foldl_lay (allowed ' ' (by decide))
    (within_entries allowed names.1 names.2 .free false) (by simp)

theorem char_template {ok : Char → Prop} (allowed : ∀ c ∈ statementChars, ok c)
    (names : e.NamesAll (fun name => ∀ c ∈ name.toList, ok c) options) :
    ∀ c, .char c ∈ e.template options → ok c := by
  intro c member
  exact char_layout allowed names c (Template.mem_of_mem_trimmed member)

/-- The names of the tree bring no opening bracket into its template. -/
theorem bracketFree_layout (names : e.NamesAll (fun name => '[' ∉ name.toList) options) :
    ∀ c, .char c ∈ e.layout options → c ≠ '[' := by
  have plain {cs : List Char} (free : '[' ∉ cs) : ∀ c ∈ cs, c ≠ '[' := List.forall_mem_ne'.2 free
  exact char_layout (plain (by decide))
    ⟨plain names.1, fun attr member => plain (names.2 attr member)⟩

/-- The finished draft holds the layout of the tree. -/
theorem exists_held (options : CompileOptions) (e : Expr) :
    ∃ t, (e.draft options).Holds t ∧ t.map (Glyph.map Prod.snd) = e.layout options := by
  obtain ⟨t, holds, laid⟩ :=
    (Draft.holds_start options).run options (e.entries options .free false)
  exact ⟨t, ⟨holds.text, holds.placeholders, holds.given, holds.distinct⟩, laid⟩

/-- Its text is read back as what it holds. -/
theorem exists_scanned (names : e.NamesAll (fun name => '[' ∉ name.toList) options) :
    ∃ t, (e.draft options).Holds t ∧ t.map (Glyph.map Prod.snd) = e.layout options ∧
      parametrize (e.draft options).text (e.draft options).placeholders = .ofTemplate t := by
  obtain ⟨t, held, laid⟩ := exists_held options e
  refine ⟨t, held, laid, ?_⟩
  have plain : ∀ c, .char c ∈ t → c ≠ '[' := by
    intro c member
    apply bracketFree_layout names
    rw [← laid]
    exact List.mem_map.2 ⟨.char c, member, rfl⟩
  rw [parametrize_eq, held.text]
  exact congrArg Parametrized.ofTemplate (Template.scan_source (held.legible plain))

/-- A compiled condition renders the template of its tree. -/
theorem compile_renders (names : e.NamesAll (fun name => '[' ∉ name.toList) options)
    (compiled : e.compile options = .ok c) : c.Renders (e.template options) := by
  obtain ⟨-, rfl⟩ := compile_ok compiled
  obtain ⟨t, -, layout, scanned⟩ := exists_scanned names
  have trimmed : e.template options = (Template.trimmed t).map (Glyph.map Prod.snd) := by
    rw [template, ← layout, Template.trimmed_map]
  constructor
  · simp [finish, scanned, Parametrized.ofTemplate, trimmed, Template.shown_map]
  · simp [finish, scanned, Parametrized.ofTemplate, trimmed, Template.slots_map]
  · simp [finish, scanned, Parametrized.ofTemplate, trimmed, Template.offsets_map]

end Expr
end ConditionQuery
