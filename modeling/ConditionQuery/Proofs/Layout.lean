import ConditionQuery.Proofs.Entries
import ConditionQuery.Proofs.MarkedText
import Mathlib.Data.List.Nodup

/-! The template of a tree: its entries laid side by side as the tokens of a draft are. A draft that
is being written always holds a template, under names that are all different, so the finished text
is read back as the template of the tree. -/
namespace ConditionQuery

namespace Glyph

variable {α β : Type}

def isChar (c : Char) : Glyph α → Bool
  | .char d => d == c
  | .slot _ => false

@[simp] theorem isChar_map (f : α → β) (c : Char) (g : Glyph α) :
    (g.map f).isChar c = g.isChar c := by
  cases g <;> rfl

end Glyph

namespace Template

variable {α β : Type}

/-- Whether a token follows a template without a blank between them. -/
def glued (t token : Template α) : Bool :=
  t.isEmpty || t.getLast?.any (Glyph.isChar '(') ||
    token.head?.any (Glyph.isChar ')') || token.head?.any (Glyph.isChar ',')

def add (t token : Template α) : Template α :=
  (if glued t token then t else t ++ [.char ' ']) ++ token

def lay (t : Template ValueHolder) : Entry → Template ValueHolder
  | .token s => t.add (ofChars s.toList)
  | .value _ holder => t.add [.slot holder]
  | .correlated _ | .latest _ => t

theorem add_map (f : α → β) (t token : Template α) :
    (add t token).map (Glyph.map f) = add (t.map (Glyph.map f)) (token.map (Glyph.map f)) := by
  have same : glued (t.map (Glyph.map f)) (token.map (Glyph.map f)) = glued t token := by
    simp [glued, List.getLast?_map, List.head?_map, Option.any_map]
  simp only [add, same]
  split <;> simp

@[simp] theorem slots_add (t token : Template α) :
    slots (add t token) = slots t ++ slots token := by
  unfold add
  split <;> simp

theorem mem_add {g : Glyph α} {t token : Template α} (member : g ∈ add t token) :
    g ∈ t ∨ g = .char ' ' ∨ g ∈ token := by
  unfold add at member
  split at member
  · exact (List.mem_append.1 member).imp_right .inr
  · simpa [or_assoc] using member

theorem isEmpty_source (t : Template NamedValue) : (source t).isEmpty = t.isEmpty := by
  cases t with
  | nil => rfl
  | cons g t => cases g <;> rfl

theorem head?_source (t : Template NamedValue) {c : Char} (plain : c ≠ '[') :
    ((source t).head? == some c) = t.head?.any (Glyph.isChar c) := by
  cases t with
  | nil => rfl
  | cons g t =>
    cases g with
    | char d => simp [source, Glyph.isChar]
    | slot named => simpa [source, Glyph.isChar] using plain.symm

theorem getLast?_source (t : Template NamedValue) {c : Char} (plain : c ≠ ']') :
    ((source t).getLast? == some c) = t.getLast?.any (Glyph.isChar c) := by
  rcases List.eq_nil_or_concat t with rfl | ⟨front, g, rfl⟩
  · rfl
  · cases g with
    | char d => simp [source, Glyph.isChar]
    | slot named =>
      have last : (source (front ++ [.slot named])).getLast? = some ']' := by
        simp [source, List.getLast?_cons, List.getLast?_append]
      rw [List.concat_eq_append, last]
      simpa [Glyph.isChar] using plain.symm

/-- Tokens are laid side by side in a text as in the template that it stands for. -/
theorem toList_addToken {text token : String} {t u : Template NamedValue}
    (held : text.toList = source t) (added : token.toList = source u) :
    (addToken text token).toList = source (add t u) := by
  have same : isGlued text token = glued t u := by
    have empty : text.isEmpty = t.isEmpty := by
      rw [← isEmpty_source, ← held, Bool.eq_iff_iff, String.isEmpty_iff, List.isEmpty_iff,
        String.toList_eq_nil_iff]
    have opened := getLast?_source t (c := '(') (by decide)
    have closing := head?_source u (c := ')') (by decide)
    have comma := head?_source u (c := ',') (by decide)
    simp only [isGlued, glued, empty, String.back?_eq, held, added, opened, closing, comma]
  simp only [addToken, add, same]
  split <;> simp [held, added, source]

end Template

namespace PlaceholderTable

theorem get?_of_mem {table : PlaceholderTable} {named : NamedValue}
    (distinct : (table.map Prod.fst).Nodup) (member : named ∈ table) :
    table.get? named.1 = some named.2 := by
  induction table with
  | nil => simp at member
  | cons entry table ih =>
    obtain ⟨other, distinct⟩ := List.nodup_cons.1 distinct
    rcases List.mem_cons.1 member with rfl | member
    · simp [get?]
    · have differs : entry.1 ≠ named.1 := by
        intro same
        exact other (List.mem_map.2 ⟨named, member, same.symm⟩)
      simpa [get?, List.find?_cons, differs] using ih distinct member

end PlaceholderTable

/-- What holds of a draft at every point of a walk: its text stands for the template, and the values
of the template have different names, given so far and known to the draft. -/
structure Draft.Holds (d : Draft) (t : Template NamedValue) : Prop where
  text : d.text.toList = Template.source t
  placeholders : d.placeholders = (Template.slots t).reverse
  given : ∀ named ∈ Template.slots t, d.names.Given named.1
  distinct : ((Template.slots t).map Prod.fst).Nodup

namespace Draft

variable {options : CompileOptions} {d : Draft} {t : Template NamedValue}

theorem holds_start (options : CompileOptions) : (start options).Holds [] where
  text := rfl
  placeholders := rfl
  given _ member := by simp at member
  distinct := .nil

theorem Holds.token (holds : d.Holds t) (s : String) :
    (d.write options (.token s)).Holds (t.add (Template.ofChars s.toList)) where
  text := Template.toList_addToken holds.text (by simp)
  placeholders := by simpa [write] using holds.placeholders
  given := by simpa [write] using holds.given
  distinct := by simpa using holds.distinct

theorem Holds.value (holds : d.Holds t) (pattern : Bool) (holder : ValueHolder) :
    (d.write options (.value pattern holder)).Holds
      (t.add [.slot ((d.names.next holder.kind pattern).1, holder)]) where
  text := Template.toList_addToken holds.text (by simp [marker, Template.source])
  placeholders := by simp [write, PlaceholderTable.insert, holds.placeholders]
  given named member := by
    simp only [Template.slots_add, Template.slots_slot_cons, Template.slots_nil,
      List.mem_append, List.mem_singleton] at member
    rcases member with member | rfl
    · exact (holds.given named member).next holder.kind pattern
    · exact PlaceholderNames.given_next holder.kind pattern d.names
  distinct := by
    have fresh : ∀ named ∈ Template.slots t,
        named.1 ≠ (d.names.next holder.kind pattern).1 := by
      intro named member same
      have given := holds.given named member
      rw [same] at given
      exact PlaceholderNames.not_given_next holder.kind pattern d.names given
    simp only [Template.slots_add, Template.slots_slot_cons, Template.slots_nil, List.map_append,
      List.map_cons, List.map_nil]
    refine List.nodup_append.2 ⟨holds.distinct, List.nodup_singleton _, ?_⟩
    intro name earlier other new
    obtain ⟨named, member, rfl⟩ := List.mem_map.1 earlier
    rw [List.mem_singleton.1 new]
    exact fresh named member

/-- One entry extends the template. -/
theorem Holds.write (holds : d.Holds t) (options : CompileOptions) (entry : Entry) :
    ∃ u, (d.write options entry).Holds u ∧
      u.map (Glyph.map Prod.snd) = Template.lay (t.map (Glyph.map Prod.snd)) entry := by
  cases entry with
  | token s =>
    refine ⟨_, holds.token s, ?_⟩
    rw [Template.add_map]
    simp [Template.lay, Template.ofChars, Function.comp_def]
  | value pattern holder => exact ⟨_, holds.value pattern holder, Template.add_map _ _ _⟩
  | correlated attr => exact ⟨t, ⟨holds.text, holds.placeholders, holds.given, holds.distinct⟩, rfl⟩
  | latest key => exact ⟨t, ⟨holds.text, holds.placeholders, holds.given, holds.distinct⟩, rfl⟩

/-- So do the entries of a walk. -/
theorem Holds.run (holds : d.Holds t) (options : CompileOptions) (entries : List Entry) :
    ∃ u, (entries.foldl (Draft.write options) d).Holds u ∧
      u.map (Glyph.map Prod.snd) = entries.foldl Template.lay (t.map (Glyph.map Prod.snd)) := by
  induction entries generalizing d t with
  | nil => exact ⟨t, holds, rfl⟩
  | cons entry entries ih =>
    obtain ⟨u, step, laid⟩ := holds.write options entry
    rw [List.foldl_cons, List.foldl_cons, ← laid]
    exact ih step

theorem Holds.legible (holds : d.Holds t) (plain : ∀ c, .char c ∈ t → c ≠ '[') :
    Template.Legible d.placeholders t where
  plain := plain
  bracketFree named member := (holds.given named member).without_marks
  known named member := by
    rw [holds.placeholders]
    apply PlaceholderTable.get?_of_mem
    · rw [List.map_reverse]
      exact List.nodup_reverse.2 holds.distinct
    · exact List.mem_reverse.2 member

end Draft
end ConditionQuery
