import ConditionQuery.Compile.Parametrized
import ConditionQuery.Proofs.Template

/-! Texts with named markers, read as templates. What becomes of such a text is a matter of its
template alone, and a text written with the markers of known names is read as it was written. -/
namespace ConditionQuery

/-- A value under the name that stands for it. -/
abbrev NamedValue := String × ValueHolder

namespace Piece

def glyphs : Piece → Template NamedValue
  | .plain cs => Template.ofChars cs
  | .slot name holder => [.slot (name, holder)]

theorem flatMap_chars (ps : List Piece) :
    ps.flatMap chars = Template.shown (ps.flatMap glyphs) := by
  induction ps with
  | nil => rfl
  | cons p ps ih => cases p <;> simp [ih, chars, glyphs]

theorem filterMap_slot? (ps : List Piece) :
    ps.filterMap slot? = Template.slots (ps.flatMap glyphs) := by
  induction ps with
  | nil => rfl
  | cons p ps ih => cases p <;> simp [List.filterMap_cons, ih, slot?, glyphs]

theorem slotOffsets_eq (o : Nat) (ps : List Piece) :
    slotOffsets o ps = Template.offsets o (ps.flatMap glyphs) := by
  induction ps generalizing o with
  | nil => rfl
  | cons p ps ih =>
    cases p with
    | plain cs =>
      have empty := Template.offsets_eq_nil (Template.slots_ofChars (α := NamedValue) cs) o
      simp [slotOffsets, glyphs, ih, Template.offsets_append, empty]
    | slot name holder => simp [slotOffsets, glyphs, ih, Template.offsets]

end Piece

namespace OrdinalMap

variable {α β : Type}

theorem ext {m n : OrdinalMap α} (same : m.entries = n.entries) : m = n := by
  cases m
  cases n
  cases same
  rfl

theorem numberFrom_map (f : α → β) (n : Nat) (values : List α) :
    numberFrom n (values.map f) = (numberFrom n values).map fun e => (e.1, f e.2) := by
  induction values generalizing n with
  | nil => rfl
  | cons a rest ih => simp [numberFrom, ih]

theorem map_enumerate (f : α → β) (values : List α) :
    (enumerate values).map f = enumerate (values.map f) :=
  ext (numberFrom_map f 1 values).symm

end OrdinalMap

namespace Parametrized

/-- The result for a template. -/
def ofTemplate (t : Template NamedValue) : Parametrized :=
  { text := String.ofList (Template.shown (Template.trimmed t))
    parameters := .enumerate ((Template.slots t).map Prod.snd)
    patternOrdinals := (OrdinalMap.enumerate (Template.slots t)).ordinalsWhere
      fun slot => isPatternName slot.1
    markerOffsets := Template.offsets 0 (Template.trimmed t) }

theorem ofPieces_eq (ps : List Piece) : ofPieces ps = ofTemplate (ps.flatMap Piece.glyphs) := by
  simp only [ofPieces, ofTemplate, Piece.flatMap_chars, Piece.filterMap_slot?,
    Piece.slotOffsets_eq, Template.shown_trimmed, Template.offsets_trimmed,
    OrdinalMap.map_enumerate]

end Parametrized

/-- The template that a text with named markers stands for. -/
def scan (table : PlaceholderTable) (cs : List Char) : Template NamedValue :=
  (pieces table cs).flatMap Piece.glyphs

theorem parametrize_eq (text : String) (table : PlaceholderTable) :
    parametrize text table = .ofTemplate (scan table text.toList) :=
  Parametrized.ofPieces_eq _

theorem splitOpenings_append {cs : List Char} (plain : '[' ∉ cs) (rest : List Char) :
    splitOpenings (cs ++ rest) = (cs ++ (splitOpenings rest).1, (splitOpenings rest).2) := by
  induction cs with
  | nil => rfl
  | cons c cs ih =>
    obtain ⟨first, others⟩ := List.ne_and_not_mem_of_not_mem_cons plain
    simp [splitOpenings, ih others, Ne.symm first]

theorem splitClosing?_append {name : List Char} (plain : ']' ∉ name) (rest : List Char) :
    splitClosing? (name ++ ']' :: rest) = some (name, rest) := by
  induction name with
  | nil => rfl
  | cons c name ih =>
    obtain ⟨first, others⟩ := List.ne_and_not_mem_of_not_mem_cons plain
    simp [splitClosing?, ih others, Ne.symm first]

theorem scan_cons {c : Char} (plain : c ≠ '[') (table : PlaceholderTable) (cs : List Char) :
    scan table (c :: cs) = .char c :: scan table cs := by
  simp [scan, pieces, splitOpenings, plain, Piece.glyphs, Template.ofChars]

theorem scan_marker {table : PlaceholderTable} {name : String} {holder : ValueHolder}
    (opening : '[' ∉ name.toList) (closing : ']' ∉ name.toList)
    (known : table.get? name = some holder) (cs : List Char) :
    scan table ('[' :: (name.toList ++ ']' :: cs)) = .slot (name, holder) :: scan table cs := by
  have split : splitOpenings (name.toList ++ ']' :: cs) =
      (name.toList ++ ']' :: (splitOpenings cs).1, (splitOpenings cs).2) := by
    rw [splitOpenings_append opening, splitOpenings]
    simp
  have fragment : fragmentPieces table (name.toList ++ ']' :: (splitOpenings cs).1) =
      [.slot name holder, .plain (splitOpenings cs).1] := by
    simp [fragmentPieces, splitClosing?_append closing, known]
  simp [scan, pieces, splitOpenings, split, fragment, Piece.glyphs, Template.ofChars]

namespace Template

/-- The text with named markers that a template stands for. -/
def source (t : Template NamedValue) : List Char :=
  t.flatMap fun
    | .char c => [c]
    | .slot (name, _) => '[' :: (name.toList ++ [']'])

@[simp] theorem source_append (s t : Template NamedValue) :
    source (s ++ t) = source s ++ source t :=
  List.flatMap_append

@[simp] theorem source_ofChars (cs : List Char) : source (ofChars cs) = cs := by
  simp [source, ofChars, List.flatMap_map]

/-- The markers of a template can be told from the text around them. -/
structure Legible (table : PlaceholderTable) (t : Template NamedValue) : Prop where
  plain : ∀ c, .char c ∈ t → c ≠ '['
  bracketFree : ∀ slot ∈ slots t, '[' ∉ slot.1.toList ∧ ']' ∉ slot.1.toList
  known : ∀ slot ∈ slots t, table.get? slot.1 = some slot.2

theorem Legible.tail {table : PlaceholderTable} {g : Glyph NamedValue} {t : Template NamedValue}
    (legible : Legible table (g :: t)) : Legible table t where
  plain c member := legible.plain c (List.mem_cons_of_mem _ member)
  bracketFree slot member := legible.bracketFree slot (by cases g <;> simp [member])
  known slot member := legible.known slot (by cases g <;> simp [member])

theorem scan_source {table : PlaceholderTable} {t : Template NamedValue}
    (legible : Legible table t) : scan table (source t) = t := by
  induction t with
  | nil => rfl
  | cons g t ih =>
    have rest := ih legible.tail
    cases g with
    | char c =>
      have step := scan_cons (legible.plain c List.mem_cons_self) table (source t)
      rwa [rest] at step
    | slot named =>
      obtain ⟨name, holder⟩ := named
      obtain ⟨opening, closing⟩ := legible.bracketFree (name, holder) List.mem_cons_self
      have known := legible.known (name, holder) List.mem_cons_self
      have step := scan_marker opening closing known (source t)
      have text : source (.slot (name, holder) :: t) =
          '[' :: (name.toList ++ ']' :: source t) := by simp [source]
      rw [text, step, rest]

end Template
end ConditionQuery
