import ConditionQuery.Proofs.Occurrences
import ConditionQuery.Proofs.PlaceholderNames
import Mathlib.Data.List.DropRight

/-! A second pass over a text finds nothing. The question marks that stand for markers are in no
name, so no brackets around them make a new marker, and all else is as it was read. -/
namespace ConditionQuery

namespace Text

/-- A trimmed text has no blanks around it. -/
theorem trimEnd_dropWhile_trimmed (cs : List Char) :
    trimEnd ((trimEnd (cs.dropWhile isBlank)).dropWhile isBlank) =
      trimEnd (cs.dropWhile isBlank) := by
  have front : trimEnd (cs.dropWhile isBlank) <+: cs.dropWhile isBlank :=
    List.rdropWhile_prefix isBlank _
  have kept : (trimEnd (cs.dropWhile isBlank)).dropWhile isBlank =
      trimEnd (cs.dropWhile isBlank) := by
    obtain ⟨back, parts⟩ := front
    cases start : trimEnd (cs.dropWhile isBlank) with
    | nil => rfl
    | cons c rest =>
      have first := List.head?_dropWhile_not isBlank cs
      rw [← parts, start] at first
      exact List.dropWhile_cons_of_neg (by simpa using first)
  rw [kept]
  exact List.rdropWhile_idempotent isBlank _

end Text

namespace Scans

variable {table : PlaceholderTable}

/-- What is read last is read from the text that it stands for. -/
theorem tail {s t : Template NamedValue} {cs : List Char} (scans : Scans table cs (s ++ t)) :
    Scans table (Template.source t) t := by
  induction s generalizing cs with
  | nil =>
    have text : t.source = cs := Template.source_of_scans scans
    rwa [text]
  | cons g s ih =>
    cases scans with
    | char unmarked rest => exact ih rest
    | slot marked rest => exact ih rest

/-- Where there is no marker the text is read as itself. -/
theorem eq_ofChars {cs : List Char} {t : Template NamedValue} (scans : Scans table cs t)
    (unmarked : ∀ offset named, ¬ table.NamedAt cs offset named) : t = Template.ofChars cs := by
  induction scans with
  | nil => rfl
  | @char c cs t here rest ih =>
    rw [ih fun offset named marked => unmarked _ named
      (PlaceholderTable.namedAt_cons.2 (.inr ⟨offset, rfl, marked⟩))]
    rfl
  | slot marked rest ih => exact absurd marked (unmarked 0 _)

end Scans

namespace Template

theorem eq_ofChars_of_shown {α : Type} {t : Template α} {cs : List Char} (text : shown t = cs)
    (unmarked : '?' ∉ cs) : t = ofChars cs := by
  subst text
  induction t with
  | nil => rfl
  | cons g t ih =>
    obtain ⟨first, others⟩ := List.ne_and_not_mem_of_not_mem_cons unmarked
    cases g with
    | char c => exact congrArg (.char c :: ·) (ih others)
    | slot a => exact absurd rfl first

theorem exists_char_of_shown {α : Type} {t : Template α} {c : Char} {cs : List Char}
    (unmarked : c ≠ '?') (text : shown t = c :: cs) :
    ∃ rest, t = .char c :: rest ∧ shown rest = cs := by
  cases t with
  | nil => simp at text
  | cons g rest =>
    obtain ⟨first, others⟩ := List.cons.inj text
    cases g with
    | char d => exact ⟨rest, by rw [← first]; rfl, others⟩
    | slot a => exact absurd first.symm unmarked

end Template

namespace Scans

variable {table : PlaceholderTable} {cs : List Char} {t : Template NamedValue}

/-- The text with positional markers has no marker of a name without question marks: it would have
been one of the text that was read. -/
theorem not_namedAt_shown (scans : Scans table cs t) {named : NamedValue}
    (unquestioned : '?' ∉ named.1.toList) (offset : Nat) :
    ¬ table.NamedAt (Template.shown t) offset named := by
  rintro ⟨opening, closing, known, front, back, text, -⟩
  obtain ⟨s, u, rfl, -, marker⟩ := List.map_eq_append_iff.1 text
  obtain ⟨v, rfl, inside⟩ := Template.exists_char_of_shown (by decide) marker
  obtain ⟨w, x, rfl, name, closes⟩ := List.map_eq_append_iff.1 inside
  obtain ⟨y, rfl, -⟩ := Template.exists_char_of_shown (by decide) closes
  have plain := Template.eq_ofChars_of_shown name unquestioned
  have stands : Template.source (.char '[' :: (w ++ .char ']' :: y)) =
      '[' :: (named.1.toList ++ ']' :: Template.source y) := by
    rw [plain]
    simp [Template.source, Template.ofChars, List.flatMap_map]
  have last := scans.tail
  rw [stands] at last
  generalize found : '[' :: (named.1.toList ++ ']' :: Template.source y) = cs at last
  cases last with
  | char unmarked rest =>
    exact unmarked named ⟨opening, closing, known, [], Template.source y, found.symm, rfl⟩

end Scans

namespace PlaceholderTable

/-- A marker stays one in a longer text. -/
theorem NamedAt.within {table : PlaceholderTable} {cs : List Char} {offset : Nat}
    {named : NamedValue} (marked : table.NamedAt cs offset named) (front back : List Char) :
    table.NamedAt (front ++ cs ++ back) (Text.byteLength front + offset) named := by
  obtain ⟨opening, closing, known, before, after, rfl, rfl⟩ := marked
  exact ⟨opening, closing, known, front ++ before, after ++ back, by simp, by simp⟩

theorem NamedAt.mem {table : PlaceholderTable} {cs : List Char} {offset : Nat}
    {named : NamedValue} (marked : table.NamedAt cs offset named) : named ∈ table := by
  obtain ⟨entry, found, held⟩ := Option.map_eq_some_iff.1 marked.known
  have name : entry.1 = named.1 := by simpa using List.find?_some found
  rw [← Prod.ext name held]
  exact List.mem_of_find?_eq_some found

end PlaceholderTable

/-- A text without markers loses the blanks around it, and nothing else. -/
theorem parametrize_of_unmarked {text : String} {table : PlaceholderTable}
    (unmarked : ∀ offset named, ¬ table.NamedAt text.toList offset named) :
    parametrize text table =
      { text := Text.trim text, parameters := .empty, patternOrdinals := .empty,
        markerOffsets := [] } := by
  rw [parametrize_eq, (scans_scan table text.toList).eq_ofChars unmarked, Parametrized.ofTemplate,
    Template.shown_trimmed, Template.shown_ofChars, Template.slots_ofChars,
    Template.offsets_eq_nil (by simp)]
  rfl

theorem trim_parametrize (text : String) (table : PlaceholderTable) :
    Text.trim (parametrize text table).text = (parametrize text table).text := by
  rw [parametrize_eq, Parametrized.ofTemplate, Text.trim, String.toList_ofList,
    Template.shown_trimmed, Text.trimEnd_dropWhile_trimmed]

/-- The result has no marker of a name without question marks. -/
theorem not_namedAt_parametrize {table : PlaceholderTable}
    (unquestioned : ∀ entry ∈ table, '?' ∉ entry.1.toList) (text : String) (offset : Nat)
    (named : NamedValue) : ¬ table.NamedAt (parametrize text table).text.toList offset named := by
  intro marked
  rw [parametrize_eq, Parametrized.ofTemplate, String.toList_ofList] at marked
  obtain ⟨trail, parts, -⟩ := Template.exists_trimmed (scan table text.toList)
  have whole := marked.within (Template.shown ((scan table text.toList).takeWhile
    fun g => Text.isBlank g.shown)) (Template.shown trail)
  rw [← Template.shown_append, ← Template.shown_append, ← parts] at whole
  exact (scans_scan table text.toList).not_namedAt_shown (unquestioned named marked.mem) _ whole

/-- One pass leaves no marker behind and makes no new one, so a second pass changes nothing and
finds no values; the names that are generated have no question marks. -/
theorem parametrize_parametrize :
    (∀ (text : String) (table : PlaceholderTable),
      (∀ entry ∈ table, '?' ∉ entry.1.toList) →
        (∀ offset named, ¬ table.NamedAt (parametrize text table).text.toList offset named) ∧
        parametrize (parametrize text table).text table =
          { text := (parametrize text table).text, parameters := .empty,
            patternOrdinals := .empty, markerOffsets := [] }) ∧
      ∀ kind pattern (names : PlaceholderNames), '?' ∉ (names.next kind pattern).1.toList := by
  refine ⟨?_, ?_⟩
  · intro text table unquestioned
    have unmarked := not_namedAt_parametrize unquestioned text
    refine ⟨unmarked, ?_⟩
    rw [parametrize_of_unmarked unmarked, trim_parametrize]
  · intro kind pattern names
    rw [PlaceholderNames.next_fst]
    refine PlaceholderNames.not_mem_numbered (by decide) ?_ _
    cases kind <;> cases pattern <;> decide

/-- Names of which one would stand between brackets if a marker inside them left no trace. -/
def joinable : PlaceholderTable :=
  [("xy", .event "volume" .int), ("const0", .constant (.long 5) .int)]

theorem parametrize_parametrize_joinable :
    (∀ entry ∈ joinable, '?' ∉ entry.1.toList) ∧
      (parametrize "[x[const0]y] [[const0]] [const0" joinable).text = "[x?y] [?] [const0" ∧
      parametrize "[x?y] [?] [const0" joinable =
        { text := "[x?y] [?] [const0", parameters := .empty, patternOrdinals := .empty,
          markerOffsets := [] } := by
  have unquestioned : ∀ entry ∈ joinable, '?' ∉ entry.1.toList := by decide
  have text : (parametrize "[x[const0]y] [[const0]] [const0" joinable).text =
      "[x?y] [?] [const0" := by decide +kernel
  obtain ⟨-, again⟩ :=
    parametrize_parametrize.1 "[x[const0]y] [[const0]] [const0" joinable unquestioned
  rw [text] at again
  exact ⟨unquestioned, text, again⟩

end ConditionQuery
