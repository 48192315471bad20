import ConditionQuery.Proofs.NamedText
import ConditionQuery.Proofs.Slots
import Mathlib.Data.List.Induction

/-! The markers of an arbitrary text. A text is read as a template exactly once: every bracketed
name that the table knows becomes a slot, wherever it stands, and all else stays as it is. -/
namespace ConditionQuery

namespace PlaceholderTable

/-- A name that the table knows stands at the byte offset in brackets, with no brackets inside. -/
structure NamedAt (table : PlaceholderTable) (cs : List Char) (offset : Nat)
    (named : NamedValue) : Prop where
  opening : '[' ∉ named.1.toList
  closing : ']' ∉ named.1.toList
  known : table.get? named.1 = some named.2
  stands : ∃ front back, cs = front ++ '[' :: (named.1.toList ++ ']' :: back) ∧
    Text.byteLength front = offset

variable {table : PlaceholderTable} {named : NamedValue}

theorem not_namedAt_nil (offset : Nat) : ¬ table.NamedAt [] offset named := by
  intro marked
  obtain ⟨front, back, text, -⟩ := marked.stands
  simp at text

/-- A marker at the start of a text has no text before it. -/
theorem NamedAt.exists_rest {cs : List Char} (marked : table.NamedAt cs 0 named) :
    ∃ back, cs = '[' :: (named.1.toList ++ ']' :: back) := by
  obtain ⟨front, back, text, size⟩ := marked.stands
  cases front with
  | nil => exact ⟨back, text⟩
  | cons c front =>
    have := c.utf8Size_pos
    simp only [Text.byteLength_cons] at size
    omega

theorem namedAt_cons {c : Char} {cs : List Char} {offset : Nat} :
    table.NamedAt (c :: cs) offset named ↔
      (offset = 0 ∧ table.NamedAt (c :: cs) 0 named) ∨
        ∃ later, offset = c.utf8Size + later ∧ table.NamedAt cs later named := by
  constructor
  · rintro ⟨opening, closing, known, front, back, text, size⟩
    cases front with
    | nil => exact .inl ⟨size.symm, opening, closing, known, [], back, text, rfl⟩
    | cons d front =>
      obtain ⟨rfl, rest⟩ := List.cons.inj text
      exact .inr ⟨Text.byteLength front, size.symm, opening, closing, known, front, back, rest, rfl⟩
  · rintro (⟨rfl, here⟩ | ⟨later, rfl, opening, closing, known, front, back, rfl, rfl⟩)
    · exact here
    · exact ⟨opening, closing, known, c :: front, back, rfl, rfl⟩

/-- No marker begins where there is no opening bracket. -/
theorem namedAt_append {cs : List Char} (plain : '[' ∉ cs) {rest : List Char} {offset : Nat} :
    table.NamedAt (cs ++ rest) offset named ↔
      ∃ later, offset = Text.byteLength cs + later ∧ table.NamedAt rest later named := by
  induction cs generalizing offset with
  | nil => simp
  | cons c cs ih =>
    obtain ⟨first, others⟩ := List.ne_and_not_mem_of_not_mem_cons plain
    have closed : ¬ table.NamedAt (c :: (cs ++ rest)) 0 named := by
      intro marked
      obtain ⟨back, text⟩ := marked.exists_rest
      exact first (List.cons.inj text).1.symm
    rw [List.cons_append, namedAt_cons]
    simp only [closed, and_false, false_or, ih others, Text.byteLength_cons]
    constructor
    · rintro ⟨middle, rfl, later, rfl, marked⟩
      exact ⟨later, by omega, marked⟩
    · rintro ⟨later, rfl, marked⟩
      exact ⟨_, by omega, later, rfl, marked⟩

/-- A marker says which name stands in it, and the table what the name stands for. -/
theorem NamedAt.unique {cs : List Char} {other : NamedValue} (marked : table.NamedAt cs 0 named)
    (also : table.NamedAt cs 0 other) : other = named := by
  obtain ⟨back, text⟩ := marked.exists_rest
  obtain ⟨back', text'⟩ := also.exists_rest
  have same := congrArg splitClosing? (List.cons.inj (text.symm.trans text')).2
  rw [splitClosing?_append marked.closing, splitClosing?_append also.closing] at same
  have names : other.1 = named.1 :=
    String.toList_inj.1 (congrArg Prod.fst (Option.some.inj same)).symm
  have holders := also.known
  rw [names, marked.known] at holders
  exact Prod.ext names (Option.some.inj holders).symm

end PlaceholderTable

/-- How a text is read: a marker as the slot of its value, and any other character as itself. -/
inductive Scans (table : PlaceholderTable) : List Char → Template NamedValue → Prop where
  | nil : Scans table [] []
  | char {c : Char} {cs : List Char} {t : Template NamedValue}
      (unmarked : ∀ named, ¬ table.NamedAt (c :: cs) 0 named) (rest : Scans table cs t) :
      Scans table (c :: cs) (.char c :: t)
  | slot {named : NamedValue} {cs : List Char} {t : Template NamedValue}
      (marked : table.NamedAt ('[' :: (named.1.toList ++ ']' :: cs)) 0 named)
      (rest : Scans table cs t) :
      Scans table ('[' :: (named.1.toList ++ ']' :: cs)) (.slot named :: t)

theorem splitOpenings_eq (cs : List Char) :
    cs = (splitOpenings cs).1 ++ (splitOpenings cs).2.flatMap ('[' :: ·) := by
  induction cs with
  | nil => rfl
  | cons c cs ih =>
    by_cases opens : c = '['
    · subst opens
      simpa [splitOpenings] using ih
    · simpa [splitOpenings, opens] using ih

theorem not_mem_splitOpenings (cs : List Char) : '[' ∉ (splitOpenings cs).1 := by
  induction cs with
  | nil => simp [splitOpenings]
  | cons c cs ih =>
    by_cases opens : c = '['
    · simp [splitOpenings, opens]
    · simpa [splitOpenings, opens, Ne.symm opens] using ih

theorem splitClosing?_eq_some {cs name rest : List Char}
    (split : splitClosing? cs = some (name, rest)) : cs = name ++ ']' :: rest ∧ ']' ∉ name := by
  induction cs generalizing name with
  | nil => simp [splitClosing?] at split
  | cons c cs ih =>
    by_cases closes : c = ']'
    · subst closes
      simp only [splitClosing?, if_true, Option.some.injEq, Prod.mk.injEq] at split
      obtain ⟨rfl, rfl⟩ := split
      simp
    · simp only [splitClosing?, closes, if_false, Option.map_eq_some_iff, Prod.exists,
        Prod.mk.injEq] at split
      obtain ⟨tail, rest', found, rfl, rfl⟩ := split
      obtain ⟨rfl, plain⟩ := ih found
      exact ⟨rfl, by simp [plain, Ne.symm closes]⟩

/-- An opening bracket that begins no marker stays where it is. -/
theorem scan_opening {table : PlaceholderTable} {cs : List Char}
    (unmarked : ∀ named, ¬ table.NamedAt ('[' :: cs) 0 named) :
    scan table ('[' :: cs) = .char '[' :: scan table cs := by
  have whole := splitOpenings_eq cs
  have plain := not_mem_splitOpenings cs
  have kept : fragmentPieces table (splitOpenings cs).1 =
      [.plain ('[' :: (splitOpenings cs).1)] := by
    unfold fragmentPieces
    cases split : splitClosing? (splitOpenings cs).1 with
    | none => rfl
    | some parts =>
      obtain ⟨name, rest⟩ := parts
      obtain ⟨form, closing⟩ := splitClosing?_eq_some split
      have opening : '[' ∉ name := fun member => plain (by simp [form, member])
      cases known : table.get? (String.ofList name) with
      | none => simp only [known]
      | some holder =>
        have text : cs = name ++ ']' :: (rest ++ (splitOpenings cs).2.flatMap ('[' :: ·)) := by
          simpa [form] using whole
        refine absurd ?_ (unmarked (String.ofList name, holder))
        exact ⟨by simpa using opening, by simpa using closing, known, [], _,
          by rw [String.toList_ofList]; exact congrArg ('[' :: ·) text, rfl⟩
  simp [scan, pieces, splitOpenings, kept, Piece.glyphs, Template.ofChars]

theorem scans_scan (table : PlaceholderTable) (cs : List Char) :
    Scans table cs (scan table cs) := by
  -- A marker is left behind as a whole, so the induction is on the length of the text.
  induction size : cs.length using Nat.strongRecOn generalizing cs with
  | ind n ih =>
    subst size
    cases cs with
    | nil => exact .nil
    | cons c cs =>
      have later : Scans table cs (scan table cs) := ih cs.length (by simp) cs rfl
      by_cases found : ∃ named, table.NamedAt (c :: cs) 0 named
      · obtain ⟨named, marked⟩ := found
        obtain ⟨back, text⟩ := marked.exists_rest
        rw [text] at marked ⊢
        rw [scan_marker marked.opening marked.closing marked.known]
        refine .slot marked (ih back.length ?_ back rfl)
        have lengths := congrArg List.length text
        simp only [List.length_cons, List.length_append] at lengths ⊢
        omega
      · have unmarked : ∀ named, ¬ table.NamedAt (c :: cs) 0 named := not_exists.1 found
        by_cases opens : c = '['
        · subst opens
          rw [scan_opening unmarked]
          exact .char unmarked later
        · rw [scan_cons opens]
          exact .char unmarked later

namespace Template

/-- The markers in the text that a template stands for, with their byte offsets. -/
def markers : Nat → Template NamedValue → List (Nat × NamedValue)
  | _, [] => []
  | o, .char c :: rest => markers (o + c.utf8Size) rest
  | o, .slot named :: rest =>
    (o, named) :: markers (o + (1 + (Text.byteLength named.1.toList + 1))) rest

theorem map_snd_markers (o : Nat) (t : Template NamedValue) :
    (markers o t).map Prod.snd = slots t := by
  induction t generalizing o with
  | nil => rfl
  | cons g t ih =>
    cases g with
    | char c => exact ih _
    | slot named => exact congrArg (named :: ·) (ih _)

theorem le_of_mem_markers {o : Nat} {found : Nat × NamedValue} {t : Template NamedValue}
    (member : found ∈ markers o t) : o ≤ found.1 := by
  induction t generalizing o with
  | nil => simp [markers] at member
  | cons g t ih =>
    cases g with
    | char c => exact Nat.le_trans (Nat.le_add_right _ _) (ih member)
    | slot named =>
      rcases List.mem_cons.1 member with rfl | member
      · exact Nat.le_refl _
      · exact Nat.le_trans (Nat.le_add_right _ _) (ih member)

theorem markers_ascending (o : Nat) (t : Template NamedValue) :
    (markers o t).Pairwise fun a b => a.1 < b.1 := by
  induction t generalizing o with
  | nil => exact .nil
  | cons g t ih =>
    cases g with
    | char c => exact ih _
    | slot named =>
      refine List.pairwise_cons.2 ⟨fun found member => ?_, ih _⟩
      have := le_of_mem_markers member
      simp only
      omega

/-- Markers beyond a piece of text are counted from its end. -/
theorem mem_markers_add {o size offset : Nat} {named : NamedValue} {t : Template NamedValue} :
    (o + offset, named) ∈ markers (o + size) t ↔
      ∃ later, offset = size + later ∧ (o + size + later, named) ∈ markers (o + size) t := by
  constructor
  · intro member
    have beyond := le_of_mem_markers member
    simp only at beyond
    obtain ⟨later, rfl⟩ := Nat.exists_eq_add_of_le (Nat.le_of_add_le_add_left beyond)
    exact ⟨later, rfl, by rwa [Nat.add_assoc]⟩
  · rintro ⟨later, rfl, member⟩
    rwa [← Nat.add_assoc]

/-- The template has the text's markers, and no others. -/
theorem mem_markers_iff {table : PlaceholderTable} {cs : List Char} {t : Template NamedValue}
    (scans : Scans table cs t) (o offset : Nat) (named : NamedValue) :
    (o + offset, named) ∈ markers o t ↔ table.NamedAt cs offset named := by
  induction scans generalizing o offset with
  | nil => simp [markers, PlaceholderTable.not_namedAt_nil]
  | @char c cs t unmarked rest ih =>
    rw [PlaceholderTable.namedAt_cons, markers, mem_markers_add]
    simp only [unmarked named, and_false, false_or, ih]
  | @slot first cs t marked rest ih =>
    have plain : '[' ∉ first.1.toList ++ [']'] := by simp [marked.opening]
    have inside : first.1.toList ++ ']' :: cs = (first.1.toList ++ [']']) ++ cs := by simp
    have here : (o + offset, named) = (o, first) ↔
        offset = 0 ∧ table.NamedAt ('[' :: (first.1.toList ++ ']' :: cs)) 0 named := by
      constructor
      · intro same
        obtain ⟨size, rfl⟩ := Prod.mk.inj same
        exact ⟨by omega, marked⟩
      · rintro ⟨rfl, also⟩
        rw [marked.unique also, Nat.add_zero]
    rw [PlaceholderTable.namedAt_cons, markers, List.mem_cons, mem_markers_add]
    refine or_congr here ?_
    simp only [ih, inside, PlaceholderTable.namedAt_append plain, Text.byteLength_append,
      Text.byteLength_cons, Text.byteLength_nil, show Char.utf8Size ']' = 1 from rfl,
      show Char.utf8Size '[' = 1 from rfl]
    constructor
    · rintro ⟨later, rfl, also⟩
      exact ⟨_, Nat.add_assoc .., later, rfl, also⟩
    · rintro ⟨middle, rfl, later, rfl, also⟩
      exact ⟨later, (Nat.add_assoc ..).symm, also⟩

theorem source_of_scans {table : PlaceholderTable} {cs : List Char} {t : Template NamedValue}
    (scans : Scans table cs t) : source t = cs := by
  induction scans with
  | nil => rfl
  | char unmarked rest ih => simpa [source] using ih
  | slot marked rest ih => simpa [source] using ih

/-- Each slot filled with its own marker, the template is the text that it stands for. -/
theorem fill_marker {name : Nat → String} {k : Nat} {t : Template NamedValue}
    (own : ∀ i named, (slots t)[i]? = some named → name (k + i) = marker named.1) :
    fill name k t = source t := by
  induction t generalizing k with
  | nil => rfl
  | cons g t ih =>
    cases g with
    | char c => exact congrArg (c :: ·) (ih own)
    | slot named =>
      have first : name k = marker named.1 := own 0 named rfl
      have rest := ih (k := k + 1) fun i later found => by
        rw [Nat.add_assoc, Nat.add_comm 1]
        exact own (i + 1) later found
      rw [fill, first, rest]
      simp [source, marker]

theorem source_dropWhile (t : Template NamedValue) :
    source (t.dropWhile fun g => Text.isBlank g.shown) =
      (source t).dropWhile Text.isBlank := by
  induction t with
  | nil => rfl
  | cons g t ih =>
    cases g with
    | char c =>
      cases blank : Text.isBlank c with
      | true => simpa [source, blank] using ih
      | false => simp [source, blank]
    | slot named => rfl

theorem source_dropEnd (t : Template NamedValue) :
    source (t.reverse.dropWhile fun g => Text.isBlank g.shown).reverse =
      Text.trimEnd (source t) := by
  induction t using List.reverseRecOn with
  | nil => rfl
  | append_singleton t g ih =>
    cases g with
    | char c =>
      cases blank : Text.isBlank c with
      | true => simpa [source, Text.trimEnd, blank] using ih
      | false => simp [source, Text.trimEnd, blank]
    | slot named => simp [source, Text.trimEnd, show Text.isBlank ']' = false from rfl,
        show Text.isBlank '?' = false from rfl]

/-- Trimming a template trims the text that it stands for: no marker begins or ends with a blank. -/
theorem source_trimmed (t : Template NamedValue) :
    source (trimmed t) = Text.trimEnd ((source t).dropWhile Text.isBlank) := by
  rw [trimmed, source_dropEnd, source_dropWhile]

end Template

namespace Parametrized

/-- The result replaces in the text the markers that are found, which are given by their byte
offsets, their names and what these stand for. -/
structure Replaces (p : Parametrized) (table : PlaceholderTable) (text : String)
    (found : List (Nat × NamedValue)) : Prop where
  leftToRight : found.Pairwise fun a b => a.1 < b.1
  all : ∀ offset named, (offset, named) ∈ found ↔ table.NamedAt text.toList offset named
  ordinals : p.parameters.entries.map Prod.fst = List.range' 1 found.length
  parameters : ∀ k, p.parameters.get? (k + 1) = found[k]?.map fun f => f.2.2
  patterns : ∀ n, n ∈ p.patternOrdinals.elems ↔
    ∃ k f, n = k + 1 ∧ found[k]? = some f ∧ "pattern-".toList <+: f.2.1.toList
  length_markerOffsets : p.markerOffsets.length = found.length
  markerOffsets_ascending : p.markerOffsets.Pairwise (· < ·)
  marked : ∀ offset ∈ p.markerOffsets, Template.MarkedAt p.text.toList offset
  /-- With its markers put back, the text is as it was, but for blanks around it. -/
  restored : CompiledCondition.nameMarkers
    (fun n => (found[n - 1]?).elim "" fun f => marker f.2.1) 1 0 p.markerOffsets p.text.toList =
      (Text.trim text).toList

theorem mem_patternOrdinals {t : Template NamedValue} {n : Nat} :
    n ∈ (ofTemplate t).patternOrdinals.elems ↔
      ∃ k named, n = k + 1 ∧ (Template.slots t)[k]? = some named ∧
        "pattern-".toList <+: named.1.toList := by
  have pattern (name : String) : isPatternName name = true ↔ "pattern-".toList <+: name.toList :=
    List.isPrefixOf_iff_prefix
  simp only [← pattern]
  exact OrdinalMap.mem_ordinalsWhere_enumerate

/-- A template brings along all that it stands for. -/
theorem replaces_ofTemplate {table : PlaceholderTable} {text : String} {t : Template NamedValue}
    (scans : Scans table text.toList t) :
    (ofTemplate t).Replaces table text (Template.markers 0 t) := by
  have found := Template.map_snd_markers 0 t
  have size : (Template.slots t).length = (Template.markers 0 t).length := by
    rw [← found, List.length_map]
  constructor
  case leftToRight => exact Template.markers_ascending 0 t
  case all =>
    intro offset named
    simpa using Template.mem_markers_iff scans 0 offset named
  case ordinals =>
    have keys := OrdinalMap.keys_numberFrom 1 ((Template.slots t).map Prod.snd)
    rwa [List.length_map, size] at keys
  case parameters =>
    intro k
    refine (OrdinalMap.get?_enumerate ((Template.slots t).map Prod.snd) k).trans ?_
    rw [List.getElem?_map, ← found, List.getElem?_map, Option.map_map]
    rfl
  case patterns =>
    intro n
    rw [mem_patternOrdinals, ← found]
    constructor
    · rintro ⟨k, named, rfl, slot, pattern⟩
      rw [List.getElem?_map, Option.map_eq_some_iff] at slot
      obtain ⟨f, stands, rfl⟩ := slot
      exact ⟨k, f, rfl, stands, pattern⟩
    · rintro ⟨k, f, rfl, stands, pattern⟩
      exact ⟨k, f.2, rfl, by rw [List.getElem?_map, stands]; rfl, pattern⟩
  case length_markerOffsets => simp [ofTemplate, size]
  case markerOffsets_ascending => exact Template.offsets_ascending 0 _
  case marked =>
    intro offset member
    simpa [ofTemplate] using Template.markedAt_of_mem_offsets member
  case restored =>
    have own : ∀ k named, (Template.slots (Template.trimmed t))[k]? = some named →
        ((Template.markers 0 t)[1 + k - 1]?).elim "" (fun f => marker f.2.1) =
          marker named.1 := by
      intro k named slot
      rw [Template.slots_trimmed, ← found, List.getElem?_map, Option.map_eq_some_iff] at slot
      obtain ⟨f, stands, rfl⟩ := slot
      rw [Nat.add_sub_cancel_left, stands]
      rfl
    simp only [ofTemplate, String.toList_ofList, Text.trim]
    rw [CompiledCondition.nameMarkers_offsets, Template.fill_marker own, Template.source_trimmed,
      Template.source_of_scans scans]

end Parametrized

/-- Of every text all markers are replaced, and nothing else is. -/
theorem parametrize_replaces (text : String) (table : PlaceholderTable) :
    ∃ found, (parametrize text table).Replaces table text found := by
  rw [parametrize_eq]
  exact ⟨_, Parametrized.replaces_ofTemplate (scans_scan table text.toList)⟩

/-- Nested, unknown and unclosed brackets stay, and so does a question mark. -/
example :
    let p := parametrize " [a[const0]][x]?[b " [("const0", .event "é" .int)]
    (p.text, p.markerOffsets) = ("[a?][x]?[b", [2]) := by decide +kernel

end ConditionQuery
