import ConditionQuery.Text.Bytes

/-! Templates: texts with places for values. The markers of a text stand at the slots of its
template, whatever other characters the template brings along. -/
namespace ConditionQuery

/-- A character of a text, or the place of a value in it. -/
inductive Glyph (α : Type) where
  | char (c : Char)
  | slot (a : α)

namespace Glyph

variable {α β : Type}

def slot? : Glyph α → Option α
  | .char _ => none
  | .slot a => some a

/-- What stands in a text with positional markers. -/
def shown : Glyph α → Char
  | .char c => c
  | .slot _ => '?'

def map (f : α → β) : Glyph α → Glyph β
  | .char c => .char c
  | .slot a => .slot (f a)

@[simp] theorem slot?_char (c : Char) : (char c : Glyph α).slot? = none := rfl

@[simp] theorem slot?_slot (a : α) : (slot a).slot? = some a := rfl

@[simp] theorem shown_char (c : Char) : (char c : Glyph α).shown = c := rfl

@[simp] theorem shown_slot (a : α) : (slot a).shown = '?' := rfl

@[simp] theorem map_char (f : α → β) (c : Char) : (char c).map f = char c := rfl

@[simp] theorem map_slot (f : α → β) (a : α) : (slot a).map f = slot (f a) := rfl

@[simp] theorem shown_map (f : α → β) (g : Glyph α) : (g.map f).shown = g.shown := by
  cases g <;> rfl

end Glyph

abbrev Template (α : Type) := List (Glyph α)

namespace Template

variable {α β : Type}

def ofChars (cs : List Char) : Template α := cs.map .char

def slots (t : Template α) : List α := t.filterMap Glyph.slot?

/-- The text with positional markers. -/
def shown (t : Template α) : List Char := t.map Glyph.shown

/-- The text in which each slot has its own name, the first slot the number `k`. -/
def fill (name : Nat → String) : Nat → Template α → List Char
  | _, [] => []
  | k, .char c :: rest => c :: fill name k rest
  | k, .slot _ :: rest => (name k).toList ++ fill name (k + 1) rest

/-- The byte offsets of the markers, the text standing at the given offset. -/
def offsets : Nat → Template α → List Nat
  | _, [] => []
  | o, .char c :: rest => offsets (o + c.utf8Size) rest
  | o, .slot _ :: rest => o :: offsets (o + 1) rest

/-- The template without the blanks at its start and its end. -/
def trimmed (t : Template α) : Template α :=
  ((t.dropWhile fun g => Text.isBlank g.shown).reverse.dropWhile
    fun g => Text.isBlank g.shown).reverse

/-- A question mark begins at the byte offset. -/
def MarkedAt (cs : List Char) (offset : Nat) : Prop :=
  ∃ front back, cs = front ++ '?' :: back ∧ Text.byteLength front = offset

@[simp] theorem slots_nil : slots ([] : Template α) = [] := rfl

@[simp] theorem slots_append (s t : Template α) : slots (s ++ t) = slots s ++ slots t := by
  simp [slots]

@[simp] theorem slots_char_cons (c : Char) (t : Template α) :
    slots (.char c :: t) = slots t := rfl

@[simp] theorem slots_slot_cons (a : α) (t : Template α) :
    slots (.slot a :: t) = a :: slots t := rfl

@[simp] theorem slots_ofChars (cs : List Char) : slots (ofChars cs : Template α) = [] := by
  simp [slots, ofChars, List.filterMap_eq_nil_iff]

theorem slots_map (f : α → β) (t : Template α) :
    slots (t.map (Glyph.map f)) = (slots t).map f := by
  induction t with
  | nil => rfl
  | cons g t ih =>
    cases g with
    | char c => exact ih
    | slot a => exact congrArg (f a :: ·) ih

@[simp] theorem shown_nil : shown ([] : Template α) = [] := rfl

@[simp] theorem shown_cons (g : Glyph α) (t : Template α) :
    shown (g :: t) = g.shown :: shown t := rfl

@[simp] theorem shown_append (s t : Template α) : shown (s ++ t) = shown s ++ shown t :=
  List.map_append

@[simp] theorem shown_ofChars (cs : List Char) : shown (ofChars cs : Template α) = cs := by
  simp [shown, ofChars, Function.comp_def]

theorem shown_map (f : α → β) (t : Template α) : shown (t.map (Glyph.map f)) = shown t := by
  simp [shown, Function.comp_def]

@[simp] theorem fill_ofChars (name : Nat → String) (k : Nat) (cs : List Char) :
    fill name k (ofChars cs : Template α) = cs := by
  induction cs with
  | nil => rfl
  | cons c cs ih => exact congrArg (c :: ·) ih

@[simp] theorem fill_append (name : Nat → String) (k : Nat) (s t : Template α) :
    fill name k (s ++ t) = fill name k s ++ fill name (k + (slots s).length) t := by
  induction s generalizing k with
  | nil => rfl
  | cons g s ih =>
    cases g with
    | char c => simp [fill, ih]
    | slot a => simp [fill, ih, Nat.add_assoc, Nat.add_comm 1]

/-- The positional marker is the name `?` for each slot. -/
theorem fill_mark (k : Nat) (t : Template α) : fill (fun _ => "?") k t = shown t := by
  induction t generalizing k with
  | nil => rfl
  | cons g t ih => cases g <;> simp [fill, ih]

theorem offsets_append (o : Nat) (s t : Template α) :
    offsets o (s ++ t) = offsets o s ++ offsets (o + Text.byteLength (shown s)) t := by
  induction s generalizing o with
  | nil => rfl
  | cons g s ih =>
    cases g with
    | char c => simp [offsets, ih, Nat.add_assoc]
    | slot a => simp [offsets, ih, Nat.add_assoc, show Char.utf8Size '?' = 1 from rfl]

theorem offsets_add (n o : Nat) (t : Template α) :
    offsets (o + n) t = (offsets o t).map (· + n) := by
  induction t generalizing o with
  | nil => rfl
  | cons g t ih =>
    cases g with
    | char c => rw [offsets, offsets, ← ih, Nat.add_right_comm]
    | slot a => rw [offsets, offsets, List.map_cons, ← ih, Nat.add_right_comm]

theorem offsets_map (f : α → β) (o : Nat) (t : Template α) :
    offsets o (t.map (Glyph.map f)) = offsets o t := by
  induction t generalizing o with
  | nil => rfl
  | cons g t ih => cases g <;> simp [offsets, ih]

/-- Only slots have offsets. -/
theorem offsets_eq_nil {t : Template α} (empty : slots t = []) (o : Nat) : offsets o t = [] := by
  induction t generalizing o with
  | nil => rfl
  | cons g t ih =>
    cases g with
    | char c => exact ih empty _
    | slot a => simp at empty

@[simp] theorem length_offsets (o : Nat) (t : Template α) :
    (offsets o t).length = (slots t).length := by
  induction t generalizing o with
  | nil => rfl
  | cons g t ih => cases g <;> simp [offsets, ih]

theorem le_of_mem_offsets {o offset : Nat} {t : Template α} (member : offset ∈ offsets o t) :
    o ≤ offset := by
  induction t generalizing o with
  | nil => simp [offsets] at member
  | cons g t ih =>
    cases g with
    | char c => exact Nat.le_trans (Nat.le_add_right _ _) (ih member)
    | slot a =>
      rcases List.mem_cons.1 member with rfl | member
      · exact Nat.le_refl _
      · exact Nat.le_of_succ_le (ih member)

theorem offsets_ascending (o : Nat) (t : Template α) : (offsets o t).Pairwise (· < ·) := by
  induction t generalizing o with
  | nil => exact .nil
  | cons g t ih =>
    cases g with
    | char c => exact ih _
    | slot a =>
      apply List.pairwise_cons.2
      constructor
      · intro offset member
        exact le_of_mem_offsets member
      · exact ih _

theorem markedAt_of_mem_offsets {o offset : Nat} {t : Template α} (member : offset ∈ offsets o t) :
    MarkedAt (shown t) (offset - o) := by
  induction t generalizing o with
  | nil => simp [offsets] at member
  | cons g t ih =>
    cases g with
    | char c =>
      have above := le_of_mem_offsets (t := t) member
      obtain ⟨front, back, text, size⟩ := ih member
      refine ⟨c :: front, back, by simp [text], ?_⟩
      simp only [Text.byteLength_cons, size]
      omega
    | slot a =>
      rcases List.mem_cons.1 member with rfl | member
      · exact ⟨[], shown t, rfl, by simp⟩
      · have above := le_of_mem_offsets member
        obtain ⟨front, back, text, size⟩ := ih member
        refine ⟨'?' :: front, back, by simp [text], ?_⟩
        simp only [Text.byteLength_cons, size, show Char.utf8Size '?' = 1 from rfl]
        omega

/-- If no other glyph is a question mark, the text has question marks at the offsets only. -/
theorem mem_offsets_of_markedAt {t : Template α} (plain : ∀ c, .char c ∈ t → c ≠ '?')
    {o offset : Nat} (marked : MarkedAt (shown t) offset) : o + offset ∈ offsets o t := by
  induction t generalizing o offset with
  | nil =>
    obtain ⟨front, back, text, -⟩ := marked
    simp at text
  | cons g t ih =>
    have later : ∀ c, .char c ∈ t → c ≠ '?' := fun c member =>
      plain c (List.mem_cons_of_mem _ member)
    obtain ⟨front, back, text, size⟩ := marked
    cases front with
    | nil =>
      obtain ⟨question, -⟩ := List.cons.inj text
      cases g with
      | char c => exact absurd question (plain c List.mem_cons_self)
      | slot a => simp [offsets, ← size]
    | cons c front =>
      obtain ⟨rfl, rest⟩ := List.cons.inj text
      have found := ih later (o := o + g.shown.utf8Size) ⟨front, back, rest, rfl⟩
      rw [← size, Text.byteLength_cons, ← Nat.add_assoc]
      cases g with
      | char c => exact found
      | slot a => exact List.mem_cons_of_mem _ found

theorem markedAt_iff {t : Template α} (plain : ∀ c, .char c ∈ t → c ≠ '?') (offset : Nat) :
    MarkedAt (shown t) offset ↔ offset ∈ offsets 0 t := by
  constructor
  · intro marked
    simpa using mem_offsets_of_markedAt plain (o := 0) marked
  · exact markedAt_of_mem_offsets

theorem exists_trimmed (t : Template α) : ∃ trail : Template α,
    t = t.takeWhile (fun g => Text.isBlank g.shown) ++ trimmed t ++ trail ∧
      ∀ g ∈ trail, Text.isBlank g.shown := by
  let p : Glyph α → Bool := fun g => Text.isBlank g.shown
  refine ⟨((t.dropWhile p).reverse.takeWhile p).reverse, ?_, ?_⟩
  · have body : trimmed t ++ ((t.dropWhile p).reverse.takeWhile p).reverse = t.dropWhile p := by
      rw [trimmed, ← List.reverse_append, List.takeWhile_append_dropWhile, List.reverse_reverse]
    rw [List.append_assoc, body, List.takeWhile_append_dropWhile]
  · intro g member
    exact List.all_eq_true.1 List.all_takeWhile g (List.mem_reverse.1 member)

theorem mem_of_mem_trimmed {g : Glyph α} {t : Template α} (member : g ∈ trimmed t) : g ∈ t := by
  obtain ⟨trail, parts, -⟩ := exists_trimmed t
  rw [parts]
  simp [member]

theorem slots_eq_nil_of_blank {t : Template α} (blank : ∀ g ∈ t, Text.isBlank g.shown) :
    slots t = [] := by
  apply List.filterMap_eq_nil_iff.2
  intro g member
  cases g with
  | char c => rfl
  | slot a =>
    have question : Text.isBlank '?' = true := blank _ member
    contradiction

theorem slots_leading (t : Template α) :
    slots (t.takeWhile fun g => Text.isBlank g.shown) = [] := by
  apply slots_eq_nil_of_blank
  intro g member
  exact List.all_eq_true.1 List.all_takeWhile g member

@[simp] theorem slots_trimmed (t : Template α) : slots (trimmed t) = slots t := by
  obtain ⟨trail, parts, blank⟩ := exists_trimmed t
  have whole := congrArg slots parts
  rw [slots_append, slots_append, slots_leading, slots_eq_nil_of_blank blank] at whole
  simpa using whole.symm

theorem shown_trimmed (t : Template α) :
    shown (trimmed t) = Text.trimEnd ((shown t).dropWhile Text.isBlank) := by
  simp only [shown, trimmed, Text.trimEnd, List.dropWhile_map, ← List.map_reverse,
    Function.comp_def]

theorem trimmed_map (f : α → β) (t : Template α) :
    trimmed (t.map (Glyph.map f)) = (trimmed t).map (Glyph.map f) := by
  simp only [trimmed, List.dropWhile_map, ← List.map_reverse, Function.comp_def, Glyph.shown_map]

/-- Blanks at the start shift the markers, blanks at the end leave them in place. -/
theorem offsets_trimmed (t : Template α) :
    offsets 0 (trimmed t) =
      (offsets 0 t).map (· - Text.byteLength ((shown t).takeWhile Text.isBlank)) := by
  obtain ⟨trail, parts, blank⟩ := exists_trimmed t
  have leading : (shown t).takeWhile Text.isBlank =
      shown (t.takeWhile fun g => Text.isBlank g.shown) := by
    simp only [shown, List.takeWhile_map, Function.comp_def]
  have shifted : offsets 0 t =
      (offsets 0 (trimmed t)).map (· + Text.byteLength ((shown t).takeWhile Text.isBlank)) := by
    rw [leading, ← offsets_add, congrArg (offsets 0) parts, offsets_append, offsets_append,
      offsets_eq_nil (slots_leading t), offsets_eq_nil (slots_eq_nil_of_blank blank)]
    simp
  rw [shifted, List.map_map]
  simp [Function.comp_def]

end Template
end ConditionQuery
