import ConditionQuery.Proofs.NamedText

/-! Names at arbitrary offsets. The offsets of a condition that has been read may be any numbers; of
the slices at them that are taken without a check none is missing, and the names stand for the
question marks at those offsets that are accepted, all else in the text being kept. -/
namespace ConditionQuery

namespace Text

/-- The part of a text between two byte offsets; `none` where they are out of order, past the end
of the text or inside a character. -/
def slice? (start stop : Nat) (cs : List Char) : Option (List Char) :=
  if stop < start then none
  else (cutAt? start cs).bind fun parts => (cutAt? (stop - start) parts.2).map Prod.fst

/-- The part of a text from a byte offset on. -/
def suffix? (start : Nat) (cs : List Char) : Option (List Char) := (cutAt? start cs).map Prod.snd

theorem slice?_eq_some_iff {start stop : Nat} {cs part : List Char} :
    slice? start stop cs = some part ↔
      ∃ front back, cs = front ++ part ++ back ∧ byteLength front = start ∧
        byteLength (front ++ part) = stop := by
  simp only [slice?, Option.ite_none_left_eq_some, Option.bind_eq_some_iff, Option.map_eq_some_iff,
    Prod.exists, cutAt?_eq_some_iff, byteLength_append]
  constructor
  · rintro ⟨order, front, rest, ⟨rfl, size⟩, _, back, ⟨rfl, width⟩, rfl⟩
    exact ⟨front, back, (List.append_assoc ..).symm, size, by omega⟩
  · rintro ⟨front, back, rfl, size, width⟩
    exact ⟨by omega, front, part ++ back, ⟨List.append_assoc .., size⟩, part, back,
      ⟨rfl, by omega⟩, rfl⟩

/-- A text has one cut at most at a byte offset. -/
theorem append_inj_of_byteLength {front front' back back' : List Char}
    (texts : front ++ back = front' ++ back') (sizes : byteLength front = byteLength front') :
    front = front' ∧ back = back' := by
  have cut : cutAt? (byteLength front') (front ++ back) = some (front, back) :=
    cutAt?_eq_some_iff.2 ⟨rfl, sizes⟩
  have other : cutAt? (byteLength front') (front ++ back) = some (front', back') :=
    cutAt?_eq_some_iff.2 ⟨texts, rfl⟩
  exact Prod.mk.inj (Option.some.inj (cut.symm.trans other))

theorem suffix?_eq_some_iff {start : Nat} {cs rest : List Char} :
    suffix? start cs = some rest ↔ ∃ front, cs = front ++ rest ∧ byteLength front = start := by
  simp only [suffix?, Option.map_eq_some_iff, Prod.exists, exists_eq_right, cutAt?_eq_some_iff]

end Text

namespace Template

/-- The text in which each slot has the name of its number. -/
def named (name : Nat → String) (t : Template Nat) : List Char :=
  t.flatMap fun
    | .char c => [c]
    | .slot n => (name n).toList

@[simp] theorem named_ofChars (name : Nat → String) (cs : List Char) :
    named name (ofChars cs) = cs := by
  simp [named, ofChars, List.flatMap_map]

/-- The name `?` for all numbers is the positional marker. -/
theorem named_mark (t : Template Nat) : named (fun _ => "?") t = shown t := by
  induction t with
  | nil => rfl
  | cons g t ih => cases g <;> simpa [named] using ih

theorem markedAt_append {front cs : List Char} {offset : Nat} :
    MarkedAt (front ++ cs) (Text.byteLength front + offset) ↔ MarkedAt cs offset := by
  have cut (cs : List Char) (offset : Nat) :
      MarkedAt cs offset ↔ ∃ head back, Text.cutAt? offset cs = some (head, '?' :: back) := by
    simp only [MarkedAt, Text.cutAt?_eq_some_iff]
  simp only [cut, Text.cutAt?_append (Nat.le_add_right ..), Nat.add_sub_cancel_left,
    Option.map_eq_some_iff, Prod.exists, Prod.mk.injEq]
  constructor
  · rintro ⟨_, back, head, _, found, rfl, rfl⟩
    exact ⟨head, back, found⟩
  · rintro ⟨head, back, found⟩
    exact ⟨_, _, head, _, found, rfl, rfl⟩

end Template

namespace CompiledCondition
open Template (MarkedAt)

/-- Naming by slices of the whole text, the last marker named ending at `last`. The slice before an
offset is tried, and without it the offset is passed over; all other slices are taken unchecked,
and where one of them is missing there is no result. -/
def nameSlices? (name : Nat → String) (text : List Char) :
    (index last : Nat) → List Nat → Option (List Char)
  | _, last, [] => Text.suffix? last text
  | index, last, offset :: offsets =>
    match Text.slice? last offset text with
    | none => nameSlices? name text (index + 1) last offsets
    | some head =>
      (Text.suffix? offset text).bind fun rest =>
        if rest.head? = some '?' then
          (nameSlices? name text (index + 1) (offset + 1) offsets).map
            fun named => head ++ (name index).toList ++ named
        else nameSlices? name text (index + 1) last offsets

/-- Of offsets numbered from `index` on, those that are accepted in the text after a marker that
ends at `last`, each with its number: a question mark stands there, and no marker accepted before
reaches beyond. -/
structure Accepts (text : List Char) (index last : Nat) (offsets : List Nat)
    (accepted : List (Nat × Nat)) : Prop where
  inOrder : accepted.Pairwise fun a b => a.1 < b.1
  all : ∀ number offset, (number, offset) ∈ accepted ↔
    (∃ k, number = index + k ∧ offsets[k]? = some offset) ∧ MarkedAt text offset ∧
      last ≤ offset ∧ ∀ earlier ∈ accepted, earlier.1 < number → earlier.2 + 1 ≤ offset

namespace Accepts

variable {text : List Char} {index last offset : Nat} {offsets : List Nat}
  {accepted : List (Nat × Nat)}

theorem le_number (accepts : Accepts text index last offsets accepted) {found : Nat × Nat}
    (member : found ∈ accepted) : index ≤ found.1 := by
  obtain ⟨⟨k, number, -⟩, -⟩ := (accepts.all found.1 found.2).1 member
  omega

theorem mark (order : last ≤ offset) (marked : MarkedAt text offset)
    (later : Accepts text (index + 1) (offset + 1) offsets accepted) :
    Accepts text index last (offset :: offsets) ((index, offset) :: accepted) where
  inOrder := List.pairwise_cons.2 ⟨fun _ member => later.le_number member, later.inOrder⟩
  all number place := by
    constructor
    · intro member
      rcases List.mem_cons.1 member with same | member
      · obtain ⟨rfl, rfl⟩ := Prod.mk.inj same
        refine ⟨⟨0, rfl, rfl⟩, marked, order, ?_⟩
        intro earlier among before
        rcases List.mem_cons.1 among with rfl | among
        · exact absurd before (Nat.lt_irrefl _)
        · exact absurd (later.le_number among) (by omega)
      · obtain ⟨⟨k, rfl, stands⟩, here, beyond, apart⟩ := (later.all number place).1 member
        refine ⟨⟨k + 1, by omega, stands⟩, here, by omega, ?_⟩
        intro earlier among before
        rcases List.mem_cons.1 among with rfl | among
        · exact beyond
        · exact apart earlier among before
    · rintro ⟨⟨k, rfl, stands⟩, here, -, apart⟩
      cases k with
      | zero =>
        obtain rfl : offset = place := Option.some.inj stands
        exact List.mem_cons_self
      | succ k =>
        have beyond := apart (index, offset) List.mem_cons_self (by simp)
        refine List.mem_cons_of_mem _ ((later.all _ place).2 ?_)
        exact ⟨⟨k, by omega, stands⟩, here, beyond,
          fun earlier among => apart earlier (List.mem_cons_of_mem _ among)⟩

theorem pass (unmarked : last ≤ offset → ¬ MarkedAt text offset)
    (later : Accepts text (index + 1) last offsets accepted) :
    Accepts text index last (offset :: offsets) accepted where
  inOrder := later.inOrder
  all number place := by
    rw [later.all]
    refine and_congr_left ?_
    rintro ⟨marked, order, -⟩
    constructor
    · rintro ⟨k, rfl, stands⟩
      exact ⟨k + 1, by omega, stands⟩
    · rintro ⟨k, rfl, stands⟩
      cases k with
      | zero =>
        obtain rfl : offset = place := Option.some.inj stands
        exact absurd marked (unmarked order)
      | succ k => exact ⟨k, by omega, stands⟩

end Accepts

/-- How offsets are taken in a text that begins at `start`: the first is a marker or passed over,
and a marker is left behind with the text before it. -/
inductive Numbers : (index start : Nat) → List Nat → List Char → Template Nat → Prop where
  | done {index start : Nat} {cs : List Char} : Numbers index start [] cs (Template.ofChars cs)
  | mark {index start offset : Nat} {offsets : List Nat} {front back : List Char}
      {t : Template Nat} (size : start + Text.byteLength front = offset)
      (rest : Numbers (index + 1) (offset + 1) offsets back t) :
      Numbers index start (offset :: offsets) (front ++ '?' :: back)
        (Template.ofChars front ++ .slot index :: t)
  | pass {index start offset : Nat} {offsets : List Nat} {cs : List Char} {t : Template Nat}
      (unmarked : ∀ ahead, offset = start + ahead → ¬ MarkedAt cs ahead)
      (rest : Numbers (index + 1) start offsets cs t) :
      Numbers index start (offset :: offsets) cs t

theorem exists_numbers (index start : Nat) (offsets : List Nat) (cs : List Char) :
    ∃ t, Numbers index start offsets cs t := by
  induction offsets generalizing index start cs with
  | nil => exact ⟨_, .done⟩
  | cons offset offsets ih =>
    by_cases found : ∃ ahead, offset = start + ahead ∧ MarkedAt cs ahead
    · obtain ⟨ahead, rfl, front, back, rfl, rfl⟩ := found
      obtain ⟨t, rest⟩ := ih (index + 1) (start + Text.byteLength front + 1) back
      exact ⟨_, .mark rfl rest⟩
    · obtain ⟨t, rest⟩ := ih (index + 1) start cs
      exact ⟨t, .pass (fun ahead same marked => found ⟨ahead, same, marked⟩) rest⟩

namespace Numbers

variable {index start : Nat} {offsets : List Nat} {cs : List Char} {t : Template Nat}

theorem shown (numbers : Numbers index start offsets cs t) : t.shown = cs := by
  induction numbers with
  | done => simp
  | mark size rest ih => simp [ih]
  | pass unmarked rest ih => exact ih

theorem nameMarkers_eq (name : Nat → String) (numbers : Numbers index start offsets cs t) :
    nameMarkers name index start offsets cs = t.named name := by
  induction numbers with
  | done => simp [nameMarkers]
  | @mark index start offset offsets front back t size rest ih =>
    have cut : Text.cutAt? (offset - start) (front ++ '?' :: back) = some (front, '?' :: back) :=
      Text.cutAt?_eq_some_iff.2 ⟨rfl, by omega⟩
    rw [nameMarkers, if_neg (by omega), cut]
    simp [ih, Template.named, Template.ofChars, List.flatMap_map]
  | @pass index start offset offsets cs t unmarked rest ih =>
    rw [nameMarkers]
    split
    · exact ih
    · split
      · rename_i front back cut
        obtain ⟨text, size⟩ := Text.cutAt?_eq_some_iff.1 cut
        exact absurd ⟨front, back, text, size⟩ (unmarked (offset - start) (by omega))
      · exact ih

/-- All slices that are taken unchecked exist. -/
theorem nameSlices?_eq (name : Nat → String) (numbers : Numbers index start offsets cs t)
    {text : List Char} (behind : List Char) (split : text = behind ++ cs)
    (size : Text.byteLength behind = start) :
    nameSlices? name text index start offsets = some (t.named name) := by
  induction numbers generalizing behind with
  | done => simpa [nameSlices?] using Text.suffix?_eq_some_iff.2 ⟨_, split, size⟩
  | @mark index start offset offsets front back t width rest ih =>
    have head : Text.slice? start offset text = some front :=
      Text.slice?_eq_some_iff.2 ⟨behind, '?' :: back, by simp [split], size, by simp; omega⟩
    have marked : Text.suffix? offset text = some ('?' :: back) :=
      Text.suffix?_eq_some_iff.2 ⟨behind ++ front, by simp [split], by simp; omega⟩
    have later := ih (behind ++ front ++ ['?']) (by simp [split])
      (by simp [show Char.utf8Size '?' = 1 from rfl]; omega)
    rw [nameSlices?, head, marked]
    simp [later, Template.named, Template.ofChars, List.flatMap_map]
  | @pass index start offset offsets cs t unmarked rest ih =>
    have later := ih behind split size
    rw [nameSlices?]
    cases tried : Text.slice? start offset text with
    | none => exact later
    | some head =>
      obtain ⟨front, back, parts, front_size, width⟩ := Text.slice?_eq_some_iff.1 tried
      obtain ⟨rfl, rfl⟩ : front = behind ∧ head ++ back = cs :=
        Text.append_inj_of_byteLength (by simp [← split, parts]) (front_size.trans size.symm)
      have suffix : Text.suffix? offset text = some back :=
        Text.suffix?_eq_some_iff.2 ⟨front ++ head, parts, width⟩
      simp only [suffix, Option.bind_some]
      rw [if_neg, later]
      intro marks
      obtain ⟨further, rfl⟩ := List.head?_eq_some_iff.1 marks
      refine unmarked (Text.byteLength head) ?_ ⟨head, further, rfl, rfl⟩
      rw [← size, ← width, Text.byteLength_append]

theorem accepts (numbers : Numbers index start offsets cs t) {text : List Char}
    (behind : List Char) (split : text = behind ++ cs) (size : Text.byteLength behind = start) :
    Accepts text index start offsets (t.slots.zip (t.offsets start)) := by
  induction numbers generalizing behind with
  | done => exact ⟨by simp, by simp⟩
  | @mark index start offset offsets front back t width rest ih =>
    have marked : MarkedAt text offset :=
      ⟨behind ++ front, back, by simp [split], by simp; omega⟩
    have later := ih (behind ++ front ++ ['?']) (by simp [split])
      (by simp [show Char.utf8Size '?' = 1 from rfl]; omega)
    have offsets_eq : Template.offsets start (Template.ofChars front ++ .slot index :: t) =
        offset :: t.offsets (offset + 1) := by
      rw [Template.offsets_append, Template.offsets_eq_nil (Template.slots_ofChars front),
        Template.shown_ofChars, width]
      rfl
    rw [offsets_eq]
    simpa using later.mark (by omega) marked
  | @pass index start offset offsets cs t unmarked rest ih =>
    refine .pass ?_ (ih behind split size)
    intro order marked
    obtain ⟨ahead, rfl⟩ := Nat.exists_eq_add_of_le order
    rw [split, ← size, Template.markedAt_append] at marked
    exact unmarked ahead rfl marked

end Numbers

/-- Whatever its offsets are, a condition has its text named by slices that all exist. The text is
a template whose slots are the question marks at the accepted offsets, each with the number of its
offset in the list; naming the text fills these slots, and does nothing with `?` for all names. -/
theorem namedText_of_offsets (c : CompiledCondition) :
    ∃ t : Template Nat,
      t.shown = c.text.toList ∧
      Accepts c.text.toList 1 0 c.markerOffsets (t.slots.zip (t.offsets 0)) ∧
      (∀ name, nameSlices? name c.text.toList 1 0 c.markerOffsets =
          some (c.namedText name).toList ∧
        (c.namedText name).toList = t.named name) ∧
      c.namedText (fun _ => "?") = c.text := by
  obtain ⟨t, numbers⟩ := exists_numbers 1 0 c.markerOffsets c.text.toList
  have named (name : Nat → String) : (c.namedText name).toList = t.named name := by
    rw [namedText, String.toList_ofList, numbers.nameMarkers_eq]
  refine ⟨t, numbers.shown, numbers.accepts [] rfl rfl, ?_, ?_⟩
  · intro name
    rw [named]
    exact ⟨numbers.nameSlices?_eq name [] rfl rfl, rfl⟩
  · rw [← String.toList_inj, named, Template.named_mark, numbers.shown]

/-- Offsets inside a character, past the end, before an earlier marker and at another character are
passed over, and each still counts. -/
example :
    nameMarkers (fun n => "@p" ++ n.repr) 1 0 [1, 18446744073709551615, 2, 2, 0, 3, 4]
      "é?x?".toList = "é@p3x@p7".toList := by decide

end CompiledCondition
end ConditionQuery
