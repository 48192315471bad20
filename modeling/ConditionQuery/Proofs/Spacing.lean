import ConditionQuery.Proofs.Layout

/-! Blanks between tokens. A token is parted from the one before it by a blank or by nothing, and
which of the two it is depends on the glyphs that meet there. -/
namespace ConditionQuery

namespace Glyph

variable {α : Type}

/-- A blank is put before the glyph. -/
def opens (g : Glyph α) : Bool := !(g.isChar ')' || g.isChar ',' || Text.isBlank g.shown)

/-- A blank is put after the glyph. -/
def closes (g : Glyph α) : Bool := !(g.isChar '(' || Text.isBlank g.shown)

theorem opens_iff {g : Glyph α} : g.opens = true ↔
    g.isChar ')' = false ∧ g.isChar ',' = false ∧ Text.isBlank g.shown = false := by
  simp [opens, and_assoc]

theorem closes_iff {g : Glyph α} : g.closes = true ↔
    g.isChar '(' = false ∧ Text.isBlank g.shown = false := by
  simp [closes]

end Glyph

namespace Template

variable {α : Type}

def ofText (s : String) : Template α := ofChars s.toList

def Begins (t : Template α) : Prop := t.head?.any Glyph.opens = true

def Ends (t : Template α) : Prop := t.getLast?.any Glyph.closes = true

instance (t : Template α) : Decidable (Begins t) := inferInstanceAs (Decidable (_ = _))

instance (t : Template α) : Decidable (Ends t) := inferInstanceAs (Decidable (_ = _))

theorem ofText_append (s s' : String) :
    (ofText (s ++ s') : Template α) = ofText s ++ ofText s' := by
  simp [ofText, ofChars]

@[simp] theorem slots_ofText (s : String) : slots (ofText s : Template α) = [] :=
  slots_ofChars _

@[simp] theorem fill_ofText (name : Nat → String) (k : Nat) (s : String) :
    fill name k (ofText s : Template α) = s.toList :=
  fill_ofChars name k _

theorem Begins.exists_cons {t : Template α} (begins : Begins t) :
    ∃ g rest, t = g :: rest ∧ g.opens = true := by
  cases t with
  | nil => simp [Begins] at begins
  | cons g rest => exact ⟨g, rest, rfl, begins⟩

theorem Ends.exists_concat {t : Template α} (ends : Ends t) :
    ∃ front g, t = front ++ [g] ∧ g.closes = true := by
  rcases List.eq_nil_or_concat t with rfl | ⟨front, g, rfl⟩
  · simp [Ends] at ends
  · exact ⟨front, g, List.concat_eq_append, by simpa [Ends] using ends⟩

theorem Begins.append {t : Template α} (begins : Begins t) (u : Template α) : Begins (t ++ u) := by
  obtain ⟨g, rest, rfl, opens⟩ := begins.exists_cons
  exact opens

theorem Ends.append {u : Template α} (ends : Ends u) (t : Template α) : Ends (t ++ u) := by
  obtain ⟨front, g, rfl, closes⟩ := ends.exists_concat
  simpa [Ends] using closes

theorem Begins.ne_nil {t : Template α} (begins : Begins t) : t ≠ [] := by
  rintro rfl
  simp [Begins] at begins

theorem Ends.ne_nil {t : Template α} (ends : Ends t) : t ≠ [] := by
  rintro rfl
  simp [Ends] at ends

/-- Where a token goes depends on its neighbours alone. -/
theorem add_assoc (t : Template α) {u : Template α} (nonempty : u ≠ []) (v : Template α) :
    add (add t u) v = add t (add u v) := by
  obtain ⟨g, rest, rfl⟩ := List.exists_cons_of_ne_nil nonempty
  have extended (s : Template α) : glued (s ++ g :: rest) v = glued (g :: rest) v := by
    cases s <;> simp [glued, List.getLast?_append, List.getLast?_cons]
  have inner : glued (add t (g :: rest)) v = glued (g :: rest) v := by
    unfold add
    split
    · exact extended t
    · exact extended (t ++ [.char ' '])
  have outer : glued t (add (g :: rest) v) = glued t (g :: rest) := by
    unfold add
    split <;> simp [glued]
  rw [add, inner, add, add, outer, add]
  split <;> simp

theorem add_opened {t u : Template α} (opened : u.getLast?.any (Glyph.isChar '(') = true)
    (v : Template α) : add (add t u) v = add t (u ++ v) := by
  have nonempty : u ≠ [] := by
    rintro rfl
    simp at opened
  rw [add_assoc t nonempty, add.eq_1 u v, glued, opened]
  simp

/-- No blank is put before a closing parenthesis or a comma. -/
theorem add_attached {t u : Template α} (nonempty : u ≠ []) {v : Template α}
    (attached : ∀ s : Template α, glued s v = true) : add (add t u) v = add t (u ++ v) := by
  rw [add_assoc t nonempty, add.eq_1 u, attached, if_pos rfl]

theorem add_closing {t u : Template α} (nonempty : u ≠ []) :
    add (add t u) (ofText ")") = add t (u ++ ofText ")") := by
  apply add_attached nonempty
  intro s
  simp [glued, ofText, ofChars, Glyph.isChar]

theorem add_comma {t u : Template α} (nonempty : u ≠ []) :
    add (add t u) (ofText ",") = add t (u ++ ofText ",") := by
  apply add_attached nonempty
  intro s
  simp [glued, ofText, ofChars, Glyph.isChar]

theorem add_apart {t u v : Template α} (ends : Ends u) (begins : Begins v) :
    add (add t u) v = add t (u ++ ofText " " ++ v) := by
  rw [add_assoc t ends.ne_nil, add.eq_1 u]
  obtain ⟨front, last, rfl, closes⟩ := ends.exists_concat
  obtain ⟨first, rest, rfl, opens⟩ := begins.exists_cons
  obtain ⟨opening, -⟩ := Glyph.closes_iff.1 closes
  obtain ⟨closing, comma, -⟩ := Glyph.opens_iff.1 opens
  simp [glued, opening, closing, comma, ofText, ofChars]

/-- Blanks inside a template are not trimmed. -/
theorem trimmed_eq_self {t : Template α} (begins : Begins t) (ends : Ends t) : trimmed t = t := by
  obtain ⟨first, rest, form, opens⟩ := begins.exists_cons
  obtain ⟨front, last, form', closes⟩ := ends.exists_concat
  have start := (Glyph.opens_iff.1 opens).2.2
  have stop := (Glyph.closes_iff.1 closes).2
  have leading : t.dropWhile (fun g => Text.isBlank g.shown) = t := by
    rw [form, List.dropWhile_cons_of_neg (by simp [start])]
  rw [trimmed, leading, form', List.reverse_append]
  simp [stop]

@[simp] theorem lay_token (t : Template ValueHolder) (s : String) :
    lay t (.token s) = t.add (ofText s) := rfl

@[simp] theorem lay_value (t : Template ValueHolder) (pattern : Bool) (holder : ValueHolder) :
    lay t (.value pattern holder) = t.add [.slot holder] := rfl

@[simp] theorem lay_correlated (t : Template ValueHolder) (attr : String) :
    lay t (.correlated attr) = t := rfl

@[simp] theorem lay_latest (t : Template ValueHolder) (key : String) :
    lay t (.latest key) = t := rfl

/-- The template can stand anywhere, parted from its neighbours by blanks. -/
structure Solid (t : Template α) : Prop where
  begins : Begins t
  ends : Ends t

section Combinations

variable {t u v w : Template α}

theorem Solid.between {first last : Template α} (begins : Begins first) (ends : Ends last)
    (t : Template α) : Solid (first ++ t ++ last) :=
  ⟨(begins.append t).append last, ends.append (first ++ t)⟩

theorem add_operation (left : Solid u) (sign : Solid w) (right : Solid v) :
    ((((t.add (ofText "(")).add u).add w).add v).add (ofText ")") =
      t.add (ofText "(" ++ u ++ ofText " " ++ w ++ ofText " " ++ v ++ ofText ")") := by
  rw [add_opened (u := ofText "(") rfl, add_apart (left.ends.append _) sign.begins,
    add_apart (sign.ends.append _) right.begins, add_closing (right.ends.append _).ne_nil]

theorem add_connective (left : Solid u) (word : Solid w) (right : Solid v) :
    ((((((t.add (ofText "(")).add (ofText "(")).add u).add (ofText ")")).add w).add v).add
        (ofText ")") =
      t.add (ofText "((" ++ u ++ ofText ") " ++ w ++ ofText " " ++ v ++ ofText ")") := by
  have opening : ofText "(" ++ ofText "(" = (ofText "((" : Template α) := rfl
  have closing : ofText ")" ++ ofText " " = (ofText ") " : Template α) := rfl
  have closed : Ends (ofText ")" : Template α) := rfl
  rw [add_opened (t := t) (u := ofText "(") rfl (ofText "("), opening,
    add_opened (t := t) (u := ofText "((") rfl u,
    add_closing (left.ends.append _).ne_nil, add_apart (closed.append _) word.begins,
    add_apart (word.ends.append _) right.begins, add_closing (right.ends.append _).ne_nil,
    List.append_assoc (_ ++ u), closing]

end Combinations

end Template

end ConditionQuery
