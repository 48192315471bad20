import ConditionQuery.Proofs.PrintedTree
import ConditionQuery.Proofs.Rendering

/-! Compiled conditions as printed trees. When the names are identifiers, the tokens of a tree are
parted as they are in the printed tree, and there is nothing to trim. -/
namespace ConditionQuery.Expr
open Template (ofText)

section Layout

variable {options : CompileOptions} {e : Expr} {c : CompiledCondition}

mutual

/-- The entries of a tree are laid as it is printed. -/
theorem lay_entries (table : IsWord options.table) {role : Role} {e : Expr}
    (attrs : ∀ attr ∈ e.storeAttributes, IsWord attr) (sound : e.fault role = none) (p : Bool)
    (t : Template ValueHolder) :
    (e.entries options role p).foldl Template.lay t = t.add (e.body options) := by
  cases e with
  | and left right | or left right =>
    obtain ⟨fromLeft, fromRight⟩ := List.forall_mem_append.1 attrs
    simp only [fault, Option.or_eq_none_iff] at sound
    simp only [entries, List.foldl_append, List.foldl_cons, List.foldl_nil, Template.lay_token,
      lay_entries table fromLeft sound.1, lay_entries table fromRight sound.2]
    exact Template.add_connective (solid_body table fromLeft sound.1) ⟨by decide, by decide⟩
      (solid_body table fromRight sound.2)
  | compare op left right =>
    obtain ⟨fromLeft, fromRight⟩ := List.forall_mem_append.1 attrs
    simp only [fault, Option.or_eq_none_iff] at sound
    simp only [entries, List.foldl_append, List.foldl_cons, List.foldl_nil, Template.lay_token,
      lay_entries table fromLeft sound.1, lay_entries table fromRight sound.2]
    exact Template.add_operation (solid_body table fromLeft sound.1) (solid_operator.1 op)
      (solid_body table fromRight sound.2)
  | math op left right =>
    obtain ⟨fromLeft, fromRight⟩ := List.forall_mem_append.1 attrs
    simp only [fault, Option.or_eq_none_iff] at sound
    simp only [entries, List.foldl_append, List.foldl_cons, List.foldl_nil, Template.lay_token,
      lay_entries table fromLeft sound.1, lay_entries table fromRight sound.2]
    exact Template.add_operation (solid_body table fromLeft sound.1) (solid_operator.2 op)
      (solid_body table fromRight sound.2)
  | not operand =>
    simp only [entries, List.foldl_append, List.foldl_cons, List.foldl_nil, Template.lay_token,
      lay_entries table (e := operand) attrs sound]
    have opening : ofText "NOT" ++ ofText " " ++ ofText "(" =
        (ofText "NOT (" : Template ValueHolder) := rfl
    have inner := solid_body table (e := operand) attrs sound
    have word : (ofText "NOT" : Template ValueHolder).Ends := by decide
    have parenthesis : (ofText "(" : Template ValueHolder).Begins := by decide
    rw [Template.add_apart word parenthesis, opening,
      Template.add_opened (u := ofText "NOT (") (by decide),
      Template.add_closing (inner.ends.append _).ne_nil, body]
  | isNull operand =>
    simp only [entries, List.foldl_append, List.foldl_cons, List.foldl_nil, Template.lay_token,
      lay_entries table (e := operand) attrs sound]
    have suffix : ofText " " ++ ofText "IS NULL" =
        (ofText " IS NULL" : Template ValueHolder) := rfl
    have inner := solid_body table (e := operand) attrs sound
    rw [Template.add_apart inner.ends (by decide), List.append_assoc, suffix, body]
  | isIn storeId operand =>
    simp only [entries, List.foldl_append, List.foldl_cons, List.foldl_nil, Template.lay_token,
      lay_entries table (e := operand) attrs sound]
    have prefixed : ofText "IN" ++ ofText " " = (ofText "IN " : Template ValueHolder) := rfl
    have inner := solid_body table (e := operand) attrs sound
    rw [Template.add_apart (by decide) inner.begins, prefixed, body]
  | function space name args =>
    cases named : Call.ofName? space name with
    | none => simp [fault, named] at sound
    | some call =>
      cases call with
      | aggregate =>
        simp only [fault, named] at sound
        have opened : (ofText (name ++ "(") : Template ValueHolder).getLast?.any
            (Glyph.isChar '(') = true := by simp [Template.ofText, Template.ofChars, Glyph.isChar]
        simp only [entries, named, List.foldl_append, List.foldl_cons, List.foldl_nil, body,
          Template.lay_token]
        rw [lay_entriesOfArgs table attrs sound p (.inl ⟨rfl, opened⟩),
          Template.add_closing ((begins_aggregate named).append _).ne_nil]
      | contains =>
        simp only [fault, named] at sound
        simp only [entries, named, List.foldl_append, List.foldl_cons, List.foldl_nil, body,
          Template.lay_token]
        rw [lay_entriesOfArgs table attrs sound true (.inl ⟨rfl, by decide⟩),
          Template.add_closing (Template.Begins.append (by decide) _).ne_nil]
      | last =>
        simp only [fault, named] at sound
        obtain ⟨⟨value, key⟩, accepted⟩ := faultOf_eq_none sound
        simp [entries, body, named, accepted, lastEntries, lastText_of_lastCall accepted]
  | constant v type | streamVariable id streamId type => rfl
  | storeVariable storeId attr type =>
    simp only [entries, columnEntries, body]
    split <;> rfl

theorem lay_entriesOfArgs (table : IsWord options.table) {args : List Expr}
    (attrs : ∀ attr ∈ storeAttributesOfArgs args, IsWord attr) (sound : faultOfArgs args = none)
    (p : Bool) {first : Bool} {t u : Template ValueHolder}
    (before : first = true ∧ u.getLast?.any (Glyph.isChar '(') = true ∨
      first = false ∧ u.Ends) :
    (entriesOfArgs options p first args).foldl Template.lay (t.add u) =
      t.add (u ++ bodyOfArgs options first args) := by
  cases args with
  | nil => simp [entriesOfArgs, bodyOfArgs]
  | cons arg rest =>
    obtain ⟨fromArg, fromRest⟩ := List.forall_mem_append.1 attrs
    simp only [faultOfArgs, Option.or_eq_none_iff] at sound
    have solid := solid_body table fromArg sound.1
    have others {v : Template ValueHolder} (ends : v.Ends) :=
      lay_entriesOfArgs table fromRest sound.2 (p && !arg.hasOwnValue) (t := t) (.inr ⟨rfl, ends⟩)
    rcases before with ⟨rfl, opened⟩ | ⟨rfl, ends⟩
    · simp only [entriesOfArgs, List.foldl_append, if_true,
        lay_entries table fromArg sound.1, bodyOfArgs, List.nil_append]
      rw [Template.add_opened opened, others (solid.ends.append _), List.append_assoc]
    · have comma : (u ++ ofText ",").Ends := .append (by decide) u
      have separator : ofText "," ++ ofText " " = (ofText ", " : Template ValueHolder) := rfl
      simp only [entriesOfArgs, Bool.false_eq_true, if_false, List.foldl_append, List.foldl_nil,
        List.foldl_cons, Template.lay_token, lay_entries table fromArg sound.1, bodyOfArgs]
      rw [Template.add_comma ends.ne_nil, Template.add_apart comma solid.begins,
        others (solid.ends.append _), List.append_assoc u, separator]
      simp only [List.append_assoc]

end

theorem slots_body (table : IsWord options.table) {role : Role} {e : Expr}
    (attrs : ∀ attr ∈ e.storeAttributes, IsWord attr) (sound : e.fault role = none) :
    Template.slots (e.body options) = e.holders := by
  have laid := congrArg Template.slots (lay_entries table attrs sound false [])
  rw [Template.slots_foldl_lay, holders_entries options sound, Template.slots_add] at laid
  simpa using laid.symm

mutual

/-- Filled with names, the body of a tree is the tree printed with them. -/
theorem fill_body (table : IsWord options.table) {role : Role} {e : Expr}
    (attrs : ∀ attr ∈ e.storeAttributes, IsWord attr) (sound : e.fault role = none)
    (value : Nat → String) (k : Nat) :
    Template.fill value k (e.body options) = (e.printed options value k).toList := by
  cases e with
  | and left right | or left right | compare op left right | math op left right =>
    obtain ⟨fromLeft, fromRight⟩ := List.forall_mem_append.1 attrs
    simp only [fault, Option.or_eq_none_iff] at sound
    simp [body, printed, slots_body table fromLeft sound.1, fill_body table fromLeft sound.1,
      fill_body table fromRight sound.2]
  | not operand | isNull operand | isIn storeId operand =>
    simp [body, printed, fill_body table (e := operand) attrs sound]
  | function space name args =>
    cases named : Call.ofName? space name with
    | none => simp [fault, named] at sound
    | some call =>
      cases call with
      | aggregate | contains =>
        simp only [fault, named] at sound
        have words : ∀ attr ∈ storeAttributesOfArgs args, IsWord attr := attrs
        simp [body, printed, named, fill_bodyOfArgs table words sound]
      | last => simp [body, printed, named]
  | constant v type | streamVariable id streamId type => simp [body, printed, Template.fill]
  | storeVariable storeId attr type => simp [body, printed]

theorem fill_bodyOfArgs (table : IsWord options.table) {args : List Expr}
    (attrs : ∀ attr ∈ storeAttributesOfArgs args, IsWord attr) (sound : faultOfArgs args = none)
    (value : Nat → String) (k : Nat) :
    Template.fill value k (bodyOfArgs options true args) =
      (", ".intercalate (printedArgs options value k args)).toList := by
  cases args with
  | nil => rfl
  | cons arg rest =>
    obtain ⟨fromArg, fromRest⟩ := List.forall_mem_append.1 attrs
    simp only [faultOfArgs, Option.or_eq_none_iff] at sound
    have first := fill_body table fromArg sound.1 value k
    have others := fill_bodyOfArgs table fromRest sound.2 value (k + arg.holders.length)
    cases rest with
    | nil => simp [bodyOfArgs, printedArgs, first]
    | cons second rest =>
      have parts : bodyOfArgs options true (arg :: second :: rest) =
          arg.body options ++ ofText ", " ++ bodyOfArgs options true (second :: rest) := by
        simp [bodyOfArgs]
      rw [parts, Template.fill_append, Template.fill_append, first, Template.slots_append,
        slots_body table fromArg sound.1, Template.slots_ofText, List.append_nil, others]
      simp [printedArgs, String.intercalate_cons_cons]

end

/-- The text of a compiled tree is the printed tree, whatever its values are printed as. -/
theorem fill_template (names : e.NamesAll (fun name => isIdentifier name = true) options)
    (compiled : e.compile options = .ok c) (value : Nat → String) :
    Template.fill value 1 (e.template options) = (e.printed options value 1).toList := by
  have table := isWord_of_isIdentifier names.1
  have attrs := fun attr member => isWord_of_isIdentifier (names.2 attr member)
  have sound := (compile_ok compiled).1
  have laid : e.layout options = e.body options := by
    rw [layout, lay_entries table attrs sound, Template.add]
    simp [Template.glued]
  have solid := solid_body table attrs sound
  rw [template, laid, Template.trimmed_eq_self solid.begins solid.ends, fill_body table attrs sound]

theorem NamesAll.bracketFree (names : e.NamesAll (fun name => isIdentifier name = true) options) :
    e.NamesAll (fun name => '[' ∉ name.toList) options := by
  have free {name : String} (identifier : isIdentifier name = true) : '[' ∉ name.toList := by
    intro member
    have word := List.all_eq_true.1 (isWord_of_isIdentifier identifier).2 '[' member
    exact absurd word (by decide)
  constructor
  · exact free names.1
  · intro attr member
    exact free (names.2 attr member)

theorem text_of_compile (names : e.NamesAll (fun name => isIdentifier name = true) options)
    (compiled : e.compile options = .ok c) : c.text = e.printed options (fun _ => "?") 1 := by
  have renders := compile_renders names.bracketFree compiled
  rw [← String.toList_inj, renders.text, ← Template.fill_mark 1, fill_template names compiled]

end Layout

end ConditionQuery.Expr
