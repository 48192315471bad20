import ConditionQuery.Proofs.Joins
import ConditionQuery.Proofs.ShownText
import ConditionQuery.Proofs.Slots

/-! Statements with identifiers for names. Their text has no characters but those of words and
operators, its parentheses are balanced, and its question marks are the markers of the values. -/
namespace ConditionQuery

/-- A character of a statement. -/
def isStatementChar (c : Char) : Bool :=
  c.isAlphanum || "_ .,()?*=!<>+-/%".toList.contains c

/-- The text has no other characters than statements have. -/
def Plain (s : String) : Prop := ∀ c ∈ s.toList, isStatementChar c = true

instance (s : String) : Decidable (Plain s) :=
  decidable_of_iff (s.toList.all isStatementChar = true) List.all_eq_true

namespace Plain

@[simp] theorem append_iff {s s' : String} : Plain (s ++ s') ↔ Plain s ∧ Plain s' := by
  simp only [Plain, String.toList_append, List.forall_mem_append]

theorem intercalate {sep : String} (separator : Plain sep) {parts : List String}
    (each : ∀ s ∈ parts, Plain s) : Plain (sep.intercalate parts) := by
  induction parts with
  | nil => exact fun c member => by simp at member
  | cons s rest ih =>
    obtain ⟨first, others⟩ := List.forall_mem_cons.1 each
    cases rest with
    | nil => simpa using first
    | cons second rest =>
      rw [String.intercalate_cons_cons]
      exact append_iff.2 ⟨append_iff.2 ⟨first, separator⟩, ih others⟩

theorem of_isIdentifier {name : String} (identifier : isIdentifier name = true) : Plain name := by
  intro c member
  have word := List.all_eq_true.1 (isWord_of_isIdentifier identifier).2 c member
  simp only [isWordChar, Bool.or_eq_true, beq_iff_eq] at word
  rcases word with (letter | rfl) | rfl
  · simp [isStatementChar, letter]
  · decide
  · decide

end Plain

/-- How many parentheses are open after the text, when `depth` are open before it; `none` if one is
closed that is not open. -/
def openAfter : (depth : Nat) → List Char → Option Nat
  | depth, [] => some depth
  | depth, c :: cs =>
    if c = '(' then openAfter (depth + 1) cs
    else if c = ')' then if depth = 0 then none else openAfter (depth - 1) cs
    else openAfter depth cs

theorem openAfter_append (depth : Nat) (cs ds : List Char) :
    openAfter depth (cs ++ ds) = (openAfter depth cs).bind fun depth => openAfter depth ds := by
  induction cs generalizing depth with
  | nil => rfl
  | cons c cs ih =>
    simp only [List.cons_append, openAfter, ih]
    split
    · rfl
    · split
      · split <;> rfl
      · rfl

theorem openAfter_of_word {s : String} (word : s.toList.all isWordChar = true) (depth : Nat) :
    openAfter depth s.toList = some depth := by
  rw [List.all_eq_true] at word
  generalize s.toList = cs at word
  induction cs with
  | nil => rfl
  | cons c cs ih =>
    obtain ⟨first, others⟩ := List.forall_mem_cons.1 word
    have low := (isWordChar_bounds first).1
    have opening : c ≠ '(' := by
      rintro rfl
      simp at low
    have closing : c ≠ ')' := by
      rintro rfl
      simp at low
    simp only [openAfter, if_neg opening, if_neg closing, ih others]

/-- The name that the link is about. -/
def Link.name : Link → String
  | .plain attr => attr
  | .latest key => key

theorem Expr.mem_of_column? {e : Expr} {attr : String} (column : e.column? = some attr) :
    attr ∈ e.storeAttributes := by
  cases e with
  | storeVariable storeId name type =>
    obtain rfl : name = attr := Option.some.inj column
    exact List.mem_singleton.2 rfl
  | _ => simp [column?] at column

namespace Site

/-- The names at the site are among the attributes. -/
structure Within (attrs : List String) (s : Site) : Prop where
  node : s.node.storeAttributes ⊆ attrs
  equated : ∀ other ∈ s.equated, other.storeAttributes ⊆ attrs

variable {attrs : List String} {s : Site}

theorem within_alone {e : Expr} (known : e.storeAttributes ⊆ attrs) :
    Within attrs ⟨e, none⟩ :=
  ⟨known, by simp⟩

theorem Within.key (within : s.Within attrs) {key : String} (keyed : s.key? = some key) :
    key ∈ attrs := by
  cases called : s.node.lastArgs? with
  | none => simp [key?_eq_none called] at keyed
  | some args =>
    obtain ⟨space, name, form, -⟩ := Expr.lastArgs?_eq_some called
    rcases args with _ | ⟨value, _ | ⟨second, _ | ⟨third, rest⟩⟩⟩
    · simp [key?, called] at keyed
    · -- One argument: the key is the column on the other side of the equation.
      simp only [key?, called, equatedColumn?, Option.bind_eq_some_iff] at keyed
      obtain ⟨other, present, column⟩ := keyed
      exact within.equated other present (Expr.mem_of_column? column)
    · simp only [key?, called] at keyed
      apply within.node
      simp [form, Expr.storeAttributes, Expr.storeAttributesOfArgs, Expr.mem_of_column? keyed]
    · simp [key?, called] at keyed

theorem Within.link (within : s.Within attrs) {afterSelect : Bool} {link : Link}
    (linked : s.link? afterSelect = some link) : link.name ∈ attrs := by
  cases column : s.node.column? with
  | none =>
    simp only [link?, column, Option.map_eq_some_iff] at linked
    obtain ⟨key, keyed, rfl⟩ := linked
    exact within.key keyed
  | some attr =>
    simp only [link?, column, Option.ite_none_left_eq_some, Option.some.injEq] at linked
    obtain ⟨-, rfl⟩ := linked
    exact within.node (Expr.mem_of_column? column)

end Site

namespace Expr

section Names

variable {attrs : List String}

mutual

theorem within_sitesBelow {e : Expr} (known : e.storeAttributes ⊆ attrs) :
    ∀ site ∈ e.sitesBelow, site.Within attrs := by
  cases e with
  | and left right | or left right | math op left right =>
    obtain ⟨fromLeft, fromRight⟩ := List.append_subset.1 known
    rw [sitesBelow, List.cons_append, List.forall_mem_cons, List.forall_mem_append,
      List.forall_mem_cons]
    exact ⟨Site.within_alone fromLeft, within_sitesBelow fromLeft,
      Site.within_alone fromRight, within_sitesBelow fromRight⟩
  | compare op left right =>
    obtain ⟨fromLeft, fromRight⟩ := List.append_subset.1 known
    have equated {other : Expr} (inTree : other.storeAttributes ⊆ attrs) :
        ∀ e ∈ equatedBy op other, e.storeAttributes ⊆ attrs := by
      unfold equatedBy
      split <;> simp [inTree]
    rw [sitesBelow, List.cons_append, List.forall_mem_cons, List.forall_mem_append,
      List.forall_mem_cons]
    exact ⟨⟨fromLeft, equated fromRight⟩, within_sitesBelow fromLeft,
      ⟨fromRight, equated fromLeft⟩, within_sitesBelow fromRight⟩
  | not operand | isNull operand | isIn storeId operand =>
    rw [sitesBelow, List.forall_mem_cons]
    exact ⟨Site.within_alone known, within_sitesBelow known⟩
  | function space name args =>
    rw [sitesBelow]
    split
    · simp
    · exact within_sitesOfArgs known
  | constant v type | streamVariable id streamId type | storeVariable storeId attr type =>
    simp [sitesBelow]

theorem within_sitesOfArgs {args : List Expr} (known : storeAttributesOfArgs args ⊆ attrs) :
    ∀ site ∈ sitesOfArgs args, site.Within attrs := by
  cases args with
  | nil => simp [sitesOfArgs]
  | cons arg rest =>
    obtain ⟨fromArg, fromRest⟩ := List.append_subset.1 known
    rw [sitesOfArgs, List.cons_append, List.forall_mem_cons, List.forall_mem_append]
    exact ⟨Site.within_alone fromArg, within_sitesBelow fromArg, within_sitesOfArgs fromRest⟩

end

/-- The sites have no other names than the tree. -/
theorem within_sites (e : Expr) : ∀ site ∈ e.sites, site.Within e.storeAttributes := by
  rw [sites, List.forall_mem_cons]
  exact ⟨Site.within_alone (List.Subset.refl _), within_sitesBelow (List.Subset.refl _)⟩

theorem joinKeys_subset (e : Expr) : e.joinKeys ⊆ e.storeAttributes := by
  intro key member
  obtain ⟨site, known, keyed⟩ := List.mem_filterMap.1 member
  exact (within_sites e site known).key keyed

theorem name_of_mem_links {e : Expr} {afterSelect : Bool} {link : Link}
    (member : link ∈ e.links afterSelect) : link.name ∈ e.storeAttributes := by
  obtain ⟨site, known, linked⟩ := List.mem_filterMap.1 member
  exact (within_sites e site known).link linked

end Names

variable {options : CompileOptions} {e : Expr} {c : CompiledCondition}

theorem openAfter_operator (depth : Nat) :
    (∀ op : CompareOp, openAfter depth op.token.toList = some depth) ∧
      ∀ op : MathOp, openAfter depth op.token.toList = some depth := by
  constructor
  · intro op
    cases op <;> rfl
  · intro op
    cases op <;> rfl

mutual

/-- A tree closes the parentheses that it opens. -/
theorem openAfter_shown (table : IsWord options.table) {role : Role} {e : Expr}
    (attrs : ∀ attr ∈ e.storeAttributes, IsWord attr) (sound : e.fault role = none)
    (depth : Nat) : openAfter depth (e.shown options) = some depth := by
  cases e with
  | and left right | or left right | compare op left right | math op left right =>
    obtain ⟨fromLeft, fromRight⟩ := List.forall_mem_append.1 attrs
    simp only [fault, Option.or_eq_none_iff] at sound
    rw [shown]
    simp [printed, toList_printed, openAfter, openAfter_append, openAfter_operator,
      openAfter_shown table fromLeft sound.1, openAfter_shown table fromRight sound.2]
  | not operand | isNull operand | isIn storeId operand =>
    rw [shown]
    simp [printed, toList_printed, openAfter, openAfter_append,
      openAfter_shown table (e := operand) attrs sound]
  | function space name args =>
    rw [← List.append_nil (shown ..)]
    cases named : Call.ofName? space name with
    | none => simp [fault, named] at sound
    | some call =>
      cases call with
      | aggregate =>
        simp only [fault, named] at sound
        have word : name.toList.all isWordChar = true := by
          rcases Call.name_of_aggregate named with rfl | rfl | rfl | rfl <;> decide
        have inner := openAfter_shownArgs table attrs sound
        rw [shown_aggregate _ _ named]
        simp [openAfter, openAfter_append, openAfter_of_word word, inner]
      | contains =>
        simp only [fault, named] at sound
        have inner := openAfter_shownArgs table attrs sound
        rw [shown_contains _ _ named]
        simp [openAfter, openAfter_append, inner]
      | last =>
        simp only [fault, named] at sound
        obtain ⟨⟨value, key⟩, accepted⟩ := faultOf_eq_none sound
        obtain ⟨storeId, type, rest, rfl, -⟩ := lastCall_ok accepted
        have name := attrs value (by simp [storeAttributes, storeAttributesOfArgs])
        rw [shown_last _ _ named accepted]
        simp only [openAfter, openAfter_append, openAfter_of_word (table.qualified name).2]
        rfl
  | constant v type | streamVariable id streamId type =>
    rw [shown]
    simp [printed, openAfter]
  | storeVariable storeId attr type =>
    have column : IsWord (columnText options attr) :=
      isWord_columnText table (attrs attr (List.mem_singleton.2 rfl))
    exact openAfter_of_word column.2 depth

theorem openAfter_shownArgs (table : IsWord options.table) {args : List Expr}
    (attrs : ∀ attr ∈ storeAttributesOfArgs args, IsWord attr) (sound : faultOfArgs args = none)
    (depth : Nat) : openAfter depth (shownArgs options args) = some depth := by
  cases args with
  | nil => rfl
  | cons arg rest =>
    obtain ⟨fromArg, fromRest⟩ := List.forall_mem_append.1 attrs
    simp only [faultOfArgs, Option.or_eq_none_iff] at sound
    have first := openAfter_shown table fromArg sound.1
    have others := openAfter_shownArgs table fromRest sound.2
    cases rest with
    | nil => rw [shownArgs_singleton, first]
    | cons second rest =>
      rw [shownArgs_cons_cons]
      simp [openAfter, openAfter_append, first, others]

end

end Expr

/-- A compiled condition of which nothing but statement text can come into a query: its texts are
plain, and the question marks of its own text are the markers of its slots. -/
structure CompiledCondition.Harmless (c : CompiledCondition) : Prop where
  text : Plain c.text
  query : Plain c.query
  join : ∀ fragment ∈ c.join.subSelect ++ c.join.outerJoin ++ c.join.aggregateJoin, Plain fragment
  balanced : openAfter 0 c.text.toList = some 0
  marked : ∀ offset, Template.MarkedAt c.text.toList offset ↔ offset ∈ c.markerOffsets
  ascending : c.markerOffsets.Pairwise (· < ·)
  counted : c.markerOffsets.length = c.parameterCount

namespace Link

variable {options : CompileOptions}

theorem plain_projection (table : Plain options.table) {key : String} (name : Plain key) :
    Plain (projection options key) := by
  simp +decide only [projection, Plain.append_iff, table, name]

theorem plain_fragment (table : Plain options.table) (subquery : Plain options.subqueryAlias)
    {link : Link} (name : Plain link.name) : Plain (link.fragment options) := by
  cases link with
  | plain key | latest key =>
    have known : Plain key := name
    simp +decide only [fragment, equation, Plain.append_iff, table, subquery, known]

end Link

namespace Expr

variable {options : CompileOptions} {e : Expr} {c : CompiledCondition}

theorem plain_text (names : e.NamesAll (fun name => isIdentifier name = true) options)
    (compiled : e.compile options = .ok c) : Plain c.text := by
  have renders := compile_renders names.bracketFree compiled
  have plain : ∀ c, .char c ∈ e.template options → isStatementChar c = true :=
    char_template (List.all_eq_true.1 (by decide)) ⟨Plain.of_isIdentifier names.1,
      fun attr member => Plain.of_isIdentifier (names.2 attr member)⟩
  intro c member
  rw [renders.text] at member
  obtain ⟨glyph, present, rfl⟩ := List.mem_map.1 member
  cases glyph with
  | char c => exact plain c present
  | slot holder => rfl

theorem plain_join (names : e.NamesAll (fun name => isIdentifier name = true) options)
    (subquery : isIdentifier options.subqueryAlias = true) (compiled : e.compile options = .ok c) :
    (∀ fragment ∈ c.join.subSelect, Plain fragment) ∧
      (∀ fragment ∈ c.join.outerJoin, Plain fragment) ∧
      ∀ fragment ∈ c.join.aggregateJoin, Plain fragment := by
  have table := Plain.of_isIdentifier names.1
  have sub := Plain.of_isIdentifier subquery
  have attrs {attr : String} (member : attr ∈ e.storeAttributes) : Plain attr :=
    Plain.of_isIdentifier (names.2 attr member)
  have join := join_eq compiled
  rw [CorrelatedJoin.extend, key?_of_links] at join
  simp only [join, CorrelatedJoin.empty, List.nil_append, List.forall_mem_map]
  refine ⟨?_, ?_, ?_⟩
  · intro key member
    exact Link.plain_projection table (attrs (joinKeys_subset e member))
  · intro link member
    exact Link.plain_fragment table sub (attrs (name_of_mem_links member))
  · intro key member
    exact Link.plain_fragment table sub (attrs (joinKeys_subset e member))

theorem plain_query (names : e.NamesAll (fun name => isIdentifier name = true) options)
    (subquery : isIdentifier options.subqueryAlias = true) (compiled : e.compile options = .ok c) :
    Plain c.query := by
  have table : Plain c.table := by
    rw [table_of_compile compiled]
    exact .of_isIdentifier names.1
  have sub : Plain c.join.aliasName := by
    rw [join_eq compiled]
    exact .of_isIdentifier subquery
  have text := plain_text names compiled
  obtain ⟨subSelect, -, aggregateJoin⟩ := plain_join names subquery compiled
  have projected : Plain c.join.subSelectText := .intercalate (by decide) subSelect
  have joined : Plain c.join.aggregateJoinText := .intercalate (by decide) aggregateJoin
  have asked : Plain c.projection.text := by
    cases c.projection <;> decide
  rw [CompiledCondition.query, CompiledCondition.statement]
  split <;> split <;>
    simp +decide only [Plain.append_iff, table, sub, text, projected, joined, asked]

/-- Identifiers for names, whatever all else is, give a harmless condition. -/
theorem harmless_of_compile (names : e.NamesAll (fun name => isIdentifier name = true) options)
    (subquery : isIdentifier options.subqueryAlias = true) (compiled : e.compile options = .ok c) :
    c.Harmless := by
  have renders := compile_renders names.bracketFree compiled
  have table := isWord_of_isIdentifier names.1
  have attrs := fun attr member => isWord_of_isIdentifier (names.2 attr member)
  have unmarked {s : String} (word : IsWord s) : ∀ c ∈ s.toList, c ≠ '?' :=
    List.forall_mem_ne'.2 (word.not_mem (by decide))
  obtain ⟨subSelect, outerJoin, aggregateJoin⟩ := plain_join names subquery compiled
  constructor
  · exact plain_text names compiled
  · exact plain_query names subquery compiled
  · simp only [List.forall_mem_append]
    exact ⟨⟨subSelect, outerJoin⟩, aggregateJoin⟩
  · rw [text_of_compile names compiled]
    exact openAfter_shown table attrs (compile_ok compiled).1 0
  · intro offset
    rw [renders.text, renders.markerOffsets]
    apply Template.markedAt_iff
    exact char_template (List.forall_mem_ne'.2 (by decide))
      ⟨unmarked table, fun attr member => unmarked (attrs attr member)⟩
  · rw [renders.markerOffsets]
    exact Template.offsets_ascending 0 _
  · rw [renders.markerOffsets, CompiledCondition.parameterCount, renders.parameters,
      Template.length_offsets, OrdinalMap.size_enumerate]

end Expr

end ConditionQuery
