import ConditionQuery.Proofs.Holders

/-! The characters of the tokens that a walk writes: those of statements, and those of names. -/
namespace ConditionQuery

/-- The characters of statements, names apart. -/
def statementChars : List Char := "()ANDORTISULCMXsumavginx,. =!<>+-*/%".toList

/-- What the entry writes as a token consists of the characters. -/
def Entry.Within (ok : Char → Prop) : Entry → Prop
  | .token s => ∀ c ∈ s.toList, ok c
  | _ => True

namespace Expr

/-- The names that can stand in the text of the tree: the table and its attributes. -/
def NamesAll (p : String → Prop) (options : CompileOptions) (e : Expr) : Prop :=
  p options.table ∧ ∀ attr ∈ e.storeAttributes, p attr

instance (p : String → Prop) [DecidablePred p] (options : CompileOptions) (e : Expr) :
    Decidable (e.NamesAll p options) :=
  inferInstanceAs (Decidable (_ ∧ _))

section Characters

variable {ok : Char → Prop} {options : CompileOptions}

theorem within_literal (allowed : ∀ c ∈ statementChars, ok c) {s : String}
    (literal : s.toList.all statementChars.contains = true) : (Entry.token s).Within ok := by
  intro c member
  have known := List.all_eq_true.1 literal c member
  exact allowed c (by simpa using known)

theorem within_append {s s' : String} (first : (Entry.token s).Within ok)
    (second : (Entry.token s').Within ok) : (Entry.token (s ++ s')).Within ok := by
  intro c member
  rw [String.toList_append] at member
  rcases List.mem_append.1 member with member | member
  · exact first c member
  · exact second c member

theorem within_columnText (allowed : ∀ c ∈ statementChars, ok c) {attr : String}
    (table : ∀ c ∈ options.table.toList, ok c) (name : ∀ c ∈ attr.toList, ok c) :
    (Entry.token (columnText options attr)).Within ok := by
  have dot : (Entry.token ".").Within ok := within_literal allowed (by decide)
  unfold columnText
  split
  · exact name
  · exact within_append (within_append table dot) name

theorem within_operator (allowed : ∀ c ∈ statementChars, ok c) :
    (∀ op : CompareOp, (Entry.token op.token).Within ok) ∧
      ∀ op : MathOp, (Entry.token op.token).Within ok := by
  constructor
  · intro op
    exact within_literal allowed (by cases op <;> decide)
  · intro op
    exact within_literal allowed (by cases op <;> decide)

theorem within_aggregate (allowed : ∀ c ∈ statementChars, ok c) {space : Option String}
    {name : String} (named : Call.ofName? space name = some .aggregate) :
    (Entry.token (name ++ "(")).Within ok := by
  rcases Call.name_of_aggregate named with rfl | rfl | rfl | rfl <;>
    exact within_literal allowed (by decide)

theorem within_lastEntries (allowed : ∀ c ∈ statementChars, ok c) {role : Role} {args : List Expr}
    (table : ∀ c ∈ options.table.toList, ok c)
    (attrs : ∀ attr ∈ storeAttributesOfArgs args, ∀ c ∈ attr.toList, ok c) :
    ∀ entry ∈ lastEntries options (lastCall role args), entry.Within ok := by
  cases accepted : lastCall role args with
  | error err => simp [lastEntries]
  | ok pair =>
    obtain ⟨value, key⟩ := pair
    obtain ⟨storeId, type, rest, rfl, -⟩ := lastCall_ok accepted
    have name := attrs value (by simp [storeAttributesOfArgs, storeAttributes])
    have opening : (Entry.token "MAX(").Within ok := within_literal allowed (by decide)
    have dot : (Entry.token ".").Within ok := within_literal allowed (by decide)
    have closing : (Entry.token ")").Within ok := within_literal allowed (by decide)
    have column := within_append (within_append (within_append opening table) dot) name
    simp only [lastEntries, List.forall_mem_cons]
    exact ⟨trivial, within_append column closing, by simp⟩

mutual

/-- The tokens of a tree consist of characters of statements and of its names. -/
theorem within_entries (allowed : ∀ c ∈ statementChars, ok c)
    (table : ∀ c ∈ options.table.toList, ok c) {e : Expr}
    (attrs : ∀ attr ∈ e.storeAttributes, ∀ c ∈ attr.toList, ok c) (role : Role) (p : Bool) :
    ∀ entry ∈ e.entries options role p, entry.Within ok := by
  have literal (s : String) (known : s.toList.all statementChars.contains = true) :
      (Entry.token s).Within ok := within_literal allowed known
  have opening := literal "(" (by decide)
  have closing := literal ")" (by decide)
  cases e with
  | and left right | or left right =>
    obtain ⟨fromLeft, fromRight⟩ := List.forall_mem_append.1 attrs
    have first := within_entries allowed table fromLeft .free p
    have second := within_entries allowed table fromRight .free (p && !left.hasOwnValue)
    simpa only [entries, List.forall_mem_append, List.forall_mem_singleton, List.forall_mem_cons,
      opening, closing, true_and, and_true] using ⟨⟨first, literal _ (by decide)⟩, second⟩
  | compare op left right =>
    obtain ⟨fromLeft, fromRight⟩ := List.forall_mem_append.1 attrs
    have first := within_entries allowed table fromLeft (roles op left right).1 p
    have second := within_entries allowed table fromRight (roles op left right).2
      (p && !left.hasOwnValue)
    simpa only [entries, List.forall_mem_append, List.forall_mem_singleton, opening, closing,
      true_and, and_true] using ⟨⟨first, (within_operator allowed).1 op⟩, second⟩
  | math op left right =>
    obtain ⟨fromLeft, fromRight⟩ := List.forall_mem_append.1 attrs
    have first := within_entries allowed table fromLeft .free p
    have second := within_entries allowed table fromRight .free (p && !left.hasOwnValue)
    simpa only [entries, List.forall_mem_append, List.forall_mem_singleton, opening, closing,
      true_and, and_true] using ⟨⟨first, (within_operator allowed).2 op⟩, second⟩
  | not operand =>
    have inner := within_entries allowed table (e := operand) attrs .free p
    simpa only [entries, List.forall_mem_append, List.forall_mem_singleton, List.forall_mem_cons,
      opening, closing, true_and, and_true] using ⟨literal _ (by decide), inner⟩
  | isNull operand =>
    have inner := within_entries allowed table (e := operand) attrs .free p
    simpa only [entries, List.forall_mem_append, List.forall_mem_singleton] using
      ⟨inner, literal _ (by decide)⟩
  | isIn storeId operand =>
    have inner := within_entries allowed table (e := operand) attrs .free p
    simpa only [entries, List.forall_mem_append, List.forall_mem_singleton] using
      ⟨literal _ (by decide), inner⟩
  | function space name args =>
    simp only [entries]
    cases named : Call.ofName? space name with
    | none => simp
    | some call =>
      cases call with
      | aggregate =>
        have inner : ∀ entry ∈ entriesOfArgs options p true args, entry.Within ok :=
          within_entriesOfArgs allowed table attrs p true
        simpa only [List.forall_mem_append, List.forall_mem_singleton, closing, and_true] using
          ⟨within_aggregate allowed named, inner⟩
      | contains =>
        have inner : ∀ entry ∈ entriesOfArgs options true true args, entry.Within ok :=
          within_entriesOfArgs allowed table attrs true true
        simpa only [List.forall_mem_append, List.forall_mem_singleton, closing, and_true] using
          ⟨literal _ (by decide), inner⟩
      | last => exact within_lastEntries allowed table attrs
  | constant v type | streamVariable id streamId type =>
    simp only [entries, List.forall_mem_singleton]
    trivial
  | storeVariable storeId attr type =>
    simp only [entries, columnEntries, List.forall_mem_cons]
    refine ⟨within_columnText allowed table (attrs attr List.mem_cons_self), ?_⟩
    split
    · simp
    · simp only [List.forall_mem_singleton]
      trivial

theorem within_entriesOfArgs (allowed : ∀ c ∈ statementChars, ok c)
    (table : ∀ c ∈ options.table.toList, ok c) {args : List Expr}
    (attrs : ∀ attr ∈ storeAttributesOfArgs args, ∀ c ∈ attr.toList, ok c) (p first : Bool) :
    ∀ entry ∈ entriesOfArgs options p first args, entry.Within ok := by
  cases args with
  | nil => simp [entriesOfArgs]
  | cons arg rest =>
    obtain ⟨fromArg, fromRest⟩ := List.forall_mem_append.1 attrs
    have head := within_entries allowed table fromArg .free p
    have tail := within_entriesOfArgs allowed table fromRest (p && !arg.hasOwnValue) false
    have comma : (Entry.token ",").Within ok := within_literal allowed (by decide)
    have separator : ∀ entry ∈ if first then [] else [Entry.token ","], entry.Within ok := by
      cases first <;> simp [comma]
    rw [entriesOfArgs, List.forall_mem_append, List.forall_mem_append]
    exact ⟨⟨separator, head⟩, tail⟩

end

end Characters

end Expr
end ConditionQuery
