import ConditionQuery.Proofs.ShownText

/-! What a reader of a text sees ahead of it. The character after an operand tells that the operand
ends there, and what begins an operand cannot follow one. -/
namespace ConditionQuery

namespace Expr

variable {options : CompileOptions}

/-- A tree that compiles into a text that can be read. -/
structure Legal (options : CompileOptions) (e : Expr) : Prop where
  sound : ∃ role, e.fault role = none
  words : ∀ attr ∈ e.storeAttributes, IsWord attr
  plain : e.noNullOverIn = true

namespace Legal

theorem split {left right : Expr} {role role' : Role}
    (sound : (left.fault role).or (right.fault role') = none)
    (words : ∀ attr ∈ left.storeAttributes ++ right.storeAttributes, IsWord attr)
    (plain : (left.noNullOverIn && right.noNullOverIn) = true) :
    Legal options left ∧ Legal options right := by
  obtain ⟨soundLeft, soundRight⟩ := Option.or_eq_none_iff.1 sound
  obtain ⟨wordsLeft, wordsRight⟩ := List.forall_mem_append.1 words
  obtain ⟨plainLeft, plainRight⟩ := Bool.and_eq_true_iff.1 plain
  exact ⟨⟨⟨_, soundLeft⟩, wordsLeft, plainLeft⟩, ⟨⟨_, soundRight⟩, wordsRight, plainRight⟩⟩

theorem of_mem {args : List Expr} (sound : faultOfArgs args = none)
    (words : ∀ attr ∈ storeAttributesOfArgs args, IsWord attr)
    (plain : noNullOverInArgs args = true) : ∀ arg ∈ args, Legal options arg := by
  induction args with
  | nil => simp
  | cons arg rest ih =>
    obtain ⟨soundArg, soundRest⟩ := Option.or_eq_none_iff.1 sound
    obtain ⟨wordsArg, wordsRest⟩ := List.forall_mem_append.1 words
    obtain ⟨plainArg, plainRest⟩ := Bool.and_eq_true_iff.1 plain
    rw [List.forall_mem_cons]
    constructor
    · exact ⟨⟨_, soundArg⟩, wordsArg, plainArg⟩
    · exact ih soundRest wordsRest plainRest

end Legal

end Expr

namespace Skeleton

/-- What begins a comparison or an operation. -/
def signs : List Char := "=!<>+-*/%".toList

/-- What can follow an operand, tests for null apart. -/
inductive After : List Char → Prop where
  | nil : After []
  | closing (rest : List Char) : After (')' :: rest)
  | comma (rest : List Char) : After (',' :: rest)
  | sign {c : Char} (member : c ∈ signs) (rest : List Char) : After (' ' :: c :: rest)

inductive Follows : List Char → Prop where
  | after {rest : List Char} (plain : After rest) : Follows rest
  | null (rest : List Char) : Follows (" IS NULL".toList ++ rest)

variable {rest : List Char}

theorem suffixed_of_after (s : Skeleton) (after : After rest) :
    suffixed s rest = (.whole s, rest) := by
  cases after with
  | nil | closing rest | comma rest => simp [suffixed]
  | sign member rest =>
    have other : 'I' ∉ signs := by decide
    simp [suffixed, ne_of_mem_of_not_mem member other]

theorem takesOperand_of_follows (follows : Follows rest) : takesOperand rest = false := by
  cases follows with
  | after plain =>
    cases plain with
    | nil | closing rest | comma rest => rfl
    | sign member rest =>
      have none : signs.any beginsOperand = false := by decide
      simp [takesOperand, List.any_eq_false.1 none _ member]
  | null rest => simp [takesOperand]

theorem stops_at {c : Char} (stop : isWordChar c = false) (rest : List Char) :
    ∀ d ∈ (c :: rest).head?, isWordChar d = false := by
  intro d first
  obtain rfl : c = d := by simpa using first
  exact stop

/-- A word does not go on into what follows it. -/
theorem Follows.not_isWordChar (follows : Follows rest) :
    ∀ c ∈ rest.head?, isWordChar c = false := by
  cases follows with
  | after plain =>
    cases plain with
    | nil => simp
    | closing rest | comma rest | sign member rest => exact stops_at (by decide) _
  | null rest => exact stops_at (by decide) _

theorem span_word {word : List Char} (all : word.all isWordChar = true)
    (stops : ∀ c ∈ rest.head?, isWordChar c = false) :
    (word ++ rest).takeWhile isWordChar = word ∧ (word ++ rest).dropWhile isWordChar = rest := by
  rw [List.takeWhile_append_of_pos (List.all_eq_true.1 all),
    List.dropWhile_append_of_pos (List.all_eq_true.1 all)]
  cases rest with
  | nil => simp
  | cons c rest =>
    have stop : isWordChar c = false := stops c rfl
    simp [stop]

theorem readItem_word {options : CompileOptions} {n : Nat} {word : List Char}
    (nonempty : word ≠ []) (all : word.all isWordChar = true)
    (stops : ∀ c ∈ rest.head?, isWordChar c = false) :
    readItem options (n + 1) (word ++ rest) =
      readWord options (readItem options n) word rest := by
  obtain ⟨taken, dropped⟩ := span_word all stops
  obtain ⟨c, word, rfl⟩ := List.exists_cons_of_ne_nil nonempty
  have char := List.all_eq_true.1 all c List.mem_cons_self
  have mark : c ≠ '?' := by
    rintro rfl
    exact absurd char (by decide)
  have opening : c ≠ '(' := by
    rintro rfl
    exact absurd char (by decide)
  rw [List.cons_append] at taken dropped ⊢
  simp [readItem, mark, opening, taken, dropped]

/-- A word is not the test for null that an operand would have to begin with. -/
theorem not_null_of_word {word : List Char} (all : word.all isWordChar = true)
    (follows : Follows rest) : "IS NULL".toList.isPrefixOf (word ++ rest) = false := by
  rw [Bool.eq_false_iff, ne_eq, List.isPrefixOf_iff_prefix]
  rintro ⟨tail, form⟩
  obtain ⟨-, dropped⟩ := span_word all follows.not_isWordChar
  have split : ("IS NULL".toList ++ tail).dropWhile isWordChar = " NULL".toList ++ tail := by
    have blank : isWordChar ' ' = false := by decide
    have letters : isWordChar 'I' = true ∧ isWordChar 'S' = true := by decide
    simp [blank, letters]
  rw [form, dropped] at split
  subst split
  cases follows with
  | after plain =>
    cases plain with
    | sign member => exact absurd member (by decide)

theorem joined?_compare (op : CompareOp) (s : Skeleton) :
    ' ' ∉ op.token.toList ∧ joined? (.whole s) op.token.toList = some (.compare op s) := by
  cases op <;> exact ⟨by decide, rfl⟩

theorem joined?_math (op : MathOp) (s : Skeleton) :
    ' ' ∉ op.token.toList ∧ joined? (.whole s) op.token.toList = some (.math op s) := by
  cases op <;> exact ⟨by decide, rfl⟩

theorem after_compare (op : CompareOp) (rest : List Char) :
    After (' ' :: (op.token.toList ++ rest)) := by
  cases op <;> exact .sign (by decide) _

theorem after_math (op : MathOp) (rest : List Char) :
    After (' ' :: (op.token.toList ++ rest)) := by
  cases op <;> exact .sign (by decide) _

theorem readArgs_last {read : List Char → Option (Item × List Char)} {n : Nat} {cs : List Char}
    {s : Skeleton} (begins : ∀ tail, cs ≠ ')' :: tail)
    (arg : read cs = some (.whole s, ')' :: rest)) :
    readArgs read (n + 1) cs = some ([s], rest) := by
  rw [readArgs, arg]
  · rfl
  · exact begins

theorem readArgs_more {read : List Char → Option (Item × List Char)} {n : Nat}
    {cs others : List Char} {s : Skeleton} {ss : List Skeleton} (begins : ∀ tail, cs ≠ ')' :: tail)
    (arg : read cs = some (.whole s, ',' :: ' ' :: others))
    (more : readArgs read n others = some (ss, rest)) :
    readArgs read (n + 1) cs = some (s :: ss, rest) := by
  rw [readArgs, arg]
  · simp only [more, Option.map_some]
  · exact begins

theorem unqualified_qualified (options : CompileOptions) (name : String) :
    unqualified options (options.table ++ "." ++ name).toList = name := by
  rw [unqualified, String.toList_append, String.toList_append]
  simp

theorem columnName_columnText (options : CompileOptions) (attr : String) :
    columnName options (Expr.columnText options attr).toList = attr := by
  unfold columnName Expr.columnText
  split
  · rw [String.ofList_toList]
  · exact unqualified_qualified options attr

/-- A word that takes no operand is an attribute. -/
theorem readWord_attribute {options : CompileOptions}
    {read : List Char → Option (Item × List Char)} (word : List Char) (follows : Follows rest) :
    readWord options read word rest =
      some (suffixed (.attribute (columnName options word)) rest) := by
  have keyword := takesOperand_of_follows follows
  unfold readWord
  split
  · cases follows with
    | after plain => cases plain
  · simp [keyword]

/-- Two items with a sign between them are read one after the other. -/
theorem readGroup_joined {read : List Char → Option (Item × List Char)}
    {first sign second : List Char} {item : Item} {join : Skeleton → Skeleton} {s : Skeleton}
    (spaceless : ' ' ∉ sign) (joins : joined? item sign = some join)
    (head : read (first ++ ' ' :: (sign ++ ' ' :: (second ++ ')' :: rest))) =
      some (item, ' ' :: (sign ++ ' ' :: (second ++ ')' :: rest))))
    (tail : read (second ++ ')' :: rest) = some (.whole s, ')' :: rest)) :
    readGroup read (first ++ ' ' :: (sign ++ ' ' :: (second ++ ')' :: rest))) =
      some (suffixed (join s) rest) := by
  have all : ∀ c ∈ sign, (decide (c ≠ ' ')) = true := by
    intro c member
    exact decide_eq_true (ne_of_mem_of_not_mem member spaceless)
  have taken : (sign ++ ' ' :: (second ++ ')' :: rest)).takeWhile (· ≠ ' ') = sign := by
    rw [List.takeWhile_append_of_pos all]
    simp
  have dropped : (sign ++ ' ' :: (second ++ ')' :: rest)).dropWhile (· ≠ ' ') =
      ' ' :: (second ++ ')' :: rest) := by
    rw [List.dropWhile_append_of_pos all]
    simp
  unfold readGroup
  rw [head]
  cases item <;> simp only [taken, dropped, joins, List.tail_cons, tail]

end Skeleton

namespace Expr
open Skeleton

variable {options : CompileOptions}

/-- Where a tree is shown, a keyword can stand before it. -/
theorem takesOperand_shown (table : IsWord options.table) {e : Expr} (legal : Legal options e)
    {rest : List Char} (follows : Follows rest) :
    takesOperand (' ' :: (e.shown options ++ rest)) = true := by
  obtain ⟨⟨role, sound⟩, words, plain⟩ := legal
  cases e with
  | and left right => rw [shown_and]; rfl
  | or left right => rw [shown_or]; rfl
  | compare op left right => rw [shown_compare]; rfl
  | math op left right => rw [shown_math]; rfl
  | not operand => rw [shown_not]; rfl
  | isNull operand =>
    have inner : Legal options operand := ⟨⟨_, sound⟩, words, (Bool.and_eq_true_iff.1 plain).2⟩
    rw [shown_isNull]
    exact takesOperand_shown table inner (.null rest)
  | isIn storeId operand => rw [shown_isIn]; rfl
  | function space name args =>
    cases named : Call.ofName? space name with
    | none => simp [fault, named] at sound
    | some call =>
      cases call with
      | aggregate =>
        rw [shown_aggregate _ _ named]
        rcases Call.name_of_aggregate named with rfl | rfl | rfl | rfl <;> rfl
      | contains => rw [shown_contains _ _ named]; rfl
      | last =>
        simp only [fault, named] at sound
        obtain ⟨⟨value, key⟩, accepted⟩ := faultOf_eq_none sound
        rw [shown_last _ _ named accepted]
        rfl
  | constant v type => rw [shown_constant]; rfl
  | streamVariable id streamId type => rw [shown_streamVariable]; rfl
  | storeVariable storeId attr type =>
    obtain ⟨nonempty, all⟩ := isWord_columnText table (words attr (List.mem_singleton.2 rfl))
    have other := not_null_of_word all follows
    rw [shown_storeVariable]
    obtain ⟨c, word, form⟩ := List.exists_cons_of_ne_nil nonempty
    rw [form] at all other ⊢
    have char := List.all_eq_true.1 all c List.mem_cons_self
    rw [List.cons_append] at other ⊢
    simp only [takesOperand, beginsOperand, char, other, Bool.or_true, Bool.not_false,
      Bool.and_true]

theorem shown_length_pos (table : IsWord options.table) {e : Expr} (legal : Legal options e) :
    0 < (e.shown options).length := by
  have begins := takesOperand_shown table legal (.after .nil)
  rw [List.append_nil] at begins
  cases form : e.shown options with
  | nil => simp [form, takesOperand] at begins
  | cons c cs => simp

theorem shown_not_closing (table : IsWord options.table) {e : Expr} (legal : Legal options e)
    {rest : List Char} (follows : Follows rest) (tail : List Char) :
    e.shown options ++ rest ≠ ')' :: tail := by
  intro form
  have begins := takesOperand_shown table legal follows
  rw [form] at begins
  simp [takesOperand, beginsOperand, isWordChar] at begins

theorem length_le_shownArgs (table : IsWord options.table) {args : List Expr}
    (legal : ∀ arg ∈ args, Legal options arg) :
    args.length ≤ (shownArgs options args).length ∧
      ∀ arg ∈ args, (arg.shown options).length ≤ (shownArgs options args).length := by
  induction args with
  | nil => simp
  | cons arg rest ih =>
    obtain ⟨first, others⟩ := List.forall_mem_cons.1 legal
    have pos := shown_length_pos table first
    obtain ⟨count, each⟩ := ih others
    cases rest with
    | nil =>
      rw [shownArgs_singleton]
      exact ⟨pos, by simp⟩
    | cons second rest =>
      rw [shownArgs_cons_cons]
      simp only [List.length_append, List.length_cons] at count ⊢
      refine ⟨by omega, List.forall_mem_cons.2 ⟨by omega, ?_⟩⟩
      intro arg member
      have := each arg member
      omega

end Expr
end ConditionQuery
