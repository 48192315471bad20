import ConditionQuery.Proofs.Lookahead

/-! The text of a condition is unambiguous: the reader finds in it the skeleton of the tree that was
compiled, provided that no test for membership is tested for null. -/
namespace ConditionQuery.Expr
open Skeleton

variable {options : CompileOptions}

/-- The trees whose texts are no longer than the bound are read as their skeletons. -/
def Reads (options : CompileOptions) (n : Nat) : Prop :=
  ∀ e, Legal options e → (e.shown options).length ≤ n → ∀ rest, Follows rest →
    (e.isMembership = true → After rest) →
    readItem options n (e.shown options ++ rest) = some (suffixed e.skeleton rest)

theorem Reads.whole {n : Nat} (reads : Reads options n) {e : Expr} (legal : Legal options e)
    (fits : (e.shown options).length ≤ n) {rest : List Char} (after : After rest) :
    readItem options n (e.shown options ++ rest) = some (.whole e.skeleton, rest) := by
  have item := reads e legal fits rest (.after after) fun _ => after
  rwa [suffixed_of_after _ after] at item

theorem readArgs_shownArgs (table : IsWord options.table)
    {read : List Char → Option (Item × List Char)} {args : List Expr}
    (legal : ∀ arg ∈ args, Legal options arg)
    (reads : ∀ arg ∈ args, ∀ rest, After rest →
      read (arg.shown options ++ rest) = some (.whole arg.skeleton, rest))
    {n : Nat} (bound : args.length ≤ n) (rest : List Char) :
    readArgs read n (shownArgs options args ++ ')' :: rest) = some (skeletons args, rest) := by
  induction args generalizing n with
  | nil => simp [shownArgs, printedArgs, readArgs, skeletons]
  | cons arg others ih =>
    obtain ⟨legalArg, legalOthers⟩ := List.forall_mem_cons.1 legal
    obtain ⟨readArg, readOthers⟩ := List.forall_mem_cons.1 reads
    obtain ⟨n, rfl⟩ : ∃ m, n = m + 1 := Nat.exists_eq_succ_of_ne_zero (by
      simp only [List.length_cons] at bound
      omega)
    have bound : others.length ≤ n := by simpa using bound
    have inner := ih legalOthers readOthers bound
    cases others with
    | nil =>
      rw [shownArgs_singleton]
      have begins := shown_not_closing table legalArg (.after (.closing rest))
      exact readArgs_last begins (readArg _ (.closing rest))
    | cons second more =>
      have after : After (',' :: ' ' :: (shownArgs options (second :: more) ++ ')' :: rest)) :=
        .comma _
      have begins := shown_not_closing table legalArg (.after after)
      rw [shownArgs_cons_cons, List.append_assoc]
      exact readArgs_more begins (readArg _ after) inner

/-- A call of a function other than the most recent value is read with its arguments. -/
theorem readCall_shownArgs (table : IsWord options.table) {n : Nat} (reads : Reads options n)
    {args : List Expr} (legal : ∀ arg ∈ args, Legal options arg)
    (fits : (shownArgs options args).length ≤ n) {name : List Char} (other : name ≠ "MAX".toList)
    (rest : List Char) :
    readCall options (readItem options n) name (shownArgs options args ++ ')' :: rest) =
      some (suffixed
        (if name = "CONTAINS".toList then .call (some "str") "contains" (skeletons args)
        else .call none (String.ofList name) (skeletons args))
        rest) := by
  obtain ⟨count, lengths⟩ := length_le_shownArgs table legal
  have bound : args.length ≤ (shownArgs options args ++ ')' :: rest).length := by
    rw [List.length_append]
    omega
  have readArg : ∀ arg ∈ args, ∀ rest, After rest →
      readItem options n (arg.shown options ++ rest) = some (.whole arg.skeleton, rest) := by
    intro arg member rest after
    exact reads.whole (legal arg member) (Nat.le_trans (lengths arg member) fits) after
  have arguments := readArgs_shownArgs table legal readArg bound rest
  rw [readCall, if_neg other, arguments, Option.map_some]

section Steps

variable {n : Nat} {left right operand : Expr} {rest : List Char}

theorem readItem_group (reads : Reads options n) (legal : Legal options operand)
    (fits : (operand.shown options).length ≤ n) :
    readItem options (n + 1) ('(' :: (operand.shown options ++ ')' :: rest)) =
      some (.group operand.skeleton, rest) := by
  have inner := reads.whole legal fits (.closing rest)
  simp [readItem, readGroup, inner]

theorem readItem_operation (reads : Reads options n) (legal : Legal options left)
    (legal' : Legal options right)
    (fits : (left.shown options).length + (right.shown options).length ≤ n) {sign : List Char}
    (after : ∀ tail, After (' ' :: (sign ++ tail))) {join : Skeleton → Skeleton}
    (joins : ' ' ∉ sign ∧ joined? (.whole left.skeleton) sign = some join) :
    readItem options (n + 1) ('(' :: (left.shown options ++ ' ' :: (sign ++
      ' ' :: (right.shown options ++ ')' :: rest)))) =
      some (suffixed (join right.skeleton) rest) := by
  have head := reads.whole legal (by omega) (after (' ' :: (right.shown options ++ ')' :: rest)))
  have tail := reads.whole legal' (by omega) (.closing rest)
  rw [readItem]
  exact readGroup_joined joins.1 joins.2 head tail

theorem readItem_connective (reads : ∀ m ≤ n, Reads options m) (legal : Legal options left)
    (legal' : Legal options right)
    (fits : (left.shown options).length + (right.shown options).length < n) {word : List Char}
    {join : Skeleton → Skeleton}
    (joins : ' ' ∉ word ∧ joined? (.group left.skeleton) word = some join) :
    readItem options (n + 1) ('(' :: '(' :: (left.shown options ++ ')' :: ' ' :: (word ++
      ' ' :: (right.shown options ++ ')' :: rest)))) =
      some (suffixed (join right.skeleton) rest) := by
  obtain ⟨m, rfl⟩ : ∃ m, n = m + 1 := Nat.exists_eq_succ_of_ne_zero (by omega)
  let after := word ++ ' ' :: (right.shown options ++ ')' :: rest)
  have head : readItem options (m + 1) ('(' :: (left.shown options ++ ')' :: ' ' :: after)) =
      some (.group left.skeleton, ' ' :: after) :=
    readItem_group (reads m (by omega)) legal (by omega)
  have tail := (reads (m + 1) (Nat.le_refl _)).whole legal' (by omega) (.closing rest)
  have parts : '(' :: (left.shown options ++ ')' :: ' ' :: after) =
      ('(' :: (left.shown options ++ [')'])) ++ ' ' :: after := by simp
  rw [parts] at head
  rw [readItem]
  exact parts ▸ readGroup_joined joins.1 joins.2 head tail

theorem readItem_not (reads : ∀ m ≤ n, Reads options m) (legal : Legal options operand)
    (fits : (operand.shown options).length < n) :
    readItem options (n + 1)
      ("NOT".toList ++ ' ' :: '(' :: (operand.shown options ++ ')' :: rest)) =
      some (suffixed (.not operand.skeleton) rest) := by
  obtain ⟨m, rfl⟩ : ∃ m, n = m + 1 := Nat.exists_eq_succ_of_ne_zero (by omega)
  have inner : readItem options (m + 1) ('(' :: (operand.shown options ++ ')' :: rest)) =
      some (.group operand.skeleton, rest) := readItem_group (reads m (by omega)) legal (by omega)
  have keyword : takesOperand (' ' :: '(' :: (operand.shown options ++ ')' :: rest)) = true := rfl
  rw [readItem_word (by decide) (by decide) (stops_at (by decide) _)]
  simp [readWord, keyword, inner]

theorem readItem_isIn (table : IsWord options.table) (reads : Reads options n)
    (legal : Legal options operand) (fits : (operand.shown options).length ≤ n)
    (after : After rest) :
    readItem options (n + 1) ("IN".toList ++ ' ' :: (operand.shown options ++ rest)) =
      some (.whole (.isIn operand.skeleton), rest) := by
  have inner := reads.whole legal fits after
  have keyword := takesOperand_shown table legal (.after after)
  rw [readItem_word (by decide) (by decide) (stops_at (by decide) _)]
  simp [readWord, keyword, inner]

theorem readItem_call {name cs : List Char} (nonempty : name ≠ [])
    (all : name.all isWordChar = true) :
    readItem options (n + 1) (name ++ '(' :: cs) =
      readCall options (readItem options n) name cs := by
  rw [readItem_word nonempty all (stops_at (by decide) cs), readWord]

theorem readItem_last {value : String} (qualified : IsWord (options.table ++ "." ++ value)) :
    readItem options (n + 1)
      ("MAX".toList ++ '(' :: ((options.table ++ "." ++ value).toList ++ ')' :: rest)) =
      some (suffixed (.call (some "incrementalAggregator") "last" [.attribute value]) rest) := by
  have closing : isWordChar ')' = false := by decide
  obtain ⟨taken, dropped⟩ := span_word qualified.2 (stops_at closing rest)
  rw [readItem_call (by decide) (by decide), readCall, if_pos rfl, taken, dropped,
    unqualified_qualified]
  rfl

end Steps

theorem readItem_function (table : IsWord options.table) {n : Nat} (reads : Reads options n)
    {space : Option String} {name : String} {args : List Expr}
    (legal : Legal options (.function space name args))
    (fits : ((Expr.function space name args).shown options).length ≤ n + 1) (rest : List Char) :
    readItem options (n + 1) ((Expr.function space name args).shown options ++ rest) =
      some (suffixed (Expr.function space name args).skeleton rest) := by
  obtain ⟨⟨role, sound⟩, words, free⟩ := legal
  cases named : Call.ofName? space name with
  | none => simp [fault, named] at sound
  | some call =>
    rcases Call.ofName?_eq_some named with
      ⟨rfl, spelled, -⟩ | ⟨rfl, spelled, rfl⟩ | ⟨rfl, spelled, rfl⟩
    · simp only [fault, named] at sound
      have word : name.toList ≠ [] ∧ name.toList.all isWordChar = true ∧
          name.toList ≠ "MAX".toList ∧ name.toList ≠ "CONTAINS".toList := by
        rcases Call.name_of_aggregate named with rfl | rfl | rfl | rfl <;> decide
      obtain ⟨nonempty, all, other, other'⟩ := word
      have whole := congrArg List.length (shown_aggregate options [] named args)
      simp only [List.append_nil, List.length_append, List.length_cons] at whole
      rw [shown_aggregate _ _ named, readItem_call nonempty all,
        readCall_shownArgs table reads (Legal.of_mem sound words free) (by omega) other,
        if_neg other', String.ofList_toList]
      simp [skeleton, named, spelled]
    · simp only [fault, named] at sound
      have whole := congrArg List.length (shown_contains options [] named args)
      simp only [List.append_nil, List.length_append, List.length_cons] at whole
      rw [shown_contains _ _ named, readItem_call (by decide) (by decide),
        readCall_shownArgs table reads (Legal.of_mem sound words free) (by omega) (by decide),
        if_pos rfl]
      simp [skeleton, named, spelled]
    · simp only [fault, named] at sound
      obtain ⟨⟨value, key⟩, accepted⟩ := faultOf_eq_none sound
      obtain ⟨storeId, type, others, rfl, -⟩ := lastCall_ok accepted
      have word := words value (by simp [storeAttributes, storeAttributesOfArgs])
      rw [shown_last _ _ named accepted, readItem_last (table.qualified word)]
      simp [skeleton, skeletons, named, spelled]

/-- What holds of the texts up to a length holds of those that are longer by one character. -/
theorem readItem_succ (table : IsWord options.table) {n : Nat} (reads : ∀ m ≤ n, Reads options m)
    {e : Expr} (legal : Legal options e) (fits : (e.shown options).length ≤ n + 1)
    {rest : List Char} (follows : Follows rest) (plain : e.isMembership = true → After rest) :
    readItem options (n + 1) (e.shown options ++ rest) = some (suffixed e.skeleton rest) := by
  obtain ⟨⟨role, sound⟩, words, free⟩ := legal
  cases e with
  | and left right =>
    obtain ⟨first, second⟩ := Legal.split sound words free
    have whole := congrArg List.length (shown_and options left right [])
    simp only [List.append_nil, List.length_append, List.length_cons] at whole
    rw [shown_and]
    exact readItem_connective reads first second (by omega) ⟨by decide, rfl⟩
  | or left right =>
    obtain ⟨first, second⟩ := Legal.split sound words free
    have whole := congrArg List.length (shown_or options left right [])
    simp only [List.append_nil, List.length_append, List.length_cons] at whole
    rw [shown_or]
    exact readItem_connective reads first second (by omega) ⟨by decide, rfl⟩
  | compare op left right =>
    obtain ⟨first, second⟩ := Legal.split sound words free
    have whole := congrArg List.length (shown_compare options left right [] op)
    simp only [List.append_nil, List.length_append, List.length_cons] at whole
    rw [shown_compare]
    exact readItem_operation (reads n (Nat.le_refl n)) first second (by omega) (after_compare op)
      (joined?_compare op _)
  | math op left right =>
    obtain ⟨first, second⟩ := Legal.split sound words free
    have whole := congrArg List.length (shown_math options left right [] op)
    simp only [List.append_nil, List.length_append, List.length_cons] at whole
    rw [shown_math]
    exact readItem_operation (reads n (Nat.le_refl n)) first second (by omega) (after_math op)
      (joined?_math op _)
  | not operand =>
    have whole := congrArg List.length (shown_not options operand [])
    simp only [List.append_nil, List.length_append, List.length_cons] at whole
    rw [shown_not]
    exact readItem_not reads ⟨⟨_, sound⟩, words, free⟩ (by omega)
  | isNull operand =>
    obtain ⟨notIn, free⟩ := Bool.and_eq_true_iff.1 free
    have whole := congrArg List.length (shown_isNull options operand [])
    simp only [List.append_nil, List.length_append] at whole
    rw [shown_isNull]
    exact readItem_succ table reads (e := operand) ⟨⟨_, sound⟩, words, free⟩ (by omega) (.null rest)
      fun isIn => by simp [isIn] at notIn
  | isIn storeId operand =>
    have whole := congrArg List.length (shown_isIn options operand [] storeId)
    simp only [List.append_nil, List.length_append, List.length_cons] at whole
    have after := plain rfl
    rw [shown_isIn, suffixed_of_after _ after]
    exact readItem_isIn table (reads n (Nat.le_refl n)) ⟨⟨_, sound⟩, words, free⟩ (by omega) after
  | function space name args =>
    exact readItem_function table (reads n (Nat.le_refl n)) ⟨⟨_, sound⟩, words, free⟩ fits rest
  | constant v type => rw [shown_constant]; rfl
  | streamVariable id streamId type => rw [shown_streamVariable]; rfl
  | storeVariable storeId attr type =>
    obtain ⟨nonempty, all⟩ := isWord_columnText table (words attr (List.mem_singleton.2 rfl))
    rw [shown_storeVariable, readItem_word nonempty all follows.not_isWordChar,
      readWord_attribute _ follows, columnName_columnText]
    rfl

theorem reads_all (table : IsWord options.table) (n : Nat) : Reads options n := by
  induction n using Nat.strongRecOn with
  | ind n ih =>
    intro e legal fits rest follows plain
    cases n with
    | zero =>
      have pos := shown_length_pos table legal
      omega
    | succ n =>
      have shorter : ∀ m ≤ n, Reads options m := by
        intro m bound
        exact ih m (by omega)
      exact readItem_succ table shorter legal fits follows plain

variable {e e' : Expr} {c c' : CompiledCondition}

/-- The skeleton of a compiled tree is found in its text. -/
theorem read_of_compile (names : e.NamesAll (fun name => isIdentifier name = true) options)
    (plain : e.noNullOverIn = true) (compiled : e.compile options = .ok c) :
    Skeleton.read options c.text = some e.skeleton := by
  have table := isWord_of_isIdentifier names.1
  have words : ∀ attr ∈ e.storeAttributes, IsWord attr := by
    intro attr member
    exact isWord_of_isIdentifier (names.2 attr member)
  have legal : Legal options e := ⟨⟨_, (compile_ok compiled).1⟩, words, plain⟩
  have text : c.text.toList = e.shown options := by rw [text_of_compile names compiled, shown]
  have item := (reads_all table _).whole legal (Nat.le_refl _) .nil
  rw [List.append_nil] at item
  rw [Skeleton.read, text, item]

/-- Trees with the same text have the same skeleton. -/
theorem skeleton_of_text (names : e.NamesAll (fun name => isIdentifier name = true) options)
    (names' : e'.NamesAll (fun name => isIdentifier name = true) options)
    (plain : e.noNullOverIn = true) (plain' : e'.noNullOverIn = true)
    (compiled : e.compile options = .ok c) (compiled' : e'.compile options = .ok c')
    (same : c.text = c'.text) : e.skeleton = e'.skeleton := by
  have first := read_of_compile names plain compiled
  have second := read_of_compile names' plain' compiled'
  rw [same, second] at first
  exact (Option.some_inj.1 first).symm

/-- Keywords as attributes, one of them tested for null. -/
def keywords (storeId : String) (value : Expr) : Expr :=
  .compare .equal (.isNull (.storeVariable storeId "IN" .int)) (.isIn storeId (.not value))

theorem skeleton_of_keywords :
    ∃ c c',
      (keywords "stock" (.constant (.long 5) .int)).compile ⟨"T", true, "S"⟩ = .ok c ∧
      (keywords "news" (.streamVariable "word" none .string)).compile ⟨"T", true, "S"⟩ = .ok c' ∧
      c.text = "(IN IS NULL = IN NOT (?))" ∧ c.text = c'.text ∧
      (keywords "stock" (.constant (.long 5) .int)).skeleton =
        (keywords "news" (.streamVariable "word" none .string)).skeleton := by
  have compiled := compile_eq ⟨"T", true, "S"⟩ (keywords "stock" (.constant (.long 5) .int))
  have compiled' := compile_eq ⟨"T", true, "S"⟩
    (keywords "news" (.streamVariable "word" none .string))
  have text := (text_of_compile (by decide) compiled).trans
    (by decide : _ = "(IN IS NULL = IN NOT (?))")
  have text' := (text_of_compile (by decide) compiled').trans
    (by decide : _ = "(IN IS NULL = IN NOT (?))")
  exact ⟨_, _, compiled, compiled', text, text.trans text'.symm,
    skeleton_of_text (by decide) (by decide) rfl rfl compiled compiled' (text.trans text'.symm)⟩

example : (Expr.isNull (.isIn "s" (.constant .null .int))).shown (.forTable "T") =
    (Expr.isIn "s" (.isNull (.constant .null .int))).shown (.forTable "T") := by decide

end ConditionQuery.Expr
