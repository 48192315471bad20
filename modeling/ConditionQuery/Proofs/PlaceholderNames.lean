import ConditionQuery.Compile.Placeholder

/-! Generated names. A name is a stem, which tells its family, and the number of an earlier request
for a value of the kind; so a new name differs from every name given before. -/
namespace ConditionQuery.PlaceholderNames

/-- The next name for a value of the kind. -/
def next (kind : ValueHolder.Kind) (pattern : Bool) (names : PlaceholderNames) :
    String × PlaceholderNames :=
  match kind with
  | .constant => names.constant pattern
  | .event => names.streamVariable pattern

def stem : ValueHolder.Kind → Bool → String
  | .constant, false => "const"
  | .constant, true => "pattern-value"
  | .event, false => "streamVar"
  | .event, true => "pattern-variable"

def count (names : PlaceholderNames) : ValueHolder.Kind → Nat
  | .constant => names.constants
  | .event => names.streamVariables

def numbered (kind : ValueHolder.Kind) (pattern : Bool) (n : Nat) : String :=
  stem kind pattern ++ n.repr

theorem next_fst (kind : ValueHolder.Kind) (pattern : Bool) (names : PlaceholderNames) :
    (names.next kind pattern).1 = numbered kind pattern (names.count kind) := by
  cases kind <;> cases pattern <;> rfl

/-- A name tells whether its value is a pattern. -/
theorem isPatternName_next (kind : ValueHolder.Kind) (pattern : Bool) (names : PlaceholderNames) :
    isPatternName (names.next kind pattern).1 = pattern := by
  rw [next_fst, numbered, isPatternName, String.toList_append]
  cases kind <;> cases pattern <;> rfl

theorem count_le_count_next (kind other : ValueHolder.Kind) (pattern : Bool)
    (names : PlaceholderNames) : names.count other ≤ (names.next kind pattern).2.count other := by
  cases kind <;> cases other <;> simp [next, constant, streamVariable, count]

theorem count_lt_count_next (kind : ValueHolder.Kind) (pattern : Bool)
    (names : PlaceholderNames) : names.count kind < (names.next kind pattern).2.count kind := by
  cases kind <;> simp [next, constant, streamVariable, count]

theorem isDigit_of_mem_repr {n : Nat} {c : Char} (member : c ∈ n.repr.toList) :
    c.isDigit = true := by
  rw [Nat.toList_repr] at member
  exact Nat.isDigit_of_mem_toDigits (by decide) (by decide) member

theorem stem_without_digits (kind : ValueHolder.Kind) (pattern : Bool) :
    ∀ c ∈ (stem kind pattern).toList, c.isDigit = false := by
  have none : (stem kind pattern).toList.any Char.isDigit = false := by
    cases kind <;> cases pattern <;> decide
  simpa using none

theorem stem_injective {kind kind' : ValueHolder.Kind} {pattern pattern' : Bool}
    (same : stem kind pattern = stem kind' pattern') : kind = kind' ∧ pattern = pattern' := by
  cases kind <;> cases pattern <;> cases kind' <;> cases pattern' <;> simp_all [stem]

/-- The stem is what stands before the digits. -/
theorem takeWhile_numbered (kind : ValueHolder.Kind) (pattern : Bool) (n : Nat) :
    (numbered kind pattern n).toList.takeWhile (fun c => !c.isDigit) =
      (stem kind pattern).toList := by
  have digits : n.repr.toList.takeWhile (fun c => !c.isDigit) = [] := by
    cases form : n.repr.toList with
    | nil => rfl
    | cons c cs =>
      have digit := isDigit_of_mem_repr (n := n) (c := c) (by simp [form])
      simp [digit]
  rw [numbered, String.toList_append, List.takeWhile_append_of_pos, digits, List.append_nil]
  intro c member
  simpa using stem_without_digits kind pattern c member

theorem repr_injective {n n' : Nat} (numerals : n.repr = n'.repr) : n = n' := by
  have values := congrArg (fun s => Nat.ofDigitChars 10 s.toList 0) numerals
  simpa only [Nat.toList_repr, Nat.ofDigitChars_ten_toDigits] using values

theorem numbered_injective {kind kind' : ValueHolder.Kind} {pattern pattern' : Bool} {n n' : Nat}
    (same : numbered kind pattern n = numbered kind' pattern' n') :
    kind = kind' ∧ pattern = pattern' ∧ n = n' := by
  have stems : stem kind pattern = stem kind' pattern' := by
    rw [← String.toList_inj, ← takeWhile_numbered kind pattern n, same, takeWhile_numbered]
  obtain ⟨rfl, rfl⟩ := stem_injective stems
  have numerals : n.repr = n'.repr := by simpa only [numbered, String.append_right_inj] using same
  exact ⟨rfl, rfl, repr_injective numerals⟩

/-- The name has been given before. -/
def Given (names : PlaceholderNames) (name : String) : Prop :=
  ∃ kind pattern n, n < names.count kind ∧ name = numbered kind pattern n

theorem not_given_next (kind : ValueHolder.Kind) (pattern : Bool) (names : PlaceholderNames) :
    ¬ names.Given (names.next kind pattern).1 := by
  rintro ⟨kind', pattern', n, bound, same⟩
  rw [next_fst] at same
  obtain ⟨rfl, -, rfl⟩ := numbered_injective same
  omega

theorem given_next (kind : ValueHolder.Kind) (pattern : Bool) (names : PlaceholderNames) :
    (names.next kind pattern).2.Given (names.next kind pattern).1 := by
  refine ⟨kind, pattern, names.count kind, ?_, ?_⟩
  · exact count_lt_count_next kind pattern names
  · exact next_fst kind pattern names

theorem Given.next {names : PlaceholderNames} {name : String} (given : names.Given name)
    (kind : ValueHolder.Kind) (pattern : Bool) : (names.next kind pattern).2.Given name := by
  obtain ⟨kind', pattern', n, bound, same⟩ := given
  exact ⟨kind', pattern', n,
    Nat.lt_of_lt_of_le bound (count_le_count_next kind kind' pattern names), same⟩

/-- A character that is no digit is in a name only as part of its stem. -/
theorem not_mem_numbered {kind : ValueHolder.Kind} {pattern : Bool} {c : Char}
    (other : c.isDigit = false) (stems : c ∉ (stem kind pattern).toList) (n : Nat) :
    c ∉ (numbered kind pattern n).toList := by
  simp only [numbered, String.toList_append, List.mem_append, not_or]
  refine ⟨stems, ?_⟩
  intro member
  rw [isDigit_of_mem_repr member] at other
  contradiction

theorem Given.not_mem {names : PlaceholderNames} {name : String} (given : names.Given name)
    {c : Char} (other : c.isDigit = false)
    (stems : ∀ kind pattern, c ∉ (stem kind pattern).toList) : c ∉ name.toList := by
  obtain ⟨kind, pattern, n, -, rfl⟩ := given
  exact not_mem_numbered other (stems kind pattern) n

/-- No name has a character that marks the place of a value. -/
theorem Given.without_marks {names : PlaceholderNames} {name : String} (given : names.Given name) :
    '[' ∉ name.toList ∧ ']' ∉ name.toList := by
  constructor
  · exact given.not_mem (by decide) fun kind pattern => by cases kind <;> cases pattern <;> decide
  · exact given.not_mem (by decide) fun kind pattern => by cases kind <;> cases pattern <;> decide

theorem Given.without_question {names : PlaceholderNames} {name : String}
    (given : names.Given name) : '?' ∉ name.toList :=
  given.not_mem (by decide) fun kind pattern => by cases kind <;> cases pattern <;> decide

/-- The names for values of the kinds, patterns or not, in the order in which they are asked for. -/
def nextAll (names : PlaceholderNames) :
    List (ValueHolder.Kind × Bool) → List String × PlaceholderNames
  | [] => ([], names)
  | (kind, pattern) :: asked =>
    let (name, names) := names.next kind pattern
    let (later, names) := names.nextAll asked
    (name :: later, names)

theorem Given.nextAll {names : PlaceholderNames} {name : String} (given : names.Given name)
    (asked : List (ValueHolder.Kind × Bool)) : (names.nextAll asked).2.Given name := by
  induction asked generalizing names with
  | nil => exact given
  | cons first asked ih => exact ih (given.next first.1 first.2)

theorem given_nextAll {names : PlaceholderNames} {asked : List (ValueHolder.Kind × Bool)}
    {name : String} (member : name ∈ (names.nextAll asked).1) :
    (names.nextAll asked).2.Given name := by
  induction asked generalizing names with
  | nil => contradiction
  | cons first asked ih =>
    rcases List.mem_cons.1 member with rfl | later
    · exact (given_next first.1 first.2 names).nextAll asked
    · exact ih later

/-- A name is given once, before the names that are given later. -/
theorem not_given_nextAll {names : PlaceholderNames} {asked : List (ValueHolder.Kind × Bool)}
    {name : String} (member : name ∈ (names.nextAll asked).1) : ¬ names.Given name := by
  induction asked generalizing names with
  | nil => contradiction
  | cons first asked ih =>
    rcases List.mem_cons.1 member with rfl | later
    · exact not_given_next first.1 first.2 names
    · exact fun given => ih later (given.next first.1 first.2)

theorem nodup_nextAll (names : PlaceholderNames) (asked : List (ValueHolder.Kind × Bool)) :
    (names.nextAll asked).1.Nodup := by
  induction asked generalizing names with
  | nil => exact .nil
  | cons first asked ih =>
    refine List.nodup_cons.2 ⟨?_, ih (names.next first.1 first.2).2⟩
    exact fun again => not_given_nextAll again (given_next first.1 first.2 names)

theorem map_isPatternName_nextAll (names : PlaceholderNames)
    (asked : List (ValueHolder.Kind × Bool)) :
    (names.nextAll asked).1.map isPatternName = asked.map Prod.snd := by
  induction asked generalizing names with
  | nil => rfl
  | cons first asked ih =>
    have told := isPatternName_next first.1 first.2 names
    have later := ih (names.next first.1 first.2).2
    simp only [nextAll, List.map_cons, told, later]

/-- How many names have been given. -/
def total (names : PlaceholderNames) : Nat := names.constants + names.streamVariables

theorem total_next (kind : ValueHolder.Kind) (pattern : Bool) (names : PlaceholderNames) :
    (names.next kind pattern).2.total = names.total + 1 := by
  cases kind <;> simp only [next, constant, streamVariable, total] <;> omega

theorem total_nextAll (names : PlaceholderNames) (asked : List (ValueHolder.Kind × Bool)) :
    (names.nextAll asked).2.total = names.total + asked.length := by
  induction asked generalizing names with
  | nil => rfl
  | cons first asked ih =>
    have later := ih (names.next first.1 first.2).2
    rw [total_next] at later
    simp only [nextAll, later, List.length_cons]
    omega

/-- From the start on no name is given twice, whatever is asked for. A name tells whether it is of
a pattern, and has none of the characters that have a meaning in a text; and the counters only
count, so they are as small as the number of names. -/
theorem names_of_nextAll (asked : List (ValueHolder.Kind × Bool)) :
    (start.nextAll asked).1.Nodup ∧
      (start.nextAll asked).1.map isPatternName = asked.map Prod.snd ∧
      (∀ name ∈ (start.nextAll asked).1,
        '[' ∉ name.toList ∧ ']' ∉ name.toList ∧ '?' ∉ name.toList) ∧
      (start.nextAll asked).2.constants + (start.nextAll asked).2.streamVariables =
        asked.length := by
  refine ⟨nodup_nextAll start asked, map_isPatternName_nextAll start asked, ?_, ?_⟩
  · intro name member
    have given := given_nextAll member
    exact ⟨given.without_marks.1, given.without_marks.2, given.without_question⟩
  · have counted := total_nextAll start asked
    simpa only [total, start, Nat.zero_add] using counted

end ConditionQuery.PlaceholderNames
