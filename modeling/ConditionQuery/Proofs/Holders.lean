import ConditionQuery.Proofs.Entries

/-! The values of a tree. A walk enters each of them once, in its order, and nothing else as a
value. -/
namespace ConditionQuery

/-- The functions that can be called, and the names under which they are. -/
theorem Call.ofName?_eq_some {space : Option String} {name : String} {call : Call}
    (named : ofName? space name = some call) :
    (call = .aggregate ∧ functionSpace space = none ∧ name ∈ aggregates) ∨
      (call = .contains ∧ functionSpace space = some "str" ∧ name = "contains") ∨
      (call = .last ∧ functionSpace space = some "incrementalAggregator" ∧ name = "last") := by
  unfold ofName? at named
  cases spelled : functionSpace space with
  | none =>
    by_cases known : name ∈ aggregates
    · simp only [spelled, if_pos known, Option.some.injEq] at named
      exact .inl ⟨named.symm, rfl, known⟩
    · simp [spelled, known] at named
  | some prefixed =>
    by_cases contains : prefixed = "str" ∧ name = "contains"
    · simp only [spelled, if_pos contains, Option.some.injEq] at named
      exact .inr (.inl ⟨named.symm, congrArg some contains.1, contains.2⟩)
    · by_cases last : prefixed = "incrementalAggregator" ∧ name = "last"
      · simp only [spelled, if_neg contains, if_pos last, Option.some.injEq] at named
        exact .inr (.inr ⟨named.symm, congrArg some last.1, last.2⟩)
      · simp [spelled, contains, last] at named

theorem Call.name_of_aggregate {space : Option String} {name : String}
    (named : ofName? space name = some .aggregate) :
    name = "sum" ∨ name = "avg" ∨ name = "min" ∨ name = "max" := by
  rcases ofName?_eq_some named with ⟨-, -, known⟩ | ⟨other, -⟩ | ⟨other, -⟩
  · simpa [aggregates] using known
  · contradiction
  · contradiction

namespace Expr

mutual

/-- The constants and stream variables of the tree, in the order of a walk. -/
def holders : Expr → List ValueHolder
  | .and left right | .or left right | .compare _ left right | .math _ left right =>
    holders left ++ holders right
  | .not operand | .isNull operand | .isIn _ operand => holders operand
  | .function _ _ args => holdersOfArgs args
  | .constant v type => [.constant v type]
  | .streamVariable id _ type => [.event id type]
  | .storeVariable _ _ _ => []

def holdersOfArgs : List Expr → List ValueHolder
  | [] => []
  | arg :: rest => holders arg ++ holdersOfArgs rest

end

/-- An argument of the most recent value is an attribute. -/
theorem lastOperands_cons {arg : Expr} {rest : List Expr} {operands : List String}
    (accepted : lastOperands (arg :: rest) = .ok operands) :
    ∃ storeId attr type tail, arg = .storeVariable storeId attr type ∧
      lastOperands rest = .ok tail ∧ operands = attr :: tail := by
  cases arg with
  | storeVariable storeId attr type =>
    cases others : lastOperands rest with
    | error err => simp [lastOperands, others, bind, Except.bind] at accepted
    | ok tail =>
      simp only [lastOperands, others, bind, Except.bind, pure, Except.pure,
        Except.ok.injEq] at accepted
      exact ⟨storeId, attr, type, tail, rfl, rfl, accepted.symm⟩
  | _ => simp [lastOperands] at accepted

theorem holdersOfArgs_eq_nil {args : List Expr} {operands : List String}
    (accepted : lastOperands args = .ok operands) : holdersOfArgs args = [] := by
  induction args generalizing operands with
  | nil => rfl
  | cons arg rest ih =>
    obtain ⟨storeId, attr, type, tail, rfl, others, -⟩ := lastOperands_cons accepted
    simp [holdersOfArgs, holders, ih others]

theorem lastPair_ok {role : Role} {operands : List String} {value key : String}
    (accepted : lastPair role operands = .ok (value, key)) : operands.head? = some value := by
  rcases operands with _ | ⟨a, _ | ⟨b, _ | ⟨c, rest⟩⟩⟩ <;> cases role <;> simp_all [lastPair]

theorem lastCall_ok {role : Role} {args : List Expr} {value key : String}
    (accepted : lastCall role args = .ok (value, key)) :
    ∃ storeId type rest, args = .storeVariable storeId value type :: rest ∧
      holdersOfArgs args = [] := by
  unfold lastCall at accepted
  cases given : lastOperands args with
  | error err => simp [given, bind, Except.bind] at accepted
  | ok operands =>
    have empty := holdersOfArgs_eq_nil given
    simp only [given, bind, Except.bind] at accepted
    have first := lastPair_ok accepted
    cases args with
    | nil =>
      simp only [lastOperands, Except.ok.injEq] at given
      simp [← given] at first
    | cons arg rest =>
      obtain ⟨storeId, attr, type, tail, rfl, -, rfl⟩ := lastOperands_cons given
      obtain rfl : attr = value := by simpa using first
      exact ⟨storeId, type, rest, rfl, empty⟩

theorem faultOf_eq_none {α : Type} {x : Except CompileError α} (accepted : faultOf x = none) :
    ∃ a, x = .ok a := by
  cases x with
  | error err => simp [faultOf] at accepted
  | ok a => exact ⟨a, rfl⟩

end Expr

namespace Entry

def holder? : Entry → Option ValueHolder
  | .value _ holder => some holder
  | _ => none

end Entry

namespace Expr

mutual

/-- Every value of a tree without faults is entered, in the order of a walk. -/
theorem holders_entries (options : CompileOptions) {role : Role} {e : Expr}
    (sound : e.fault role = none) (p : Bool) :
    (e.entries options role p).filterMap Entry.holder? = e.holders := by
  cases e with
  | and left right | or left right | math op left right =>
    simp only [fault, Option.or_eq_none_iff] at sound
    simp [entries, holders, Entry.holder?, List.filterMap_cons,
      holders_entries options sound.1, holders_entries options sound.2]
  | compare op left right =>
    simp only [fault, Option.or_eq_none_iff] at sound
    simp [entries, holders, Entry.holder?, List.filterMap_cons,
      holders_entries options sound.1, holders_entries options sound.2]
  | not operand | isNull operand | isIn storeId operand =>
    simp only [fault] at sound
    simp [entries, holders, Entry.holder?, List.filterMap_cons, holders_entries options sound]
  | function space name args =>
    cases named : Call.ofName? space name with
    | none => simp [fault, named] at sound
    | some call =>
      cases call with
      | aggregate | contains =>
        simp only [fault, named] at sound
        simp [entries, holders, named, Entry.holder?, List.filterMap_cons,
          holders_entriesOfArgs options sound]
      | last =>
        simp only [fault, named] at sound
        obtain ⟨⟨value, key⟩, accepted⟩ := faultOf_eq_none sound
        obtain ⟨-, -, -, -, empty⟩ := lastCall_ok accepted
        simp [entries, holders, named, accepted, lastEntries, empty, Entry.holder?]
  | constant v type | streamVariable id streamId type => rfl
  | storeVariable storeId attr type =>
    simp only [entries, columnEntries, holders]
    split <;> rfl

theorem holders_entriesOfArgs (options : CompileOptions) {args : List Expr}
    (sound : faultOfArgs args = none) (p first : Bool) :
    (entriesOfArgs options p first args).filterMap Entry.holder? = holdersOfArgs args := by
  cases args with
  | nil => rfl
  | cons arg rest =>
    simp only [faultOfArgs, Option.or_eq_none_iff] at sound
    cases first <;> simp [entriesOfArgs, holdersOfArgs, Entry.holder?, List.filterMap_cons,
      holders_entries options sound.1, holders_entriesOfArgs options sound.2]

end

end Expr
end ConditionQuery
