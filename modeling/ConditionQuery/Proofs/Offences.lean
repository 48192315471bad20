import ConditionQuery.Proofs.Rendering
import ConditionQuery.Proofs.Sites

/-! Which trees compile. Each site of a tree offends or does not, whatever stands elsewhere and
whatever the tree is compiled for; the first offence of the tree in pre-order is its fault. -/
namespace ConditionQuery

/-- Why the node cannot stand at its site. A call of the most recent value takes two columns, or one
if it is equated with a column. -/
def Site.offence (s : Site) : Option CompileError :=
  match s.node with
  | .function space name args =>
    if Call.last.Named space name then
      match args.find? fun arg => arg.column?.isNone with
      | some arg => some (.lastArgument arg.display)
      | none =>
        if args.length = 2 ∨ args.length = 1 ∧ s.equatedColumn?.isSome then none
        else some (.lastCount args.length)
    else if Call.aggregate.Named space name ∨ Call.contains.Named space name then none
    else some (.unsupportedFunction (qualifiedName space name))
  | _ => none

namespace Expr

/-- The arguments of the most recent value are columns, or the first that is none is at fault. -/
theorem lastOperands_eq (args : List Expr) :
    lastOperands args =
      match args.find? fun arg => arg.column?.isNone with
      | some arg => .error (.lastArgument arg.display)
      | none => .ok (args.filterMap column?) := by
  induction args with
  | nil => rfl
  | cons arg rest ih =>
    cases arg with
    | storeVariable storeId attr type =>
      have column : (storeVariable storeId attr type).column? = some attr := rfl
      rw [lastOperands, ih, List.find?_cons_of_neg (by simp [column]),
        List.filterMap_cons_some column]
      cases rest.find? fun arg => arg.column?.isNone <;> rfl
    | _ => rfl

theorem length_filterMap_column? {args : List Expr}
    (columns : (args.find? fun arg => arg.column?.isNone) = none) :
    (args.filterMap column?).length = args.length := by
  rw [List.find?_eq_none] at columns
  apply List.filterMap_length_eq_length.2
  intro arg member
  simpa [Option.isSome_iff_ne_none] using columns arg member

/-- One operand is enough for a call that is given its join key. -/
theorem faultOf_lastPair (role : Role) (operands : List String) :
    faultOf (lastPair role operands) =
      if operands.length = 2 ∨ operands.length = 1 ∧ role.key?.isSome then none
      else some (.lastCount operands.length) := by
  rcases operands with _ | ⟨a, _ | ⟨b, _ | ⟨c, rest⟩⟩⟩ <;> cases role <;>
    simp [lastPair, faultOf, Role.key?]

/-- The fault of a call of the most recent value is what it offends by. -/
theorem faultOf_lastCall {space : Option String} {name : String}
    (named : Call.last.Named space name) (args : List Expr) (equated : Option Expr) :
    faultOf (lastCall (Site.role ⟨.function space name args, equated⟩) args) =
      Site.offence ⟨.function space name args, equated⟩ := by
  simp only [lastCall, lastOperands_eq, Site.offence, if_pos named]
  cases columns : args.find? fun arg => arg.column?.isNone with
  | some arg => rfl
  | none =>
    have paired := faultOf_lastPair (Site.role ⟨.function space name args, equated⟩)
      (args.filterMap column?)
    rw [length_filterMap_column? columns, key?_role] at paired
    refine paired.trans ?_
    by_cases single : args.length = 1
    · simp [single, lacksKey, lastArgs?, named]
    · simp [single]

/-- A call of any other function does not offend by itself. -/
theorem offence_eq_none {space : Option String} {name : String} {call : Call}
    (named : call.Named space name) (other : call ≠ .last) (args : List Expr)
    (equated : Option Expr) : Site.offence ⟨.function space name args, equated⟩ = none := by
  have notLast := named.not_last other
  have known : Call.aggregate.Named space name ∨ Call.contains.Named space name := by
    cases call with
    | aggregate => exact .inl named
    | contains => exact .inr named
    | last => contradiction
  simp only [Site.offence, if_neg notLast, if_pos known]

mutual

/-- The fault of a tree is its first offence. -/
theorem fault_eq_findSome? (e : Expr) (equated : Option Expr) :
    e.fault (Site.role ⟨e, equated⟩) =
      (⟨e, equated⟩ :: e.sitesBelow).findSome? Site.offence := by
  cases e with
  | and left right | or left right | math op left right =>
    have first := fault_eq_findSome? left none
    have second := fault_eq_findSome? right none
    rw [role_eq_free] at first second
    rw [List.findSome?_cons_of_isNone rfl, sitesBelow, List.findSome?_append, fault, first, second]
  | compare op left right =>
    have first := fault_eq_findSome? left (equatedBy op right)
    have second := fault_eq_findSome? right (equatedBy op left)
    rw [List.findSome?_cons_of_isNone rfl, sitesBelow, List.findSome?_append, fault, roles_eq,
      first, second]
  | not operand | isNull operand | isIn storeId operand =>
    have inner := fault_eq_findSome? operand none
    rw [role_eq_free] at inner
    rw [List.findSome?_cons_of_isNone rfl, sitesBelow, fault, inner]
  | function space name args =>
    have inner := faultOfArgs_eq_findSome? args
    cases called : Call.ofName? space name with
    | none =>
      have unnamed := Call.ofName?_eq_none_iff.1 called
      have offence : Site.offence ⟨.function space name args, equated⟩ =
          some (.unsupportedFunction (qualifiedName space name)) := by
        simp [Site.offence, unnamed]
      rw [List.findSome?_cons, offence]
      simp [fault, called]
    | some call =>
      have named := Call.ofName?_eq_some_iff.1 called
      cases call with
      | last =>
        have alone := faultOf_lastCall named args equated
        simp only [fault, called, sitesBelow, if_pos named, alone]
        exact (List.findSome?_singleton ..).symm
      | aggregate | contains =>
        have notLast := named.not_last (by decide)
        have alone := offence_eq_none named (by decide) args equated
        rw [List.findSome?_cons_of_isNone (by rw [alone]; rfl), sitesBelow, if_neg notLast]
        simpa only [fault, called] using inner
  | constant v type | streamVariable id streamId type | storeVariable storeId attr type => rfl

theorem faultOfArgs_eq_findSome? (args : List Expr) :
    faultOfArgs args = (sitesOfArgs args).findSome? Site.offence := by
  cases args with
  | nil => rfl
  | cons arg rest =>
    have first := fault_eq_findSome? arg none
    rw [role_eq_free] at first
    rw [faultOfArgs, first, faultOfArgs_eq_findSome? rest, sitesOfArgs, ← List.findSome?_append]

end

/-- A tree compiles exactly if none of its sites offends, and otherwise it fails with the first
offence, whatever it is compiled for. -/
theorem compile_of_offences (e : Expr) (options : CompileOptions) :
    ((∃ c, e.compile options = .ok c) ↔ ∀ site ∈ e.sites, site.offence = none) ∧
      ∀ err, e.compile options = .error err ↔ e.sites.findSome? Site.offence = some err := by
  have first : e.fault .free = e.sites.findSome? Site.offence := by
    rw [← role_eq_free e]
    exact fault_eq_findSome? e none
  rw [compile_eq, ← first, ← List.findSome?_eq_none_iff, ← first]
  cases e.fault .free with
  | none => simp
  | some err => simp

/-- The call that encloses another is at fault before it, and so is the left operand of an equation
before the right. -/
example :
    (compare .equal
        (function (some " math ") "sqrt" [function (some "incrementalAggregator") "last" []])
        (function none "last" [])).sites.findSome? Site.offence =
      some (.unsupportedFunction "math:sqrt") := by
  decide

end Expr
end ConditionQuery
