import ConditionQuery.Proofs.Holders
import Mathlib.Data.List.TakeWhile

/-! The sites of a tree: its nodes in pre-order, each with the tree that it is equated with. What a
node may be, and which columns it joins, can be told from its site alone; in particular the role
that a comparison gives an operand is a matter of the two operands. -/
namespace ConditionQuery

namespace Text

theorem trim_eq_empty_iff {s : String} : trim s = "" ↔ ∀ c ∈ s.toList, isBlank c = true := by
  have kept : trim s = "" ↔ trimEnd (s.toList.dropWhile isBlank) = [] := by
    rw [trim, ← String.toList_eq_nil_iff, String.toList_ofList]
  rw [kept, trimEnd, List.reverse_eq_nil_iff, List.dropWhile_eq_nil_iff]
  simp only [List.mem_reverse]
  constructor
  · intro blank
    -- The first character that is kept would not be blank.
    cases rest : s.toList.dropWhile isBlank with
    | nil => exact List.dropWhile_eq_nil_iff.1 rest
    | cons c cs =>
      have first := List.head?_dropWhile_not isBlank s.toList
      simp [rest, blank c (by simp [rest])] at first
  · intro blank c member
    exact blank c ((List.dropWhile_sublist _).subset member)

end Text

namespace Call

/-- How the function is called. Blanks around a namespace do not count, and a blank one counts as
none. -/
def Named (space : Option String) (name : String) : Call → Prop
  | .aggregate =>
    (∀ s ∈ space, ∀ c ∈ s.toList, Text.isBlank c = true) ∧ name ∈ ["sum", "avg", "min", "max"]
  | .contains => space.map Text.trim = some "str" ∧ name = "contains"
  | .last => space.map Text.trim = some "incrementalAggregator" ∧ name = "last"

instance (space : Option String) (name : String) : (call : Call) → Decidable (call.Named space name)
  | .aggregate =>
    decidable_of_iff
      (space.all (fun s => s.toList.all Text.isBlank) = true ∧ name ∈ ["sum", "avg", "min", "max"])
      (by simp only [Named, Option.all_eq_true, List.all_eq_true, Option.mem_def])
  | .contains => inferInstanceAs (Decidable (_ ∧ _))
  | .last => inferInstanceAs (Decidable (_ ∧ _))

end Call

theorem functionSpace_eq_none_iff {space : Option String} :
    functionSpace space = none ↔ ∀ s ∈ space, ∀ c ∈ s.toList, Text.isBlank c = true := by
  cases space with
  | none => simp [functionSpace]
  | some s => simp [functionSpace, Option.filter, Text.trim_eq_empty_iff]

theorem functionSpace_eq_some_iff {space : Option String} {s : String} (nonempty : s ≠ "") :
    functionSpace space = some s ↔ space.map Text.trim = some s := by
  simp only [functionSpace, Option.filter_eq_some_iff, decide_eq_true_eq, and_iff_left nonempty]

namespace Call

variable {space : Option String} {name : String} {call : Call}

theorem ofName?_eq_some_iff : ofName? space name = some call ↔ call.Named space name := by
  constructor
  · intro named
    rcases ofName?_eq_some named with ⟨rfl, spelled, known⟩ | ⟨rfl, spelled, known⟩ |
      ⟨rfl, spelled, known⟩
    · exact ⟨functionSpace_eq_none_iff.1 spelled, known⟩
    · exact ⟨(functionSpace_eq_some_iff (by decide)).1 spelled, known⟩
    · exact ⟨(functionSpace_eq_some_iff (by decide)).1 spelled, known⟩
  · intro named
    cases call with
    | aggregate =>
      have known : name ∈ aggregates := named.2
      simp [ofName?, functionSpace_eq_none_iff.2 named.1, known]
    | contains => simp [ofName?, (functionSpace_eq_some_iff (by decide)).2 named.1, named.2]
    | last => simp [ofName?, (functionSpace_eq_some_iff (by decide)).2 named.1, named.2]

/-- No call can be taken for another. -/
theorem Named.unique {other : Call} (named : call.Named space name)
    (also : other.Named space name) : call = other :=
  Option.some.inj ((ofName?_eq_some_iff.2 named).symm.trans (ofName?_eq_some_iff.2 also))

theorem Named.not_last (named : call.Named space name) (other : call ≠ .last) :
    ¬ Call.last.Named space name :=
  fun last => other (named.unique last)

theorem ofName?_eq_none_iff :
    ofName? space name = none ↔ ∀ call : Call, ¬ call.Named space name := by
  simp only [Option.eq_none_iff_forall_ne_some, ne_eq, ofName?_eq_some_iff]

end Call

/-- A node of a tree. -/
structure Site where
  node : Expr
  /-- The other operand of the equation that the node is an operand of. -/
  equated : Option Expr

namespace Expr

/-- The arguments of a call of the most recent value. -/
def lastArgs? : Expr → Option (List Expr)
  | .function space name args => if Call.last.Named space name then some args else none
  | _ => none

/-- A call of the most recent value that has one argument, and so no join key of its own. -/
def lacksKey (e : Expr) : Bool := e.lastArgs?.any (·.length = 1)

/-- The attribute that the tree is. -/
def column? : Expr → Option String
  | .storeVariable _ attr _ => some attr
  | _ => none

/-- What a comparison equates one operand with, the other operand being given. -/
def equatedBy (op : CompareOp) (other : Expr) : Option Expr :=
  if op = .equal then some other else none

mutual

/-- The sites under the root. The arguments of a call of the most recent value are left out. -/
def sitesBelow : Expr → List Site
  | .and left right | .or left right | .math _ left right =>
    ⟨left, none⟩ :: sitesBelow left ++ ⟨right, none⟩ :: sitesBelow right
  | .compare op left right =>
    ⟨left, equatedBy op right⟩ :: sitesBelow left ++ ⟨right, equatedBy op left⟩ :: sitesBelow right
  | .not operand | .isNull operand | .isIn _ operand => ⟨operand, none⟩ :: sitesBelow operand
  | .function space name args => if Call.last.Named space name then [] else sitesOfArgs args
  | .constant _ _ | .streamVariable _ _ _ | .storeVariable _ _ _ => []

def sitesOfArgs : List Expr → List Site
  | [] => []
  | arg :: rest => ⟨arg, none⟩ :: sitesBelow arg ++ sitesOfArgs rest

end

/-- The sites of the tree in pre-order. -/
def sites (e : Expr) : List Site := ⟨e, none⟩ :: e.sitesBelow

theorem isSingleLast_eq_lacksKey (e : Expr) : e.isSingleLast = e.lacksKey := by
  cases e with
  | function space name args =>
    by_cases named : Call.last.Named space name
    · have known := Call.ofName?_eq_some_iff.2 named
      rcases args with _ | ⟨arg, _ | ⟨second, rest⟩⟩ <;>
        simp [isSingleLast, lacksKey, lastArgs?, known, named]
    · have other : Call.ofName? space name ≠ some .last := mt Call.ofName?_eq_some_iff.1 named
      rcases args with _ | ⟨arg, _ | ⟨second, rest⟩⟩ <;>
        simp [isSingleLast, lacksKey, lastArgs?, other, named]
  | _ => rfl

theorem lacksKey_storeVariable (storeId attr : String) (type : AttributeType) :
    (storeVariable storeId attr type).lacksKey = false := rfl

theorem lastArgs?_of_column? {e : Expr} {attr : String} (column : e.column? = some attr) :
    e.lastArgs? = none := by
  cases e with
  | storeVariable => rfl
  | _ => simp [column?] at column

theorem lastArgs?_eq_some {e : Expr} {args : List Expr} (called : e.lastArgs? = some args) :
    ∃ space name, e = .function space name args ∧ Call.last.Named space name := by
  cases e with
  | function space name others =>
    simp only [lastArgs?, Option.ite_none_right_eq_some, Option.some.injEq] at called
    obtain ⟨named, rfl⟩ := called
    exact ⟨space, name, rfl, named⟩
  | _ => simp [lastArgs?] at called

/-- The attribute that an operand is joined on. -/
def Role.key? : Role → Option String
  | .keyedBy key => some key
  | .free | .joinKey => none

end Expr

namespace Site

variable (s : Site)

/-- The attribute that the node is equated with. -/
def equatedColumn? : Option String := s.equated.bind Expr.column?

/-- The node serves the call that it is equated with as a join key. -/
def isJoinKey : Bool := s.equated.any Expr.lacksKey

/-- The part that the node plays in the comparison that it is an operand of. -/
def role : Expr.Role :=
  match s.equatedColumn? with
  | some key => if s.node.lacksKey then .keyedBy key else .free
  | none => if s.node.column?.isSome && s.isJoinKey then .joinKey else .free

end Site

namespace Expr

theorem role_eq_free (e : Expr) : Site.role ⟨e, none⟩ = .free := by
  simp [Site.role, Site.equatedColumn?, Site.isJoinKey]

theorem key?_role (s : Site) :
    s.role.key? = if s.node.lacksKey then s.equatedColumn? else none := by
  cases column : s.equatedColumn? with
  | none =>
    simp only [Site.role, column]
    split <;> simp [Role.key?]
  | some key =>
    simp only [Site.role, column]
    split <;> rfl

/-- A comparison gives each operand the role that it has at its site. -/
theorem roles_eq (op : CompareOp) (left right : Expr) :
    roles op left right =
      (Site.role ⟨left, equatedBy op right⟩, Site.role ⟨right, equatedBy op left⟩) := by
  by_cases equation : op = .equal
  · subst equation
    cases left <;> cases right <;>
      simp [roles, Site.role, Site.equatedColumn?, Site.isJoinKey, equatedBy, column?,
        isSingleLast_eq_lacksKey, lacksKey_storeVariable] <;> split <;> rfl
  · have free : roles op left right = (.free, .free) := by
      unfold roles
      split <;> simp_all
    simp [free, equatedBy, equation, role_eq_free]

end Expr
end ConditionQuery
