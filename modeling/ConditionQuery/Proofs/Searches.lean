import ConditionQuery.Proofs.Slots
import ConditionQuery.Proofs.Sites

/-! The patterns of text searches. A value is the pattern of the innermost text search around it if
it is the first value there, so each search has one pattern at most, and searches that stand inside
another take nothing from it. -/
namespace ConditionQuery

/-- A place in a tree: the child taken at each step from the root. -/
abbrev Place := List Nat

namespace Expr

/-- The operands or arguments of a node. -/
def children : Expr → List Expr
  | .and left right | .or left right | .compare _ left right | .math _ left right => [left, right]
  | .not operand | .isNull operand | .isIn _ operand => [operand]
  | .function _ _ args => args
  | .constant _ _ | .streamVariable _ _ _ | .storeVariable _ _ _ => []

def at? : Place → Expr → Option Expr
  | [], e => some e
  | i :: place, e => e.children[i]?.bind (at? place)

/-- The value that a node is. -/
def holder? : Expr → Option ValueHolder
  | .constant v type => some (.constant v type)
  | .streamVariable id _ type => some (.event id type)
  | _ => none

def isSearch : Expr → Bool
  | .function space name _ => decide (Call.contains.Named space name)
  | _ => false

mutual

/-- The places of the constants and stream variables, in the order of a walk. -/
def valuePlaces : Expr → List Place
  | .and left right | .or left right | .compare _ left right | .math _ left right =>
    (valuePlaces left).map (0 :: ·) ++ (valuePlaces right).map (1 :: ·)
  | .not operand | .isNull operand | .isIn _ operand => (valuePlaces operand).map (0 :: ·)
  | .function _ _ args => valuePlacesOfArgs 0 args
  | .constant _ _ | .streamVariable _ _ _ => [[]]
  | .storeVariable _ _ _ => []

def valuePlacesOfArgs (index : Nat) : List Expr → List Place
  | [] => []
  | arg :: rest => (valuePlaces arg).map (index :: ·) ++ valuePlacesOfArgs (index + 1) rest

end

/-- There is a text search at the one place, and the other place is inside of it. -/
def SearchAround (e : Expr) (search place : Place) : Prop :=
  (∃ i further, place = search ++ i :: further) ∧
    ∃ node, e.at? search = some node ∧ node.isSearch = true

/-- Of the text searches around the place it is the one inside all others. -/
structure Innermost (e : Expr) (search place : Place) : Prop where
  around : e.SearchAround search place
  inside : ∀ other, e.SearchAround other place → other <+: search

/-- The innermost text search around a place. -/
def searchAround? : Place → Expr → Option Place
  | [], _ => none
  | i :: place, e =>
    ((e.children[i]?.bind (searchAround? place)).map (i :: ·)).or
      (if e.isSearch then some [] else none)

theorem not_searchAround_nil {e : Expr} {search : Place} : ¬ e.SearchAround search [] := by
  rintro ⟨⟨i, further, place⟩, -⟩
  simp at place

theorem searchAround_root {e : Expr} {i : Nat} {place : Place} :
    e.SearchAround [] (i :: place) ↔ e.isSearch = true := by
  constructor
  · rintro ⟨-, node, found, search⟩
    obtain rfl : e = node := Option.some.inj found
    exact search
  · intro search
    exact ⟨⟨i, place, rfl⟩, e, rfl, search⟩

theorem searchAround_child {e : Expr} {i j : Nat} {search place : Place} :
    e.SearchAround (j :: search) (i :: place) ↔
      j = i ∧ ∃ child, e.children[i]? = some child ∧ child.SearchAround search place := by
  constructor
  · rintro ⟨⟨k, further, inside⟩, node, found, isSearch⟩
    obtain ⟨rfl, below⟩ := List.cons.inj inside
    obtain ⟨child, taken, found⟩ := Option.bind_eq_some_iff.1 found
    exact ⟨rfl, child, taken, ⟨k, further, below⟩, node, found, isSearch⟩
  · rintro ⟨rfl, child, taken, ⟨k, further, rfl⟩, node, found, isSearch⟩
    exact ⟨⟨k, further, rfl⟩, node, Option.bind_eq_some_iff.2 ⟨child, taken, found⟩, isSearch⟩

theorem isSome_searchAround? {e : Expr} {search place : Place}
    (around : e.SearchAround search place) : (searchAround? place e).isSome := by
  induction place generalizing e search with
  | nil => exact absurd around not_searchAround_nil
  | cons i place ih =>
    rw [searchAround?, Option.isSome_or, Bool.or_eq_true]
    cases search with
    | nil =>
      rw [searchAround_root.1 around]
      exact .inr rfl
    | cons j search =>
      obtain ⟨rfl, child, taken, around⟩ := searchAround_child.1 around
      refine .inl ?_
      rw [taken, Option.isSome_map]
      exact ih around

theorem innermost_of_searchAround? {e : Expr} {search place : Place}
    (found : searchAround? place e = some search) : e.Innermost search place := by
  induction place generalizing e search with
  | nil => simp [searchAround?] at found
  | cons i place ih =>
    rcases Option.or_eq_some_iff.1 found with deeper | ⟨none, root⟩
    · obtain ⟨rest, below, rfl⟩ := Option.map_eq_some_iff.1 deeper
      obtain ⟨child, taken, below⟩ := Option.bind_eq_some_iff.1 below
      obtain ⟨around, inside⟩ := ih below
      refine ⟨searchAround_child.2 ⟨rfl, child, taken, around⟩, ?_⟩
      intro other also
      cases other with
      | nil => exact List.nil_prefix
      | cons j other =>
        obtain ⟨rfl, child', taken', also⟩ := searchAround_child.1 also
        obtain rfl : child' = child := Option.some.inj (taken'.symm.trans taken)
        exact List.cons_prefix_cons.2 ⟨rfl, inside other also⟩
    · obtain ⟨isSearch, here⟩ := Option.ite_none_right_eq_some.1 root
      obtain rfl : [] = search := Option.some.inj here
      refine ⟨searchAround_root.2 isSearch, ?_⟩
      intro other also
      cases other with
      | nil => exact List.nil_prefix
      | cons j other =>
        -- A search further down would have been found.
        obtain ⟨rfl, child, taken, also⟩ := searchAround_child.1 also
        have deeper := isSome_searchAround? also
        rw [taken, Option.bind_some, Option.map_eq_none_iff] at none
        rw [none] at deeper
        contradiction

theorem searchAround?_eq_some_iff {e : Expr} {search place : Place} :
    searchAround? place e = some search ↔ e.Innermost search place := by
  constructor
  · exact innermost_of_searchAround?
  · rintro ⟨around, inside⟩
    obtain ⟨search', found⟩ := Option.isSome_iff_exists.1 (isSome_searchAround? around)
    have innermost := innermost_of_searchAround? found
    have one := inside search' innermost.around
    have other := innermost.inside search around
    rwa [one.eq_of_length_le other.length_le] at found

end Expr

section Firsts

variable {α β : Type} [DecidableEq α] [DecidableEq β]

/-- Marks the elements that are not among those seen, nor among those before them. -/
def firsts (seen : List α) : List α → List Bool
  | [] => []
  | a :: rest => decide (a ∉ seen) :: firsts (a :: seen) rest

theorem firsts_congr {seen seen' l : List α} (same : ∀ a ∈ l, a ∈ seen ↔ a ∈ seen') :
    firsts seen l = firsts seen' l := by
  induction l generalizing seen seen' with
  | nil => rfl
  | cons a l ih =>
    obtain ⟨here, later⟩ := List.forall_mem_cons.1 same
    have rest : firsts (a :: seen) l = firsts (a :: seen') l := by
      apply ih
      intro b member
      simp [later b member]
    simp only [firsts, here, rest]

theorem firsts_append (seen l m : List α) :
    firsts seen (l ++ m) = firsts seen l ++ firsts (l ++ seen) m := by
  induction l generalizing seen with
  | nil => rfl
  | cons a l ih =>
    have order : firsts (l ++ a :: seen) m = firsts (a :: l ++ seen) m := by
      apply firsts_congr
      intro b _
      simp [or_left_comm]
    simp [firsts, ih, order]

theorem firsts_map {f : α → β} {seen l : List α}
    (injective : ∀ a ∈ l, ∀ b, b ∈ l ∨ b ∈ seen → f a = f b → a = b) :
    firsts (seen.map f) (l.map f) = firsts seen l := by
  induction l generalizing seen with
  | nil => rfl
  | cons a l ih =>
    have rest : firsts ((a :: seen).map f) (l.map f) = firsts (a :: seen) l := by
      apply ih
      intro b member c among
      refine injective b (List.mem_cons_of_mem _ member) c ?_
      simp only [List.mem_cons] at among ⊢
      tauto
    have here : f a ∈ seen.map f ↔ a ∈ seen := by
      constructor
      · intro member
        obtain ⟨b, member, same⟩ := List.mem_map.1 member
        rwa [injective a List.mem_cons_self b (.inr member) same.symm]
      · exact List.mem_map_of_mem
    simpa [firsts, here] using rest

theorem getElem?_firsts (seen l : List α) (k : Nat) :
    (firsts seen l)[k]? = l[k]?.map fun a => decide (a ∉ seen ∧ a ∉ l.take k) := by
  induction l generalizing seen k with
  | nil => rfl
  | cons a l ih =>
    cases k with
    | zero => simp [firsts]
    | succ k =>
      have later := ih (a :: seen) k
      simp only [firsts, List.getElem?_cons_succ, List.take_succ_cons, later]
      congr 2
      funext b
      simp only [List.mem_cons, not_or, and_assoc, and_left_comm]

end Firsts

namespace Expr

/-- The innermost text search around each value, in the order of a walk. -/
def searches (e : Expr) : List (Option Place) :=
  e.valuePlaces.map fun place => searchAround? place e

def searchesOfArgs (index : Nat) : List Expr → List (Option Place)
  | [] => []
  | arg :: rest => (searches arg).map (Option.map (index :: ·)) ++ searchesOfArgs (index + 1) rest

theorem valuePlaces_eq {e : Expr} (inner : e.holder? = none) :
    e.valuePlaces = valuePlacesOfArgs 0 e.children := by
  cases e with
  | constant | streamVariable => simp [holder?] at inner
  | _ => simp [valuePlaces, valuePlacesOfArgs, children]

theorem split_children {e arg : Expr} {index : Nat} {rest : List Expr}
    (remaining : e.children.drop index = arg :: rest) :
    e.children[index]? = some arg ∧ e.children.drop (index + 1) = rest := by
  constructor
  · rw [← List.head?_drop, remaining]
    rfl
  · rw [← List.tail_drop, remaining]
    rfl

theorem map_searchAround? {e : Expr} {index : Nat} {args : List Expr}
    (remaining : e.children.drop index = args) :
    (valuePlacesOfArgs index args).map (fun place => searchAround? place e) =
      (searchesOfArgs index args).map fun search =>
        search.or (if e.isSearch then some [] else none) := by
  induction args generalizing index with
  | nil => rfl
  | cons arg rest ih =>
    obtain ⟨here, later⟩ := split_children remaining
    simp only [valuePlacesOfArgs, searchesOfArgs, List.map_append, ih later, searches,
      List.map_map]
    congr 1
    apply List.map_congr_left
    intro place _
    simp [searchAround?, here]

theorem searches_eq {e : Expr} (inner : e.holder? = none) :
    e.searches = (searchesOfArgs 0 e.children).map fun search =>
      search.or (if e.isSearch then some [] else none) := by
  rw [searches, valuePlaces_eq inner, map_searchAround? (List.drop_zero ..)]

/-- Around a value there are the searches of its argument, if the node is none itself. -/
theorem searches_of_not_isSearch {e : Expr} (inner : e.holder? = none)
    (other : e.isSearch = false) : e.searches = searchesOfArgs 0 e.children := by
  simp [searches_eq inner, other]

theorem eq_none_or_of_mem_searchesOfArgs {index : Nat} {args : List Expr} {search : Option Place}
    (member : search ∈ searchesOfArgs index args) :
    search = none ∨ ∃ i place, index ≤ i ∧ search = some (i :: place) := by
  induction args generalizing index with
  | nil => simp [searchesOfArgs] at member
  | cons arg rest ih =>
    rcases List.mem_append.1 member with here | later
    · obtain ⟨inner, -, rfl⟩ := List.mem_map.1 here
      cases inner with
      | none => exact .inl rfl
      | some place => exact .inr ⟨index, place, Nat.le_refl _, rfl⟩
    · refine (ih later).imp_right ?_
      rintro ⟨i, place, beyond, same⟩
      exact ⟨i, place, Nat.le_of_succ_le beyond, same⟩

theorem none_mem_searchesOfArgs {index : Nat} {args : List Expr} :
    none ∈ searchesOfArgs index args ↔ ∃ arg ∈ args, none ∈ arg.searches := by
  induction args generalizing index with
  | nil => simp [searchesOfArgs]
  | cons arg rest ih => simp [searchesOfArgs, ih]

theorem isSearch_function (space : Option String) (name : String) (args : List Expr) :
    (function space name args).isSearch = (Call.ofName? space name == some .contains) := by
  rw [Bool.eq_iff_iff, isSearch, decide_eq_true_iff, beq_iff_eq, Call.ofName?_eq_some_iff]

mutual

/-- The values of the tree are the nodes at the places of its values. -/
theorem map_at?_valuePlaces (e : Expr) :
    (e.valuePlaces.map fun place => (e.at? place).bind holder?) = e.holders.map some := by
  cases e with
  | and left right | or left right | compare op left right | math op left right =>
    simp [valuePlaces, holders, at?, children, Function.comp_def, map_at?_valuePlaces left,
      map_at?_valuePlaces right]
  | not operand | isNull operand | isIn storeId operand =>
    simp [valuePlaces, holders, at?, children, Function.comp_def, map_at?_valuePlaces operand]
  | function space name args => exact map_at?_valuePlacesOfArgs args (List.drop_zero ..)
  | constant v type | streamVariable id streamId type | storeVariable storeId attr type => rfl

theorem map_at?_valuePlacesOfArgs {e : Expr} {index : Nat} (args : List Expr)
    (remaining : e.children.drop index = args) :
    ((valuePlacesOfArgs index args).map fun place => (e.at? place).bind holder?) =
      (holdersOfArgs args).map some := by
  cases args with
  | nil => rfl
  | cons arg rest =>
    obtain ⟨here, later⟩ := split_children remaining
    simp [valuePlacesOfArgs, holdersOfArgs, at?, here, Function.comp_def, map_at?_valuePlaces arg,
      map_at?_valuePlacesOfArgs rest later]

end

theorem length_valuePlaces (e : Expr) : e.valuePlaces.length = e.holders.length := by
  simpa using congrArg List.length (map_at?_valuePlaces e)

/-- A call of the most recent value has no values inside. -/
theorem searches_last {space : Option String} {name : String} {args : List Expr} {role : Role}
    (sound : (function space name args).fault role = none)
    (named : Call.ofName? space name = some .last) : (function space name args).searches = [] := by
  simp only [fault, named] at sound
  obtain ⟨⟨value, key⟩, accepted⟩ := faultOf_eq_none sound
  obtain ⟨-, -, -, -, empty⟩ := lastCall_ok accepted
  have size := length_valuePlaces (function space name args)
  rw [holders, empty, List.length_nil, List.length_eq_zero_iff] at size
  rw [searches, size, List.map_nil]

mutual

theorem none_mem_searches {role : Role} {e : Expr} (sound : e.fault role = none) :
    none ∈ e.searches ↔ e.hasOwnValue = true := by
  cases e with
  | and left right | or left right | math op left right | compare op left right =>
    simp only [fault, Option.or_eq_none_iff] at sound
    rw [searches_of_not_isSearch rfl rfl, none_mem_searchesOfArgs]
    simp [children, hasOwnValue, none_mem_searches sound.1, none_mem_searches sound.2]
  | not operand | isNull operand | isIn storeId operand =>
    simp only [fault] at sound
    rw [searches_of_not_isSearch rfl rfl, none_mem_searchesOfArgs]
    simp [children, hasOwnValue, none_mem_searches sound]
  | function space name args =>
    cases named : Call.ofName? space name with
    | none => simp [fault, named] at sound
    | some call =>
      cases call with
      | aggregate =>
        have other : (function space name args).isSearch = false := by
          simp [isSearch_function, named]
        simp only [fault, named] at sound
        rw [searches_of_not_isSearch rfl other, none_mem_searchesOfArgs]
        simpa [children, hasOwnValue, named] using none_mem_searches_args sound
      | contains =>
        have search : (function space name args).isSearch = true := by
          simp [isSearch_function, named]
        rw [searches_eq rfl, search, if_pos rfl]
        simp [hasOwnValue, named]
      | last => simp [searches_last sound named, hasOwnValue, named]
  | constant v type | streamVariable id streamId type =>
    simp [searches, valuePlaces, searchAround?, hasOwnValue]
  | storeVariable storeId attr type => simp [searches, valuePlaces, hasOwnValue]

theorem none_mem_searches_args {args : List Expr} (sound : faultOfArgs args = none) :
    (∃ arg ∈ args, none ∈ arg.searches) ↔ someHasOwnValue args = true := by
  cases args with
  | nil => simp [someHasOwnValue]
  | cons arg rest =>
    simp only [faultOfArgs, Option.or_eq_none_iff] at sound
    simpa [someHasOwnValue, none_mem_searches sound.1] using
      or_congr Iff.rfl (none_mem_searches_args sound.2)

end

/-- What counts as seen at the start of a walk: the values outside of all searches, unless the next
one is a pattern. -/
def seenBefore (pattern : Bool) : List (Option Place) := if pattern then [] else [none]

theorem firsts_searchesOfArgs_cons {arg : Expr}
    (own : none ∈ arg.searches ↔ arg.hasOwnValue = true) (p : Bool) (index : Nat)
    (rest : List Expr) :
    firsts (seenBefore p) (searchesOfArgs index (arg :: rest)) =
      firsts (seenBefore p) arg.searches ++
        firsts (seenBefore (p && !arg.hasOwnValue)) (searchesOfArgs (index + 1) rest) := by
  have outside : seenBefore p = (seenBefore p).map (Option.map (index :: ·)) := by
    cases p <;> rfl
  have injective : Function.Injective (Option.map (index :: · : Place → Place)) :=
    Option.map_injective (List.cons_injective)
  have inner : firsts (seenBefore p) (arg.searches.map (Option.map (index :: ·))) =
      firsts (seenBefore p) arg.searches := by
    rw [outside, firsts_map fun a _ b _ same => injective same, ← outside]
  rw [searchesOfArgs, firsts_append, inner]
  congr 1
  apply firsts_congr
  intro search member
  rcases eq_none_or_of_mem_searchesOfArgs member with rfl | ⟨i, place, beyond, rfl⟩
  · cases p <;> simp [seenBefore, own]
  · have apart : index ≠ i := by omega
    cases p <;> cases arg.hasOwnValue <;> simp [seenBefore, apart]

/-- Inside a text search the first value that is in no other search is its pattern. -/
theorem firsts_search (p : Bool) (args : List Expr) :
    firsts (seenBefore p) ((searchesOfArgs 0 args).map fun search => search.or (some [])) =
      firsts (seenBefore true) (searchesOfArgs 0 args) := by
  have fresh : firsts (seenBefore p)
        ((searchesOfArgs 0 args).map fun search => search.or (some [])) =
      firsts [] ((searchesOfArgs 0 args).map fun search => search.or (some [])) := by
    apply firsts_congr
    intro search member
    obtain ⟨inner, -, rfl⟩ := List.mem_map.1 member
    cases p <;> cases inner <;> simp [seenBefore]
  have injective : ∀ a ∈ searchesOfArgs 0 args,
      ∀ b, b ∈ searchesOfArgs 0 args ∨ b ∈ ([] : List (Option Place)) →
        a.or (some []) = b.or (some []) → a = b := by
    intro a member b other same
    simp only [List.not_mem_nil, or_false] at other
    rcases eq_none_or_of_mem_searchesOfArgs member with rfl | ⟨i, place, -, rfl⟩ <;>
      rcases eq_none_or_of_mem_searchesOfArgs other with rfl | ⟨j, place', -, rfl⟩ <;>
      simp_all
  exact fresh.trans (firsts_map injective)

end Expr

namespace Entry

/-- Whether a value that is entered is a pattern. -/
def pattern? : Entry → Option Bool
  | .value pattern _ => some pattern
  | _ => none

end Entry

namespace Expr

mutual

/-- The values that are entered as patterns are the first ones of their searches. -/
theorem patterns_entries (options : CompileOptions) {role : Role} {e : Expr}
    (sound : e.fault role = none) (p : Bool) :
    (e.entries options role p).filterMap Entry.pattern? = firsts (seenBefore p) e.searches := by
  cases e with
  | and left right | or left right | math op left right | compare op left right =>
    simp only [fault, Option.or_eq_none_iff] at sound
    have ownLeft := none_mem_searches sound.1
    have ownRight := none_mem_searches sound.2
    rw [searches_of_not_isSearch rfl rfl, children, firsts_searchesOfArgs_cons ownLeft,
      firsts_searchesOfArgs_cons ownRight]
    simp [entries, Entry.pattern?, List.filterMap_cons, patterns_entries options sound.1,
      patterns_entries options sound.2, searchesOfArgs, firsts]
  | not operand | isNull operand | isIn storeId operand =>
    simp only [fault] at sound
    rw [searches_of_not_isSearch rfl rfl, children,
      firsts_searchesOfArgs_cons (none_mem_searches sound)]
    simp [entries, Entry.pattern?, List.filterMap_cons, patterns_entries options sound,
      searchesOfArgs, firsts]
  | function space name args =>
    cases named : Call.ofName? space name with
    | none => simp [fault, named] at sound
    | some call =>
      cases call with
      | aggregate =>
        have other : (function space name args).isSearch = false := by
          simp [isSearch_function, named]
        simp only [fault, named] at sound
        rw [searches_of_not_isSearch rfl other, children]
        simp [entries, named, Entry.pattern?, List.filterMap_cons,
          patterns_entriesOfArgs options sound p true 0]
      | contains =>
        have search : (function space name args).isSearch = true := by
          simp [isSearch_function, named]
        simp only [fault, named] at sound
        rw [searches_eq rfl, search, if_pos rfl, children, firsts_search]
        simp [entries, named, Entry.pattern?, List.filterMap_cons,
          patterns_entriesOfArgs options sound true true 0]
      | last =>
        rw [searches_last sound named]
        simp only [fault, named] at sound
        obtain ⟨⟨value, key⟩, accepted⟩ := faultOf_eq_none sound
        simp [entries, named, accepted, lastEntries, Entry.pattern?, firsts]
  | constant v type | streamVariable id streamId type =>
    cases p <;> simp [entries, Entry.pattern?, searches, valuePlaces, searchAround?, firsts,
      seenBefore]
  | storeVariable storeId attr type =>
    simp only [entries, columnEntries, searches, valuePlaces]
    split <;> rfl

theorem patterns_entriesOfArgs (options : CompileOptions) {args : List Expr}
    (sound : faultOfArgs args = none) (p first : Bool) (index : Nat) :
    (entriesOfArgs options p first args).filterMap Entry.pattern? =
      firsts (seenBefore p) (searchesOfArgs index args) := by
  cases args with
  | nil => rfl
  | cons arg rest =>
    simp only [faultOfArgs, Option.or_eq_none_iff] at sound
    rw [firsts_searchesOfArgs_cons (none_mem_searches sound.1)]
    cases first <;> simp [entriesOfArgs, Entry.pattern?, List.filterMap_cons,
      patterns_entries options sound.1, patterns_entriesOfArgs options sound.2 _ false (index + 1)]

end

end Expr

namespace Draft

/-- The names of the values that entries leave in a draft tell which of them are patterns. -/
theorem patterns_foldl_write (options : CompileOptions) (entries : List Entry) (d : Draft) :
    (entries.foldl (write options) d).placeholders.map (fun named => isPatternName named.1) =
      (entries.filterMap Entry.pattern?).reverse ++
        d.placeholders.map fun named => isPatternName named.1 := by
  induction entries generalizing d with
  | nil => rfl
  | cons entry entries ih =>
    rw [List.foldl_cons, ih]
    cases entry with
    | value pattern holder =>
      simp [write, PlaceholderTable.insert, PlaceholderNames.isPatternName_next, Entry.pattern?]
    | token s | correlated attr | latest key =>
      simp [write, Entry.pattern?, List.filterMap_cons]

end Draft

namespace Expr

variable {options : CompileOptions} {e : Expr} {c : CompiledCondition}

/-- The values of the draft are patterns where they are the first ones of their searches. -/
theorem patterns_slots {t : Template NamedValue} (sound : e.fault .free = none)
    (held : (e.draft options).Holds t) :
    (Template.slots t).map (fun named => isPatternName named.1) = firsts [none] e.searches := by
  have written :=
    Draft.patterns_foldl_write options (e.entries options .free false) (.start options)
  have placeholders : _ = (Template.slots t).reverse := held.placeholders
  have entered := patterns_entries options sound false
  change (e.draft options).placeholders.map _ = _ at written
  rw [placeholders, List.map_reverse, entered] at written
  simpa [Draft.start, seenBefore] using written

theorem getElem?_searches {k : Nat} {search : Place} :
    e.searches[k]? = some (some search) ↔
      ∃ place, e.valuePlaces[k]? = some place ∧ e.Innermost search place := by
  simp [searches, searchAround?_eq_some_iff]

theorem first_searches {k : Nat} :
    (firsts [none] e.searches)[k]? = some true ↔
      ∃ place search, e.valuePlaces[k]? = some place ∧ e.Innermost search place ∧
        ∀ j < k, ∀ earlier, e.valuePlaces[j]? = some earlier → ¬ e.Innermost search earlier := by
  have earlier {search : Place} : some search ∈ e.searches.take k ↔
      ∃ j < k, ∃ place, e.valuePlaces[j]? = some place ∧ e.Innermost search place := by
    simp [List.mem_iff_getElem?, List.getElem?_take, getElem?_searches]
  simp only [getElem?_firsts, Option.map_eq_some_iff, decide_eq_true_eq]
  constructor
  · rintro ⟨found, here, inside, new⟩
    cases found with
    | none => simp at inside
    | some search =>
      obtain ⟨place, stands, innermost⟩ := getElem?_searches.1 here
      refine ⟨place, search, stands, innermost, ?_⟩
      intro j before other stands also
      exact new (earlier.2 ⟨j, before, other, stands, also⟩)
  · rintro ⟨place, search, stands, innermost, first⟩
    refine ⟨some search, getElem?_searches.2 ⟨place, stands, innermost⟩, by simp, ?_⟩
    intro member
    obtain ⟨j, before, other, stands, also⟩ := earlier.1 member
    exact first j before other stands also

/-- The slots that are patterns are the first ones of their searches. -/
theorem patternOrdinals_of_compile (names : e.NamesAll (fun name => '[' ∉ name.toList) options)
    (compiled : e.compile options = .ok c) :
    (∀ k, c.parameters.get? (k + 1) =
      e.valuePlaces[k]?.bind fun place => (e.at? place).bind holder?) ∧
    ∀ n, n ∈ c.patternOrdinals.elems ↔
      ∃ k, n = k + 1 ∧ ∃ place search, e.valuePlaces[k]? = some place ∧
        e.Innermost search place ∧
        ∀ j < k, ∀ earlier, e.valuePlaces[j]? = some earlier → ¬ e.Innermost search earlier := by
  constructor
  · intro k
    have node := congrArg (fun nodes => nodes[k]?.bind id) (map_at?_valuePlaces e)
    rw [get?_parameters names compiled]
    simpa [Option.bind_map, Function.comp_def] using node.symm
  · intro n
    obtain ⟨sound, rfl⟩ := compile_ok compiled
    obtain ⟨t, held, -, scanned⟩ := exists_scanned names
    have ordinals : (e.finish options (e.draft options)).patternOrdinals =
        (OrdinalMap.enumerate (Template.slots t)).ordinalsWhere
          fun named => isPatternName named.1 := by
      rw [finish, scanned, Parametrized.ofTemplate]
    rw [ordinals, OrdinalMap.mem_ordinalsWhere_enumerate]
    refine exists_congr fun k => ?_
    rw [← first_searches, ← patterns_slots sound held, List.getElem?_map, Option.map_eq_some_iff]
    simp only [exists_and_left]

/-- A search inside a search, and one without values. -/
def nestedSearches : Expr :=
  .and (.compare .equal (.streamVariable "symbol" none .string)
      (.function (some "str") "contains"
        [.storeVariable "stock" "name" .string,
          .function (some "str") "contains"
            [.storeVariable "stock" "symbol" .string, .constant (.string "%a%") .string],
          .streamVariable "pattern" none .string, .constant (.string "b") .string]))
    (.compare .greaterThan
      (.function (some "str") "contains" [.storeVariable "stock" "name" .string])
      (.constant (.long 5) .int))

theorem patternOrdinals_of_nestedSearches :
    ∃ c, nestedSearches.compile likeMarker = .ok c ∧
      c.parameters.get? 2 = some (.constant (.string "%a%") .string) ∧
      c.parameters.get? 3 = some (.event "pattern" .string) ∧
      ∀ n, n ∈ c.patternOrdinals.elems ↔ n = 2 ∨ n = 3 := by
  have compiled := compile_eq likeMarker nestedSearches
  obtain ⟨values, patterns⟩ := patternOrdinals_of_compile (by decide) compiled
  have first : firsts [none] nestedSearches.searches = [false, true, true, false, false] := by
    decide
  refine ⟨_, compiled, values 1, values 2, ?_⟩
  intro n
  rw [patterns]
  simp only [← first_searches, first]
  constructor
  · rintro ⟨_ | _ | _ | _ | _ | k, rfl, pattern⟩ <;> simp_all
  · rintro (rfl | rfl)
    · exact ⟨1, rfl, rfl⟩
    · exact ⟨2, rfl, rfl⟩

end Expr
end ConditionQuery
