import ConditionQuery.Compile.Statement
import ConditionQuery.Proofs.Offences

/-! The join of a compiled condition. Each site of the tree contributes one link to it or none: a
call of the most recent value its key, and a column itself. The sub-select projects the keys, and
the statement joins it exactly if there are any. -/
namespace ConditionQuery

/-- A correlation of the table with the sub-select. -/
inductive Link where
  | plain (attr : String)
  /-- The greatest value of a key. -/
  | latest (key : String)

namespace Link

def key? : Link → Option String
  | .plain _ => none
  | .latest key => some key

/-- What the sub-select projects for a key. -/
def projection (options : CompileOptions) (key : String) : String :=
  "MAX(" ++ (options.table ++ "." ++ key) ++ ") AS MAX_" ++ key

/-- The equation of a column of the table with one of the sub-select. -/
def equation (options : CompileOptions) (attr projected : String) : String :=
  options.table ++ "." ++ attr ++ " = " ++ options.subqueryAlias ++ "." ++ projected

def fragment (options : CompileOptions) : Link → String
  | .plain attr => equation options attr attr
  | .latest key => equation options key ("MAX_" ++ key)

end Link

namespace Site

/-- The node is a call of the most recent value. -/
def isLast (s : Site) : Bool := s.node.lastArgs?.isSome

/-- The join key of a call: its second argument, or else the column that it is equated with. -/
def key? (s : Site) : Option String :=
  match s.node.lastArgs? with
  | some [_, key] => key.column?
  | some [_] => s.equatedColumn?
  | _ => none

theorem key?_eq_none {s : Site} (other : s.node.lastArgs? = none) : s.key? = none := by
  simp only [key?, other]

/-- The link of the site. A column has none where it serves as a join key, and none after a
projection. -/
def link? (afterSelect : Bool) (s : Site) : Option Link :=
  match s.node.column? with
  | some attr => if afterSelect || s.isJoinKey then none else some (.plain attr)
  | none => s.key?.map .latest

end Site

namespace Entry

def link? : Entry → Option Link
  | .correlated attr => some (.plain attr)
  | .latest key => some (.latest key)
  | .token _ | .value _ _ => none

end Entry

namespace CorrelatedJoin

/-- The join with more links. -/
def extend (options : CompileOptions) (links : List Link) (join : CorrelatedJoin) :
    CorrelatedJoin :=
  { join with
    subSelect := join.subSelect ++ (links.filterMap Link.key?).map (Link.projection options)
    aggregateJoin := join.aggregateJoin ++
      (links.filterMap Link.key?).map fun key => Link.fragment options (.latest key)
    outerJoin := join.outerJoin ++ links.map (Link.fragment options) }

theorem extend_extend (options : CompileOptions) (first second : List Link)
    (join : CorrelatedJoin) :
    (join.extend options first).extend options second = join.extend options (first ++ second) := by
  simp [extend]

end CorrelatedJoin

namespace Draft

variable {options : CompileOptions}

/-- One entry adds its link to the join. -/
theorem join_write (d : Draft) (known : d.join.aliasName = options.subqueryAlias) (entry : Entry) :
    (d.write options entry).join = d.join.extend options entry.link?.toList := by
  cases entry with
  | token s | value pattern holder =>
    simp [write, Entry.link?, CorrelatedJoin.extend]
  | correlated attr =>
    simp [write, Entry.link?, CorrelatedJoin.extend, Link.key?, Link.fragment, Link.equation, known]
  | latest key =>
    have marked (front : String) : front ++ ".MAX_" ++ key = front ++ "." ++ ("MAX_" ++ key) := by
      simp [← String.toList_inj]
    simp [write, Entry.link?, CorrelatedJoin.extend, Link.key?, Link.fragment, Link.equation,
      Link.projection, known, marked]

/-- So do the entries of a walk. -/
theorem join_foldl_write (d : Draft) (known : d.join.aliasName = options.subqueryAlias)
    (entries : List Entry) :
    (entries.foldl (write options) d).join =
      d.join.extend options (entries.filterMap Entry.link?) := by
  induction entries generalizing d with
  | nil => simp [CorrelatedJoin.extend]
  | cons entry entries ih =>
    have step := join_write d known entry
    have together : (entry :: entries).filterMap Entry.link? =
        entry.link?.toList ++ entries.filterMap Entry.link? := by
      cases linked : entry.link? <;> simp [linked]
    rw [List.foldl_cons, ih _ (by rw [step]; exact known), step, CorrelatedJoin.extend_extend,
      together]

end Draft

namespace Expr

theorem map_column?_of_lastOperands {args : List Expr} {operands : List String}
    (given : lastOperands args = .ok operands) : args.map column? = operands.map some := by
  induction args generalizing operands with
  | nil =>
    obtain rfl : [] = operands := by simpa [lastOperands] using given
    rfl
  | cons arg rest ih =>
    obtain ⟨storeId, attr, type, tail, rfl, others, rfl⟩ := lastOperands_cons given
    rw [List.map_cons, ih others]
    rfl

theorem lastPair_eq_ok {role : Role} {operands : List String} {value key : String}
    (accepted : lastPair role operands = .ok (value, key)) :
    operands = [value, key] ∨ operands = [value] ∧ role.key? = some key := by
  rcases operands with _ | ⟨a, _ | ⟨b, _ | ⟨c, rest⟩⟩⟩ <;> cases role <;>
    simp_all [lastPair, Role.key?]

/-- The key of a call that is not at fault is that of its site. -/
theorem key?_of_lastCall {space : Option String} {name : String} {args : List Expr}
    {equated : Option Expr} {value key : String} (named : Call.last.Named space name)
    (accepted : lastCall (Site.role ⟨.function space name args, equated⟩) args =
      .ok (value, key)) :
    Site.key? ⟨.function space name args, equated⟩ = some key := by
  unfold lastCall at accepted
  cases given : lastOperands args with
  | error err => simp [given, bind, Except.bind] at accepted
  | ok operands =>
    simp only [given, bind, Except.bind] at accepted
    have columns := map_column?_of_lastOperands given
    rcases lastPair_eq_ok accepted with rfl | ⟨rfl, keyed⟩
    · obtain ⟨first, second, rfl, -, column⟩ : ∃ first second, args = [first, second] ∧
          first.column? = some value ∧ second.column? = some key := by
        simpa [List.map_eq_cons_iff, and_assoc] using columns
      simp [Site.key?, lastArgs?, named, column]
    · obtain ⟨only, rfl, -⟩ : ∃ only, args = [only] ∧ only.column? = some value := by
        simpa [List.map_eq_cons_iff] using columns
      rw [key?_role] at keyed
      simpa [Site.key?, lacksKey, lastArgs?, named] using keyed

/-- A column has the role of a join key exactly if it serves as one. -/
theorem role_storeVariable (storeId attr : String) (type : AttributeType) (equated : Option Expr) :
    (Site.role ⟨.storeVariable storeId attr type, equated⟩ == .joinKey) =
      Site.isJoinKey ⟨.storeVariable storeId attr type, equated⟩ := by
  cases equated with
  | none => rfl
  | some other =>
    cases other with
    | storeVariable => rfl
    | _ =>
      simp only [Site.role, Site.equatedColumn?, Site.isJoinKey, column?, Option.bind_some,
        Option.isSome_some, Bool.true_and, Option.any_some]
      split <;> simp_all

theorem fault_role (e : Expr) : e.fault (Site.role ⟨e, none⟩) = e.fault .free := by
  rw [role_eq_free]

mutual

/-- The links that a walk enters are those of the sites. -/
theorem links_entries (options : CompileOptions) {e : Expr} {equated : Option Expr}
    (sound : e.fault (Site.role ⟨e, equated⟩) = none) (p : Bool) :
    (e.entries options (Site.role ⟨e, equated⟩) p).filterMap Entry.link? =
      (⟨e, equated⟩ :: e.sitesBelow).filterMap (Site.link? options.afterSelect) := by
  cases e with
  | and left right | or left right | math op left right =>
    simp only [fault, Option.or_eq_none_iff] at sound
    have first := links_entries options ((fault_role left).trans sound.1) p
    have second := links_entries options ((fault_role right).trans sound.2) (p && !left.hasOwnValue)
    rw [role_eq_free] at first second
    rw [List.filterMap_cons_none rfl, sitesBelow, List.filterMap_append, ← first, ← second]
    simp [entries, Entry.link?, List.filterMap_cons]
  | compare op left right =>
    simp only [fault, Option.or_eq_none_iff, roles_eq] at sound
    have first := links_entries options sound.1 p
    have second := links_entries options sound.2 (p && !left.hasOwnValue)
    rw [List.filterMap_cons_none rfl, sitesBelow, List.filterMap_append, ← first, ← second]
    simp [entries, roles_eq, Entry.link?, List.filterMap_cons]
  | not operand | isNull operand | isIn storeId operand =>
    simp only [fault] at sound
    have inner := links_entries options ((fault_role operand).trans sound) p
    rw [role_eq_free] at inner
    rw [List.filterMap_cons_none rfl, sitesBelow, ← inner]
    simp [entries, Entry.link?, List.filterMap_cons]
  | function space name args =>
    cases called : Call.ofName? space name with
    | none => simp [fault, called] at sound
    | some call =>
      have named := Call.ofName?_eq_some_iff.1 called
      cases call with
      | last =>
        simp only [fault, called] at sound
        obtain ⟨⟨value, key⟩, accepted⟩ := faultOf_eq_none sound
        have linked : Site.link? options.afterSelect ⟨.function space name args, equated⟩ =
            some (.latest key) := by
          simp [Site.link?, column?, key?_of_lastCall named accepted]
        rw [List.filterMap_cons_some linked, sitesBelow, if_pos named]
        simp [entries, called, accepted, lastEntries, Entry.link?]
      | aggregate | contains =>
        have notLast := named.not_last (by decide)
        simp only [fault, called] at sound
        have linked : Site.link? options.afterSelect ⟨.function space name args, equated⟩ =
            none := by
          simp [Site.link?, column?, Site.key?, lastArgs?, notLast]
        rw [List.filterMap_cons_none linked, sitesBelow, if_neg notLast]
        simp [entries, called, links_entriesOfArgs options sound, Entry.link?,
          List.filterMap_cons]
  | constant v type | streamVariable id streamId type => rfl
  | storeVariable storeId attr type =>
    have role := role_storeVariable storeId attr type equated
    simp only [entries, columnEntries, role, sitesBelow, List.filterMap_cons, Entry.link?,
      Site.link?, column?, List.filterMap_nil]
    split <;> rfl

theorem links_entriesOfArgs (options : CompileOptions) {args : List Expr}
    (sound : faultOfArgs args = none) (p first : Bool) :
    (entriesOfArgs options p first args).filterMap Entry.link? =
      (sitesOfArgs args).filterMap (Site.link? options.afterSelect) := by
  cases args with
  | nil => rfl
  | cons arg rest =>
    simp only [faultOfArgs, Option.or_eq_none_iff] at sound
    have head := links_entries options ((fault_role arg).trans sound.1) p
    have others := links_entriesOfArgs options sound.2 (p && !arg.hasOwnValue) false
    rw [role_eq_free] at head
    rw [sitesOfArgs, List.filterMap_append, ← head, ← others]
    cases first <;> simp [entriesOfArgs, Entry.link?, List.filterMap_cons]

end

/-- The join keys of the calls of the most recent value, in the order of a walk. -/
def joinKeys (e : Expr) : List String := e.sites.filterMap Site.key?

/-- The links of the tree in the order of a walk. -/
def links (afterSelect : Bool) (e : Expr) : List Link := e.sites.filterMap (Site.link? afterSelect)

theorem key?_of_links (afterSelect : Bool) (e : Expr) :
    (e.links afterSelect).filterMap Link.key? = e.joinKeys := by
  have known (s : Site) : (s.link? afterSelect).bind Link.key? = s.key? := by
    cases column : s.node.column? with
    | none => simp [Site.link?, column, Option.bind_map, Function.comp_def, Link.key?]
    | some attr =>
      have none : s.key? = none := Site.key?_eq_none (lastArgs?_of_column? column)
      simp only [Site.link?, column, none]
      split <;> rfl
  rw [links, List.filterMap_filterMap, joinKeys]
  exact congrArg (List.filterMap · e.sites) (funext known)

/-- A call that does not offend has a key. -/
theorem isSome_key? {s : Site} (sound : s.offence = none) : s.key?.isSome = s.isLast := by
  obtain ⟨node, equated⟩ := s
  cases called : node.lastArgs? with
  | none => simp [Site.key?_eq_none (s := ⟨node, equated⟩) called, Site.isLast, called]
  | some args =>
    obtain ⟨space, name, rfl, named⟩ := lastArgs?_eq_some called
    simp only [Site.offence, if_pos named] at sound
    split at sound
    · contradiction
    · rename_i columns
      have accepted : args.length = 2 ∨ args.length = 1 ∧
          (Site.equatedColumn? ⟨.function space name args, equated⟩).isSome := by
        by_contra refused
        simp [if_neg refused] at sound
      rcases accepted with pair | ⟨single, keyed⟩
      · obtain ⟨first, second, rfl⟩ := List.length_eq_two.1 pair
        have column := List.find?_eq_none.1 columns second (by simp)
        simpa [Site.key?, Site.isLast, called, Option.isSome_iff_ne_none] using column
      · obtain ⟨only, rfl⟩ := List.length_eq_one_iff.1 single
        simpa [Site.key?, Site.isLast, called] using keyed

/-- There are join keys exactly if there are calls, each of which has one. -/
theorem hasKeys_eq {e : Expr} (keyed : ∀ site ∈ e.sites, site.key?.isSome = site.isLast) :
    (!e.joinKeys.isEmpty) = e.sites.any Site.isLast := by
  have keyless : e.joinKeys = [] ↔ ∀ site ∈ e.sites, site.isLast = false := by
    rw [joinKeys, List.filterMap_eq_nil_iff]
    apply forall₂_congr
    intro site member
    rw [← keyed site member, Option.isSome_eq_false_iff, Option.isNone_iff_eq_none]
  rw [← Bool.not_inj_iff, Bool.not_not, Bool.eq_iff_iff, List.isEmpty_iff, keyless]
  simp

section Compiled

variable {options : CompileOptions} {e : Expr} {c : CompiledCondition}

theorem join_eq (compiled : e.compile options = .ok c) :
    c.join = (CorrelatedJoin.empty options.subqueryAlias).extend options
      (e.links options.afterSelect) := by
  obtain ⟨sound, rfl⟩ := compile_ok compiled
  have entered := links_entries options ((fault_role e).trans sound) false
  rw [role_eq_free] at entered
  have written := Draft.join_foldl_write (Draft.start options) rfl (e.entries options .free false)
  rwa [entered] at written

theorem isSome_key?_of_compile (compiled : e.compile options = .ok c) :
    ∀ site ∈ e.sites, site.key?.isSome = site.isLast := by
  have sound := (fault_role e).trans (compile_ok compiled).1
  rw [fault_eq_findSome?] at sound
  intro site member
  exact isSome_key? (List.findSome?_eq_none_iff.1 sound site member)

theorem table_of_compile (compiled : e.compile options = .ok c) : c.table = options.table := by
  obtain ⟨-, rfl⟩ := compile_ok compiled
  rfl

/-- The join of a compiled condition is made of the links of its tree, whatever else the tree has,
and its statements join the sub-select exactly if there is a call of the most recent value. -/
theorem join_of_compile (compiled : e.compile options = .ok c) :
    (∀ site ∈ e.sites, site.key?.isSome = site.isLast) ∧
      c.join =
        { aliasName := options.subqueryAlias
          subSelect := e.joinKeys.map (Link.projection options)
          outerJoin := (e.links options.afterSelect).map (Link.fragment options)
          aggregateJoin := e.joinKeys.map fun key => Link.fragment options (.latest key) } ∧
      c.join.hasSubSelect = e.sites.any Site.isLast ∧
      (∀ projection text, c.statement projection text =
        projection.text ++ " FROM " ++ options.table ++
          (if e.sites.any Site.isLast then
            " JOIN (SELECT " ++ ", ".intercalate (e.joinKeys.map (Link.projection options)) ++
              " FROM " ++ options.table ++ ") AS " ++ options.subqueryAlias ++ " ON " ++
              " AND ".intercalate (e.joinKeys.map fun key => Link.fragment options (.latest key))
          else "") ++
          (if text.isEmpty then "" else " WHERE " ++ text)) ∧
      ∀ fragment ∈ c.join.aggregateJoin, ∃ key,
        fragment = Link.equation options key ("MAX_" ++ key) ∧
          Link.projection options key ∈ c.join.subSelect := by
  have keyed := isSome_key?_of_compile compiled
  have join := join_eq compiled
  rw [CorrelatedJoin.extend, key?_of_links] at join
  have present : c.join.hasSubSelect = e.sites.any Site.isLast := by
    rw [← hasKeys_eq keyed, join]
    simp [CorrelatedJoin.hasSubSelect, CorrelatedJoin.empty]
  refine ⟨keyed, join, present, ?_, ?_⟩
  · intro projection text
    rw [CompiledCondition.statement, present, table_of_compile compiled]
    simp only [join, CorrelatedJoin.subSelectText, CorrelatedJoin.aggregateJoinText,
      CorrelatedJoin.empty, List.nil_append]
  · intro fragment member
    simp only [join, CorrelatedJoin.empty, List.nil_append, List.mem_map] at member
    obtain ⟨key, known, rfl⟩ := member
    refine ⟨key, rfl, ?_⟩
    rw [join]
    exact List.mem_map.2 ⟨key, known, rfl⟩

/-- A tree with a call of two arguments and one that is equated with its key, beside two columns. -/
def latestRows : Expr :=
  .and
    (.compare .equal (.storeVariable "stock" "symbol" .string)
      (.function (some "incrementalAggregator") "last" [.storeVariable "stock" "price" .double]))
    (.compare .equal
      (.function (some "incrementalAggregator") "last"
        [.storeVariable "stock" "volume" .long, .storeVariable "stock" "time" .long])
      (.storeVariable "stock" "limit" .long))

theorem join_of_latestRows :
    ∃ c, latestRows.compile (.forTable "T") = .ok c ∧
      c.join.subSelect = ["MAX(T.symbol) AS MAX_symbol", "MAX(T.time) AS MAX_time"] ∧
      c.join.aggregateJoin = ["T.symbol = S.MAX_symbol", "T.time = S.MAX_time"] ∧
      c.join.outerJoin = ["T.symbol = S.MAX_symbol", "T.time = S.MAX_time", "T.limit = S.limit"] ∧
      c.statement .count "" = "SELECT VALUE COUNT(1) FROM T JOIN (SELECT " ++
        "MAX(T.symbol) AS MAX_symbol, MAX(T.time) AS MAX_time FROM T) AS S ON " ++
        "T.symbol = S.MAX_symbol AND T.time = S.MAX_time" := by
  have compiled := compile_eq (.forTable "T") latestRows
  obtain ⟨-, join, -, statement, -⟩ := join_of_compile compiled
  refine ⟨_, compiled, ?_, ?_, ?_, ?_⟩
  · rw [join]
    decide
  · rw [join]
    decide
  · rw [join]
    decide
  · rw [statement]
    decide +kernel

end Compiled

end Expr
end ConditionQuery
