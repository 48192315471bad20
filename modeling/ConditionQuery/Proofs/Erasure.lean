import ConditionQuery.Proofs.Rendering
import ConditionQuery.Proofs.Sites

/-! Values never reach the text of a condition. A tree is compiled as it is without its values, its
ids, its types and the tables that it names: the same markers stand at the same places, and only
what fills them differs. Names of the table may have any characters, also those of markers. -/
namespace ConditionQuery

namespace ValueHolder

/-- The holder with nothing left but its kind. -/
def erased : ValueHolder → ValueHolder
  | .constant _ _ => .constant .null .object
  | .event _ _ => .event "" .object

@[simp] theorem kind_erased (holder : ValueHolder) : holder.erased.kind = holder.kind := by
  cases holder <;> rfl

@[simp] theorem erased_erased (holder : ValueHolder) : holder.erased.erased = holder.erased := by
  cases holder <;> rfl

end ValueHolder

namespace CompileError

/-- The error without the argument that it shows. -/
def erased : CompileError → CompileError
  | .unsupportedFunction name => .unsupportedFunction name
  | .lastArgument _ => .lastArgument ""
  | .lastCount found => .lastCount found

theorem mapError_bind {α β : Type} {x y : Except CompileError α}
    (same : x.mapError erased = y.mapError erased) (next : α → Except CompileError β) :
    (x >>= next).mapError erased = (y >>= next).mapError erased := by
  cases x <;> cases y <;> simp_all [Except.mapError, bind, Except.bind]

end CompileError

namespace OrdinalMap

variable {α β γ : Type}

theorem map_map (f : α → β) (g : β → γ) (m : OrdinalMap α) :
    (m.map f).map g = m.map (g ∘ f) :=
  ext (by simp [map, Function.comp_def])

theorem ordinalsWhere_map (f : α → β) (p : β → Bool) (m : OrdinalMap α) :
    (m.map f).ordinalsWhere p = m.ordinalsWhere (p ∘ f) := by
  simp [ordinalsWhere, map, List.filter_map, Function.comp_def]

end OrdinalMap

namespace CompiledCondition

/-- The condition with nothing left of what fills its slots but the kinds. -/
def erased (c : CompiledCondition) : CompiledCondition :=
  { c with parameters := c.parameters.map ValueHolder.erased }

@[simp] theorem erased_erased (c : CompiledCondition) : c.erased.erased = c.erased := by
  simp [erased, OrdinalMap.map_map, Function.comp_def]

/-- The conditions differ only in what fills their slots, and not in its kind. -/
structure Alike (c c' : CompiledCondition) : Prop where
  table : c.table = c'.table
  text : c.text = c'.text
  markerOffsets : c.markerOffsets = c'.markerOffsets
  patternOrdinals : c.patternOrdinals = c'.patternOrdinals
  join : c.join = c'.join
  membership : c.membership = c'.membership
  kinds : c.parameters.map ValueHolder.kind = c'.parameters.map ValueHolder.kind

theorem Alike.of_erased {c c' : CompiledCondition} (same : c.erased = c'.erased) : c.Alike c' := by
  simp only [erased, mk.injEq] at same
  obtain ⟨table, text, parameters, patternOrdinals, markerOffsets, join, membership⟩ := same
  have kinds := congrArg (OrdinalMap.map ValueHolder.kind) parameters
  refine ⟨table, text, markerOffsets, patternOrdinals, join, membership, ?_⟩
  simpa [OrdinalMap.map_map, Function.comp_def] using kinds

end CompiledCondition

namespace Expr

mutual

/-- The tree without values, ids, types, and names of streams and stores. -/
def erased : Expr → Expr
  | .and left right => .and (erased left) (erased right)
  | .or left right => .or (erased left) (erased right)
  | .not operand => .not (erased operand)
  | .compare op left right => .compare op (erased left) (erased right)
  | .isNull operand => .isNull (erased operand)
  | .isIn _ operand => .isIn "" (erased operand)
  | .math op left right => .math op (erased left) (erased right)
  | .function space name args => .function space name (erasedArgs args)
  | .constant _ _ => .constant .null .object
  | .streamVariable _ _ _ => .streamVariable "" none .object
  | .storeVariable _ attr _ => .storeVariable "" attr .object

def erasedArgs : List Expr → List Expr
  | [] => []
  | arg :: rest => erased arg :: erasedArgs rest

end

/-- The outcome of compiling, but for what erasing takes away. -/
def erasedOutcome (outcome : Except CompileError CompiledCondition) :
    Except CompileError CompiledCondition :=
  (outcome.mapError CompileError.erased).map CompiledCondition.erased

theorem length_erasedArgs (args : List Expr) : (erasedArgs args).length = args.length := by
  induction args with
  | nil => rfl
  | cons arg rest ih => simp [erasedArgs, ih]

@[simp] theorem column?_erased (e : Expr) : e.erased.column? = e.column? := by
  cases e <;> rfl

@[simp] theorem lacksKey_erased (e : Expr) : e.erased.lacksKey = e.lacksKey := by
  cases e with
  | function space name args =>
    simp only [lacksKey, erased, lastArgs?]
    split <;> simp [length_erasedArgs]
  | _ => rfl

/-- Erasing leaves the roles of operands as they are. -/
theorem roles_erased (op : CompareOp) (left right : Expr) :
    roles op left.erased right.erased = roles op left right := by
  have same (e other : Expr) :
      Site.role ⟨e.erased, equatedBy op other.erased⟩ = Site.role ⟨e, equatedBy op other⟩ := by
    by_cases equation : op = .equal <;>
      simp [Site.role, Site.equatedColumn?, Site.isJoinKey, equatedBy, equation]
  rw [roles_eq, roles_eq, same, same]

mutual

@[simp] theorem hasOwnValue_erased (e : Expr) : e.erased.hasOwnValue = e.hasOwnValue := by
  cases e with
  | and left right | or left right | compare op left right | math op left right =>
    simp [erased, hasOwnValue, hasOwnValue_erased left, hasOwnValue_erased right]
  | not operand | isNull operand | isIn storeId operand =>
    simp [erased, hasOwnValue, hasOwnValue_erased operand]
  | function space name args => simp [erased, hasOwnValue, someHasOwnValue_erased args]
  | constant v type | streamVariable id streamId type | storeVariable storeId attr type => rfl

theorem someHasOwnValue_erased (args : List Expr) :
    someHasOwnValue (erasedArgs args) = someHasOwnValue args := by
  cases args with
  | nil => rfl
  | cons arg rest =>
    simp [erasedArgs, someHasOwnValue, hasOwnValue_erased arg, someHasOwnValue_erased rest]

end

theorem lastOperands_erased (args : List Expr) :
    (lastOperands (erasedArgs args)).mapError CompileError.erased =
      (lastOperands args).mapError CompileError.erased := by
  induction args with
  | nil => rfl
  | cons arg rest ih =>
    cases arg with
    | storeVariable storeId attr type => exact CompileError.mapError_bind ih _
    | _ => rfl

theorem lastCall_erased (role : Role) (args : List Expr) :
    (lastCall role (erasedArgs args)).mapError CompileError.erased =
      (lastCall role args).mapError CompileError.erased :=
  CompileError.mapError_bind (lastOperands_erased args) _

theorem lastEntries_congr (options : CompileOptions) {x y : Except CompileError (String × String)}
    (same : x.mapError CompileError.erased = y.mapError CompileError.erased) :
    lastEntries options x = lastEntries options y := by
  cases x <;> cases y <;> simp_all [Except.mapError, lastEntries]

theorem faultOf_congr {α : Type} {x y : Except CompileError α}
    (same : x.mapError CompileError.erased = y.mapError CompileError.erased) :
    (faultOf x).map CompileError.erased = (faultOf y).map CompileError.erased := by
  cases x <;> cases y <;> simp_all [Except.mapError, faultOf]

mutual

/-- Erasing leaves the fault of a tree as it is, but for the argument that it shows. -/
theorem fault_erased (role : Role) (e : Expr) :
    (e.erased.fault role).map CompileError.erased = (e.fault role).map CompileError.erased := by
  cases e with
  | and left right | or left right | math op left right =>
    simp only [erased, fault, Option.map_or, fault_erased .free left, fault_erased .free right]
  | compare op left right =>
    simp only [erased, fault, roles_erased, Option.map_or, fault_erased _ left,
      fault_erased _ right]
  | not operand | isNull operand | isIn storeId operand =>
    simp only [erased, fault, fault_erased .free operand]
  | function space name args =>
    simp only [erased, fault]
    split
    · rfl
    · exact faultOf_congr (lastCall_erased role args)
    · exact faultOfArgs_erased args
  | constant v type | streamVariable id streamId type | storeVariable storeId attr type => rfl

theorem faultOfArgs_erased (args : List Expr) :
    (faultOfArgs (erasedArgs args)).map CompileError.erased =
      (faultOfArgs args).map CompileError.erased := by
  cases args with
  | nil => rfl
  | cons arg rest =>
    simp only [erasedArgs, faultOfArgs, Option.map_or, fault_erased .free arg,
      faultOfArgs_erased rest]

end

end Expr

/-- The entry with nothing left of a value but its kind. -/
def Entry.erased : Entry → Entry
  | .value pattern holder => .value pattern holder.erased
  | entry => entry

namespace Expr

mutual

/-- A tree enters what it enters without its values, but for the values. -/
theorem entries_erased (options : CompileOptions) (role : Role) (p : Bool) (e : Expr) :
    e.erased.entries options role p = (e.entries options role p).map Entry.erased := by
  cases e with
  | and left right | or left right | math op left right =>
    simp [erased, entries, Entry.erased, entries_erased options .free _ left,
      entries_erased options .free _ right]
  | compare op left right =>
    simp [erased, entries, Entry.erased, roles_erased, entries_erased options _ _ left,
      entries_erased options _ _ right]
  | not operand | isNull operand | isIn storeId operand =>
    simp [erased, entries, Entry.erased, entries_erased options .free _ operand]
  | function space name args =>
    simp only [erased, entries]
    split
    · rfl
    · simp [Entry.erased, entriesOfArgs_erased options _ _ args]
    · simp [Entry.erased, entriesOfArgs_erased options _ _ args]
    · rw [lastEntries_congr options (lastCall_erased role args)]
      cases lastCall role args <;> rfl
  | constant v type | streamVariable id streamId type => rfl
  | storeVariable storeId attr type =>
    simp only [erased, entries, columnEntries]
    split <;> rfl

theorem entriesOfArgs_erased (options : CompileOptions) (p first : Bool) (args : List Expr) :
    entriesOfArgs options p first (erasedArgs args) =
      (entriesOfArgs options p first args).map Entry.erased := by
  cases args with
  | nil => rfl
  | cons arg rest =>
    cases first <;>
      simp [erasedArgs, entriesOfArgs, Entry.erased, entries_erased options .free _ arg,
        entriesOfArgs_erased options _ _ rest]

end

end Expr

/-- A named value with nothing left but its name and its kind. -/
def NamedValue.erased : NamedValue → NamedValue := Prod.map id ValueHolder.erased

namespace Draft

/-- The draft with nothing left of its values but their kinds. -/
def erased (d : Draft) : Draft :=
  { d with placeholders := d.placeholders.map NamedValue.erased }

theorem write_erased (options : CompileOptions) (d : Draft) (entry : Entry) :
    d.erased.write options entry.erased = (d.write options entry).erased := by
  cases entry with
  | value pattern holder =>
    simp [write, erased, Entry.erased, PlaceholderTable.insert, NamedValue.erased]
  | _ => rfl

theorem foldl_write_erased (options : CompileOptions) (d : Draft) (entries : List Entry) :
    (entries.map Entry.erased).foldl (write options) d.erased =
      (entries.foldl (write options) d).erased := by
  rw [List.foldl_map]
  exact List.foldl_hom erased (fun d entry => write_erased options d entry)

end Draft

section Scan

variable (table : PlaceholderTable)

theorem get?_erased (name : String) :
    PlaceholderTable.get? (table.map NamedValue.erased) name =
      (table.get? name).map ValueHolder.erased := by
  simp [PlaceholderTable.get?, NamedValue.erased, List.find?_map, Function.comp_def]

theorem glyphs_fragmentPieces_erased (fragment : List Char) :
    (fragmentPieces (table.map NamedValue.erased) fragment).flatMap Piece.glyphs =
      ((fragmentPieces table fragment).flatMap Piece.glyphs).map (Glyph.map NamedValue.erased) := by
  unfold fragmentPieces
  cases splitClosing? fragment with
  | none => simp [Piece.glyphs, Template.ofChars]
  | some parts =>
    simp only [get?_erased]
    cases table.get? (String.ofList parts.1) <;>
      simp [Piece.glyphs, Template.ofChars, NamedValue.erased]

/-- Which brackets of a text are markers is a matter of the names that are known. -/
theorem scan_erased (cs : List Char) :
    scan (table.map NamedValue.erased) cs =
      (scan table cs).map (Glyph.map NamedValue.erased) := by
  simp [scan, pieces, Piece.glyphs, Template.ofChars, List.flatMap_assoc, List.map_flatMap,
    glyphs_fragmentPieces_erased]

end Scan

namespace Parametrized

/-- The result with nothing left of its values but their kinds. -/
def erased (p : Parametrized) : Parametrized :=
  { p with parameters := p.parameters.map ValueHolder.erased }

theorem ofTemplate_erased (t : Template NamedValue) :
    ofTemplate (t.map (Glyph.map NamedValue.erased)) = (ofTemplate t).erased := by
  simp only [ofTemplate, erased, Template.trimmed_map, Template.shown_map, Template.slots_map,
    Template.offsets_map, ← OrdinalMap.map_enumerate, OrdinalMap.map_map,
    OrdinalMap.ordinalsWhere_map]
  rfl

end Parametrized

namespace Expr

theorem draft_erased (options : CompileOptions) (e : Expr) :
    e.erased.draft options = (e.draft options).erased := by
  have written :
      (e.erased.entries options .free false).foldl (Draft.write options) (Draft.start options) =
        Draft.erased
          ((e.entries options .free false).foldl (Draft.write options) (Draft.start options)) := by
    rw [entries_erased]
    exact Draft.foldl_write_erased options (Draft.start options) _
  simp only [draft, Draft.after, written]
  rfl

theorem finish_erased (options : CompileOptions) (e : Expr) (d : Draft) :
    e.erased.finish options d.erased = (e.finish options d).erased := by
  have membership : e.erased.isMembership = e.isMembership := by cases e <;> rfl
  have scanned : parametrize d.erased.text d.erased.placeholders =
      (parametrize d.text d.placeholders).erased := by
    rw [parametrize_eq, parametrize_eq, ← Parametrized.ofTemplate_erased, ← scan_erased]
    rfl
  simp only [finish, membership, scanned]
  rfl

/-- Without its values a tree compiles to what it compiles to, but for the values. -/
theorem compile_erased (options : CompileOptions) (e : Expr) :
    erasedOutcome (e.erased.compile options) = erasedOutcome (e.compile options) := by
  have fault := fault_erased .free e
  rw [compile_eq, compile_eq, draft_erased, finish_erased]
  cases faulty : e.erased.fault .free with
  | some err =>
    rw [faulty, eq_comm, Option.map_some, Option.map_eq_some_iff] at fault
    obtain ⟨err', faulty', shown⟩ := fault
    simp [faulty', erasedOutcome, Except.mapError, Except.map, shown]
  | none =>
    rw [faulty, eq_comm, Option.map_none, Option.map_eq_none_iff] at fault
    simp [fault, erasedOutcome, Except.mapError, Except.map]

/-- Two trees that are equal but for values, ids, types, and names of streams and stores fail with
the same error, but for the argument that it shows, or they compile to conditions that are alike. -/
theorem compile_of_erased_eq {e e' : Expr} (same : e.erased = e'.erased)
    (options : CompileOptions) :
    match e.compile options, e'.compile options with
    | .ok c, .ok c' => c.Alike c'
    | .error err, .error err' => err.erased = err'.erased
    | _, _ => False := by
  have outcome : erasedOutcome (e.compile options) = erasedOutcome (e'.compile options) := by
    rw [← compile_erased, same, compile_erased]
  cases result : e.compile options with
  | error err =>
    cases result' : e'.compile options with
    | error err' =>
      rw [result, result'] at outcome
      exact Except.error.inj outcome
    | ok c' =>
      rw [result, result'] at outcome
      cases outcome
  | ok c =>
    cases result' : e'.compile options with
    | error err' =>
      rw [result, result'] at outcome
      cases outcome
    | ok c' =>
      rw [result, result'] at outcome
      exact .of_erased (Except.ok.inj outcome)

/-- Two trees that name a column like a marker and differ in their values. -/
def markerColumn (first second : Literal) (id : String) : Expr :=
  .and
    (.compare .equal (.storeVariable id "[const1]" .int) (.constant first .int))
    (.compare .equal (.constant second .int) (.streamVariable id (some id) .long))

theorem alike_of_markerColumn :
    ∃ c c', (markerColumn .null (.long 7) "a").compile (.forTable "T") = .ok c ∧
      (markerColumn (.string "[streamVar0]") (.bool true) "b").compile (.forTable "T") = .ok c' ∧
      c.Alike c' ∧ c.text = "(((T.? = ?)) AND (? = ?))" := by
  have same : (markerColumn .null (.long 7) "a").erased =
      (markerColumn (.string "[streamVar0]") (.bool true) "b").erased := rfl
  have alike := compile_of_erased_eq same (.forTable "T")
  have compiled := compile_eq (.forTable "T") (markerColumn .null (.long 7) "a")
  have compiled' := compile_eq (.forTable "T")
    (markerColumn (.string "[streamVar0]") (.bool true) "b")
  rw [compiled, compiled'] at alike
  exact ⟨_, _, compiled, compiled', alike, by decide +kernel⟩

end Expr

end ConditionQuery
