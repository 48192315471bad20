import ConditionQuery.Proofs.Entries

/-! The walk over a tree ends in the first fault of the tree, or else it makes the entries of the
tree in the draft that it was started with. -/
namespace ConditionQuery

namespace Emit

/-- Started with the given pattern flag, the action ends in the fault, or else it makes the entries
and leaves the other flag. -/
def Performs (options : CompileOptions) (action : Emit Unit) (before : Bool)
    (fault : Option CompileError) (entries : List Entry) (after : Bool) : Prop :=
  ∀ d : Draft, d.patternNext = before → action.run d =
    match fault with
    | some err => .error err
    | none => .ok ((), d.after options entries after)

variable {options : CompileOptions} {first second : Emit Unit} {p q r : Bool}
  {fault fault' : Option CompileError} {entries entries' : List Entry}

theorem Performs.bind (head : Performs options first p fault entries q)
    (tail : Performs options second q fault' entries' r) :
    Performs options (first >>= fun _ => second) p (fault.or fault') (entries ++ entries') r := by
  intro d start
  rw [StateT.run_bind, head d start]
  cases fault with
  | some err => rfl
  | none =>
    have rest := tail (d.after options entries q) rfl
    cases fault' <;> simpa [bind, Except.bind, Draft.after_after] using rest

theorem Performs.idle : Performs options (pure ()) p none [] p := by
  intro d start
  subst start
  rfl

theorem Performs.token (t : String) : Performs options (token t) p none [.token t] p := by
  intro d start
  subst start
  rfl

theorem Performs.constant (v : Literal) (type : AttributeType) :
    Performs options (constant v type) p none [.value p (.constant v type)] false := by
  intro d start
  subst start
  rfl

theorem Performs.streamVariable (id : String) (type : AttributeType) :
    Performs options (streamVariable id type) p none [.value p (.event id type)] false := by
  intro d start
  subst start
  rfl

theorem Performs.storeVariable (role : Expr.Role) (attr : String) :
    Performs options (storeVariable options role attr) p none
      (Expr.columnEntries options role attr) p := by
  intro d start
  subst start
  unfold Emit.storeVariable Expr.columnEntries Expr.columnText
  by_cases bare : options.afterSelect
  · simp only [bare, if_true]
    rfl
  · by_cases key : role = .joinKey
    · simp [bare, key]
      rfl
    · simp [bare, key]
      rfl

theorem lift_ok {α : Type} (a : α) (next : α → Emit Unit) :
    ((liftM (Except.ok a : Except CompileError α) : Emit α) >>= next) = next a := rfl

theorem Performs.fail {α : Type} (err : CompileError) (next : α → Emit Unit) :
    Performs options ((liftM (Except.error err : Except CompileError α) : Emit α) >>= next) p
      (some err) entries q := fun _ _ => rfl

theorem Performs.last (role : Expr.Role) (args : List Expr) :
    Performs options
      (do
        let (value, key) ← Expr.lastPair role (← Expr.lastOperands args)
        Emit.last options value key)
      p (Expr.faultOf (Expr.lastCall role args))
      (Expr.lastEntries options (Expr.lastCall role args)) p := by
  unfold Expr.lastCall
  cases Expr.lastOperands args with
  | error err => exact Performs.fail err _
  | ok operands =>
    have paired : (Except.ok operands >>= Expr.lastPair role) = Expr.lastPair role operands := rfl
    rw [lift_ok, paired]
    cases Expr.lastPair role operands with
    | error err => exact Performs.fail err _
    | ok pair =>
      intro d start
      subst start
      rfl

/-- A text search has a flag of its own for its arguments. -/
theorem Performs.search (arguments : Performs options first true fault entries q)
    (tail : Performs options second p fault' entries' r) :
    Performs options
      (exchangePattern true >>= fun outer => first >>= fun _ => exchangePattern outer >>=
        fun _ => second)
      p (fault.or fault') (entries ++ entries') r := by
  intro d start
  subst start
  have inner := arguments { d with patternNext := true } rfl
  rw [StateT.run_bind]
  change ((first >>= fun _ => exchangePattern d.patternNext >>= fun _ => second).run
    { d with patternNext := true }) = _
  rw [StateT.run_bind, inner]
  cases fault with
  | some err => rfl
  | none =>
    have restored : Draft.after options entries d.patternNext d =
        { Draft.after options entries q { d with patternNext := true } with
          patternNext := d.patternNext } := by
      simp only [Draft.after, Draft.foldl_write_patternNext]
    have rest := tail (d.after options entries d.patternNext) rfl
    rw [Draft.after_after, restored] at rest
    exact rest

end Emit

namespace Expr
open Emit

variable {options : CompileOptions}

mutual

theorem emit_performs (role : Role) (e : Expr) (p : Bool) :
    Performs options (emit options role e) p (e.fault role) (e.entries options role p)
      (p && !e.hasOwnValue) := by
  cases e with
  | and left right =>
    have whole := (Performs.token "(").bind <| (Performs.token "(").bind <|
      (emit_performs .free left p).bind <| (Performs.token ")").bind <|
      (Performs.token "AND").bind <| (emit_performs .free right _).bind <| Performs.token ")"
    simpa [emit, fault, entries, hasOwnValue, Bool.and_assoc] using whole
  | or left right =>
    have whole := (Performs.token "(").bind <| (Performs.token "(").bind <|
      (emit_performs .free left p).bind <| (Performs.token ")").bind <|
      (Performs.token "OR").bind <| (emit_performs .free right _).bind <| Performs.token ")"
    simpa [emit, fault, entries, hasOwnValue, Bool.and_assoc] using whole
  | not operand =>
    have whole := (Performs.token "NOT").bind <| (Performs.token "(").bind <|
      (emit_performs .free operand p).bind <| Performs.token ")"
    simpa [emit, fault, entries, hasOwnValue] using whole
  | compare op left right =>
    have whole := (Performs.token "(").bind <|
      (emit_performs (roles op left right).1 left p).bind <| (Performs.token op.token).bind <|
      (emit_performs (roles op left right).2 right _).bind <| Performs.token ")"
    simpa [emit, fault, entries, hasOwnValue, Bool.and_assoc] using whole
  | isNull operand =>
    have whole := (emit_performs .free operand p).bind <| Performs.token "IS NULL"
    simpa [emit, fault, entries, hasOwnValue] using whole
  | isIn storeId operand =>
    have whole := (Performs.token "IN").bind <| emit_performs .free operand p
    simpa [emit, fault, entries, hasOwnValue] using whole
  | math op left right =>
    have whole := (Performs.token "(").bind <| (emit_performs .free left p).bind <|
      (Performs.token op.token).bind <| (emit_performs .free right _).bind <| Performs.token ")"
    simpa [emit, fault, entries, hasOwnValue, Bool.and_assoc] using whole
  | function space name args =>
    cases named : Call.ofName? space name with
    | none =>
      simp only [emit, fault, Call.ofName, named]
      exact Performs.fail _ _
    | some call =>
      cases call with
      | aggregate =>
        have whole := (Performs.token (name ++ "(")).bind <|
          (emitArgs_performs true args p).bind <| Performs.token ")"
        simpa [emit, fault, entries, hasOwnValue, Call.ofName, named, lift_ok] using whole
      | contains =>
        have whole := (Performs.token "CONTAINS(").bind <|
          (emitArgs_performs true args true).search <| Performs.token (p := p) ")"
        simpa [emit, fault, entries, hasOwnValue, Call.ofName, named, lift_ok] using whole
      | last =>
        have whole : Performs options _ p _ _ p := Performs.last role args
        simpa [emit, fault, entries, hasOwnValue, Call.ofName, named, lift_ok] using whole
  | constant v type =>
    simpa [emit, fault, entries, hasOwnValue] using Performs.constant v type
  | streamVariable id streamId type =>
    simpa [emit, fault, entries, hasOwnValue] using Performs.streamVariable id type
  | storeVariable storeId attr type =>
    simpa [emit, fault, entries, hasOwnValue] using Performs.storeVariable role attr

theorem emitArgs_performs (first : Bool) (args : List Expr) (p : Bool) :
    Performs options (emitArgs options first args) p (faultOfArgs args)
      (entriesOfArgs options p first args) (p && !someHasOwnValue args) := by
  cases args with
  | nil => simpa [emitArgs, faultOfArgs, entriesOfArgs, someHasOwnValue] using Performs.idle
  | cons arg rest =>
    have whole := (emit_performs .free arg p).bind <| emitArgs_performs false rest _
    cases first with
    | true =>
      simpa [emitArgs, faultOfArgs, entriesOfArgs, someHasOwnValue, Bool.and_assoc] using whole
    | false =>
      have separated := (Performs.token ",").bind whole
      simpa [emitArgs, faultOfArgs, entriesOfArgs, someHasOwnValue, Bool.and_assoc] using separated

end

end Expr
end ConditionQuery
