import ConditionQuery.Json.Shape
import Mathlib.Data.List.TakeWhile

/-! What a reader comes to on a text: the value it gets when it passes over the text, or that it
gets none. -/
namespace ConditionQuery.Json.Reading

variable {α β : Type} {x : Reading α} {f : α → Reading β} {text more after : List Char} {c : Char}
  {a : α} {o : Option α} {o' : Option β}

/-- What the reader comes to on the text if the rest follows: it passes over the text and gets a
value, or it fails. -/
def Comes (x : Reading α) (text after : List Char) : Option α → Prop
  | some a => ∀ p, ∃ p', x ⟨text ++ after, p⟩ = .ok a ⟨after, p'⟩
  | none => ∀ p, ∃ failure c, x ⟨text ++ after, p⟩ = .error failure c

/-- A value ends with the text, or where the brackets around it go on. -/
def Delimits (after : List Char) : Prop := ∀ c ∈ after.head?, c ∈ [',', ']', '}']

theorem delimits_nil : Delimits [] := fun _ head => absurd head (Option.not_mem_none _)

theorem delimits_cons (known : c ∈ [',', ']', '}']) (after : List Char) : Delimits (c :: after) := by
  rintro _ ⟨⟩
  exact known

/-- A run of characters to which no delimiter belongs ends before one. -/
theorem Delimits.stops {p : Char → Bool} (delimits : Delimits after)
    (others : [',', ']', '}'].any p = false) : ∀ c ∈ after.head?, p c = false := by
  intro c head
  simpa using List.any_eq_false.1 others c (delimits c head)

theorem Comes.bind (first : x.Comes text (more ++ after) (some a))
    (next : (f a).Comes more after o') : (x >>= f).Comes (text ++ more) after o' := by
  have runs (p : Position) : ∃ q, (x >>= f) ⟨text ++ more ++ after, p⟩ =
      f a ⟨more ++ after, q⟩ := by
    obtain ⟨q, read⟩ := first p
    refine ⟨q, ?_⟩
    change EStateM.bind x f _ = _
    rw [List.append_assoc, EStateM.bind, read]
  cases o' with
  | some b =>
    intro p
    obtain ⟨q, run⟩ := runs p
    rw [run]
    exact next q
  | none =>
    intro p
    obtain ⟨q, run⟩ := runs p
    rw [run]
    exact next q

theorem Comes.bind_end (first : x.Comes text after (some a)) (next : (f a).Comes [] after o') :
    (x >>= f).Comes text after o' := by
  have read : x.Comes text ([] ++ after) (some a) := first
  have both := read.bind next
  rwa [List.append_nil] at both

theorem Comes.bind_none (first : x.Comes text after none) : (x >>= f).Comes text after none := by
  intro p
  obtain ⟨failure, c, read⟩ := first p
  refine ⟨failure, c, ?_⟩
  change EStateM.bind x f _ = _
  rw [EStateM.bind, read]

/-- What the readers come to one after the other. -/
theorem Comes.seq {g : α → Option β} (first : x.Comes text (more ++ after) o)
    (next : ∀ a, (f a).Comes more after (g a)) :
    (x >>= f).Comes (text ++ more) after (o >>= g) := by
  cases o with
  | some a => exact first.bind (next a)
  | none =>
    intro p
    obtain ⟨failure, c, read⟩ := first p
    refine ⟨failure, c, ?_⟩
    change EStateM.bind x f _ = _
    rw [List.append_assoc, EStateM.bind, read]

theorem comes_pure (a : α) (after : List Char) : (pure a : Reading α).Comes [] after (some a) :=
  fun p => ⟨p, rfl⟩

theorem Comes.map (g : α → β) (reads : x.Comes text after (some a)) :
    (x >>= fun a => pure (g a)).Comes text after (some (g a)) :=
  reads.bind_end (comes_pure (g a) after)

/-- A reader that passes over nothing, as far as the text shows. -/
theorem Comes.look (looks : ∀ p, x ⟨text ++ after, p⟩ = .ok a ⟨text ++ after, p⟩)
    (next : (f a).Comes text after o') : (x >>= f).Comes text after o' := by
  have read : x.Comes [] (text ++ after) (some a) := fun p => ⟨p, looks p⟩
  exact read.bind next

theorem comes_unplaced (cause : Mismatch) (text after : List Char) :
    (unplaced cause : Reading α).Comes text after none :=
  fun _ => ⟨_, _, rfl⟩

theorem Comes.peek? {f : Option Char → Reading β}
    (next : (f (text ++ after).head?).Comes text after o') :
    (Reading.peek? >>= f).Comes text after o' :=
  .look (fun _ => rfl) next

theorem Comes.rest {f : List Char → Reading β} (next : (f (text ++ after)).Comes text after o') :
    (Reading.rest >>= f).Comes text after o' :=
  .look (fun _ => rfl) next

theorem Comes.skip {f : Unit → Reading β} (next : (f ()).Comes text after o') :
    (Reading.skip >>= f).Comes (c :: text) after o' := by
  have read : Reading.skip.Comes [c] (text ++ after) (some ()) := fun _ => ⟨_, rfl⟩
  exact read.bind next

/-- A token begins where no gap is. -/
theorem token?_eq_ok (solid : isGap c = false) (cs : List Char) (p : Position) :
    Reading.token? ⟨c :: cs, p⟩ = .ok (some c) ⟨c :: cs, p⟩ := by
  have stays : (skipWhile isGap : Reading Unit) ⟨c :: cs, p⟩ = .ok () ⟨c :: cs, p⟩ := by
    change EStateM.Result.ok () _ = _
    simp [solid]
  change EStateM.bind (skipWhile isGap) (fun _ => Reading.peek?) _ = _
  rw [EStateM.bind, stays]
  rfl

theorem Comes.token? {f : Option Char → Reading β} (head : (text ++ after).head? = some c)
    (solid : isGap c = false) (next : (f (some c)).Comes text after o') :
    (Reading.token? >>= f).Comes text after o' := by
  refine .look ?_ next
  intro p
  obtain ⟨cs, form⟩ := List.head?_eq_some_iff.1 head
  rw [form]
  exact token?_eq_ok solid cs p

theorem comes_skipWhile {p : Char → Bool} (all : ∀ c ∈ text, p c = true)
    (stops : ∀ c ∈ after.head?, p c = false) : (skipWhile p).Comes text after (some ()) := by
  have passed : (text ++ after).dropWhile p = after := by
    rw [List.dropWhile_append_of_pos all]
    cases after with
    | nil => rfl
    | cons c cs => exact List.dropWhile_cons_of_neg (by simp [stops c rfl])
  intro q
  refine ⟨((text ++ after).takeWhile p).foldl Position.after q, ?_⟩
  change EStateM.Result.ok () (Cursor.mk ((text ++ after).dropWhile p) _) = _
  rw [passed]

theorem token?_bind (f : Option Char → Reading β) :
    Reading.token? >>= f = skipWhile isGap >>= fun _ => Reading.peek? >>= f :=
  bind_assoc _ _ _

theorem Comes.gaps {gaps : List Char} {f : Option Char → Reading β}
    (all : ∀ c ∈ gaps, isGap c = true) (head : (text ++ after).head? = some c)
    (solid : isGap c = false) (next : (f (some c)).Comes text after o') :
    (Reading.token? >>= f).Comes (gaps ++ text) after o' := by
  have stops : ∀ d ∈ (text ++ after).head?, isGap d = false := by
    rw [head]
    rintro _ ⟨⟩
    exact solid
  rw [token?_bind]
  exact (comes_skipWhile all stops).bind (.peek? (head ▸ next))

theorem comes_word (cs after : List Char) : (word cs).Comes cs after (some ()) := by
  induction cs with
  | nil => exact comes_pure () after
  | cons c cs ih =>
    rw [word]
    apply Comes.peek?
    simp only [List.cons_append, List.head?_cons, ne_eq, not_true_eq_false, if_false]
    exact Comes.skip ih

theorem comes_hexUnit (a b c d : Char) (after : List Char) :
    hexUnit.Comes [a, b, c, d] after (Text.hexNumber? [a, b, c, d]) := by
  apply Comes.rest
  simp only [List.cons_append, List.nil_append, List.take_succ_cons, List.take_zero]
  cases Text.hexNumber? [a, b, c, d] with
  | none => exact fun p => ⟨_, _, rfl⟩
  | some n => exact fun p => ⟨_, rfl⟩

theorem tryCatch_ok {handle : Failure → Reading α} {c c' : Cursor} (read : x c = .ok a c') :
    tryCatch x handle c = .ok a c' :=
  calc
    tryCatch x handle c = tryCatch (fun _ => x c : Reading α) handle c := rfl
    _ = tryCatch (fun _ => .ok a c' : Reading α) handle c := by rw [read]
    _ = .ok a c' := rfl

theorem Comes.under (step : Step) (reads : x.Comes text after (some a)) :
    (Reading.under step x).Comes text after (some a) := by
  intro p
  obtain ⟨q, read⟩ := reads p
  exact ⟨q, tryCatch_ok read⟩

theorem Comes.settledBy (settle : Reading Unit) (reads : x.Comes text after (some a)) :
    (Reading.settledBy settle x).Comes text after (some a) := by
  intro p
  obtain ⟨q, read⟩ := reads p
  exact ⟨q, tryCatch_ok read⟩

theorem bind_eq_ok {b : β} {c c' : Cursor} :
    (x >>= f) c = .ok b c' ↔ ∃ a m, x c = .ok a m ∧ f a m = .ok b c' := by
  change EStateM.bind x f c = _ ↔ _
  unfold EStateM.bind
  cases x c with
  | ok a m =>
    constructor
    · exact fun read => ⟨a, m, rfl, read⟩
    · rintro ⟨_, _, ⟨⟩, read⟩
      exact read
  | error failure m =>
    constructor
    · exact nofun
    · rintro ⟨_, _, ⟨⟩, _⟩

theorem runPart_eq_ok {bytes : ByteArray} :
    runPart x bytes = .ok a ↔ ∃ c, x (Cursor.ofBytes bytes) = .ok a c := by
  unfold runPart
  split
  · rename_i b c reads
    constructor
    · rintro ⟨⟩
      exact ⟨c, reads⟩
    · rintro ⟨_, reads'⟩
      cases reads.symm.trans reads'
      rfl
  · rename_i failure c fails
    constructor
    · exact nofun
    · rintro ⟨_, reads⟩
      cases fails.symm.trans reads

theorem Comes.runPart {bytes : ByteArray} (reads : x.Comes (Text.octets bytes) [] (some a)) :
    Reading.runPart x bytes = .ok a := by
  obtain ⟨p, read⟩ := reads ⟨1, 0⟩
  rw [List.append_nil] at read
  exact runPart_eq_ok.2 ⟨_, read⟩

/-- Where a text ends, nothing but gaps may be left. -/
theorem exists_of_run {text : String} (read : run x text = .ok a) :
    ∃ c, x (Cursor.ofBytes text.toUTF8) = .ok a c ∧ ∀ d ∈ c.rest, isGap d = true := by
  obtain ⟨c, whole⟩ := runPart_eq_ok.1 read
  obtain ⟨b, m, first, rest⟩ := bind_eq_ok.1 whole
  obtain ⟨_, _, finished, last⟩ := bind_eq_ok.1 rest
  cases last
  refine ⟨m, first, ?_⟩
  obtain ⟨_, _, looked, ended⟩ := bind_eq_ok.1 finished
  cases looked
  split at ended
  · contradiction
  · rename_i none
    rw [Option.not_isSome_iff_eq_none, List.head?_eq_none_iff] at none
    exact List.dropWhile_eq_nil_iff.1 none

/-! What holds of whatever a reader gets. -/

/-- Of the value and the place that the reader comes to. -/
def Ensures (x : Reading α) (P : α → Cursor → Prop) : Prop := ∀ c a c', x c = .ok a c' → P a c'

theorem ensures_pure {P : α → Cursor → Prop} (holds : ∀ c, P a c) :
    (pure a : Reading α).Ensures P := by
  rintro c _ _ ⟨⟩
  exact holds c

theorem Ensures.last {P : β → Cursor → Prop} (next : ∀ a, (f a).Ensures P) :
    (x >>= f).Ensures P := by
  intro c b c' read
  obtain ⟨a, m, -, read⟩ := bind_eq_ok.1 read
  exact next a m b c' read

theorem Ensures.map {P : α → Cursor → Prop} {Q : β → Cursor → Prop} {g : α → β}
    (first : x.Ensures P) (next : ∀ a c, P a c → Q (g a) c) :
    (x >>= fun a => pure (g a)).Ensures Q := by
  intro c b c' read
  obtain ⟨a, m, read, made⟩ := bind_eq_ok.1 read
  cases made
  exact next a c' (first c a c' read)

/-- The reader reads nothing. -/
def Fruitless (x : Reading α) : Prop := ∀ c a c', x c ≠ .ok a c'

theorem Fruitless.ensures {P : α → Cursor → Prop} (fruitless : x.Fruitless) : x.Ensures P :=
  fun c a c' read => absurd read (fruitless c a c')

theorem fruitless_fail (cause : Malformed) : (fail cause : Reading α).Fruitless :=
  fun _ _ _ => nofun

theorem fruitless_failNext (cause : Malformed) : (failNext cause : Reading α).Fruitless :=
  fun _ _ _ => nofun

theorem fruitless_mismatch (cause : Mismatch) : (mismatch cause : Reading α).Fruitless :=
  fun _ _ _ => nofun

theorem fruitless_throw (failure : Failure) : (throw failure : Reading α).Fruitless :=
  fun _ _ _ => nofun

theorem Fruitless.bind (fruitless : x.Fruitless) : (x >>= f).Fruitless := by
  intro c b c' read
  obtain ⟨a, m, read, -⟩ := bind_eq_ok.1 read
  exact fruitless c a m read

theorem Fruitless.last (fruitless : ∀ a, (f a).Fruitless) : (x >>= f).Fruitless := by
  intro c b c' read
  obtain ⟨a, m, -, rest⟩ := bind_eq_ok.1 read
  exact fruitless a m b c' rest

theorem eq_ok_of_tryCatch {handle : Failure → Reading α} {c c' : Cursor}
    (fruitless : ∀ failure, (handle failure).Fruitless)
    (read : tryCatch x handle c = .ok a c') : x c = .ok a c' := by
  have whole : tryCatch x handle c = tryCatch (fun _ => x c : Reading α) handle c := rfl
  cases reads : x c with
  | ok b m =>
    rw [whole, reads] at read
    exact read
  | error failure m =>
    rw [whole, reads] at read
    exact absurd read (fruitless failure m a c')

theorem eq_ok_of_under {step : Step} {c c' : Cursor} (read : under step x c = .ok a c') :
    x c = .ok a c' :=
  eq_ok_of_tryCatch (fun _ => fruitless_throw _) read

theorem eq_ok_of_settledBy {settle : Reading Unit} {c c' : Cursor}
    (read : settledBy settle x c = .ok a c') : x c = .ok a c' :=
  eq_ok_of_tryCatch (fun _ => .last fun _ => .last fun _ => fruitless_throw _) read

end ConditionQuery.Json.Reading
