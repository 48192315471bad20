import ConditionQuery.Proofs.Numerals

/-! Texts in place. What a reader reads where a text ends, it reads where the brackets around the
text go on: it looks at no more of what follows than that a value cannot go on there. -/
namespace ConditionQuery.Json.Reading

variable {α β : Type} {x y : Reading α} {f g : α → Reading β} {cs after : List Char}

/-- What the one reader reads of the text, where it ends, the other reads of it where the rest
follows, up to the same place. -/
def Carries (x y : Reading α) (cs after : List Char) : Prop :=
  ∀ p a c, x ⟨cs, p⟩ = .ok a c →
    ∃ text, cs = text ++ c.rest ∧ y.Comes text (c.rest ++ after) (some a)

theorem Fruitless.carries (fruitless : x.Fruitless) : x.Carries y cs after :=
  fun _ a c read => absurd read (fruitless _ a c)

theorem carries_pure (a : α) : (pure a : Reading α).Carries (pure a) cs after := by
  rintro p _ _ ⟨⟩
  exact ⟨[], rfl, comes_pure a _⟩

theorem Carries.bind_of_ok (first : x.Carries y cs after)
    (next : ∀ p a c, x ⟨cs, p⟩ = .ok a c → (f a).Carries (g a) c.rest after) :
    (x >>= f).Carries (y >>= g) cs after := by
  intro p b c read
  obtain ⟨a, m, begun, read⟩ := bind_eq_ok.1 read
  obtain ⟨text, form, reads⟩ := first p a m begun
  obtain ⟨more, form', reads'⟩ := next p a m begun m.position b c read
  refine ⟨text ++ more, ?_, ?_⟩
  · rw [form, form', List.append_assoc]
  · rw [form', List.append_assoc] at reads
    exact reads.bind reads'

theorem Carries.bind (first : x.Carries y cs after)
    (next : ∀ a cs, (f a).Carries (g a) cs after) : (x >>= f).Carries (y >>= g) cs after :=
  first.bind_of_ok fun _ a c _ => next a c.rest

theorem Carries.map (carries : x.Carries y cs after) (g : α → β) :
    (x >>= fun a => pure (g a)).Carries (y >>= fun a => pure (g a)) cs after :=
  carries.bind fun _ _ => carries_pure _

theorem Carries.under (carries : x.Carries y cs after) (step : Step) :
    (Reading.under step x).Carries (Reading.under step y) cs after := by
  intro p a c read
  obtain ⟨text, form, reads⟩ := carries p a c (eq_ok_of_under read)
  exact ⟨text, form, reads.under step⟩

theorem Carries.rest {f g : List Char → Reading β}
    (next : (f cs).Carries (g (cs ++ after)) cs after) :
    (Reading.rest >>= f).Carries (Reading.rest >>= g) cs after := by
  intro p b c read
  obtain ⟨text, form, reads⟩ := next p b c read
  refine ⟨text, form, .rest ?_⟩
  rw [← List.append_assoc, ← form]
  exact reads

theorem Carries.peek? {f g : Option Char → Reading β}
    (next : (f cs.head?).Carries (g (cs ++ after).head?) cs after) :
    (Reading.peek? >>= f).Carries (Reading.peek? >>= g) cs after := by
  intro p b c read
  obtain ⟨text, form, reads⟩ := next p b c read
  refine ⟨text, form, .peek? ?_⟩
  rw [← List.append_assoc, ← form]
  exact reads

/-- A reader that fails where the text ends does not see what follows. -/
theorem Carries.next? {f g : Option Char → Reading β} (ends : (f none).Fruitless)
    (goes : ∀ c cs, (f (some c)).Carries (g (some c)) (c :: cs) after) :
    (Reading.peek? >>= f).Carries (Reading.peek? >>= g) cs after := by
  apply Carries.peek?
  cases cs with
  | nil => exact ends.carries
  | cons c cs => exact goes c cs

theorem Carries.skip {f g : Unit → Reading β} {c : Char}
    (next : (f ()).Carries (g ()) cs after) :
    (Reading.skip >>= f).Carries (Reading.skip >>= g) (c :: cs) after := by
  intro p b m read
  obtain ⟨text, form, reads⟩ := next _ b m read
  exact ⟨c :: text, congrArg (c :: ·) form, reads.skip⟩

theorem carries_skipWhile {p : Char → Bool} (stops : ∀ c ∈ after.head?, p c = false)
    (cs : List Char) : (skipWhile p).Carries (skipWhile p) cs after := by
  rintro q _ _ ⟨⟩
  refine ⟨cs.takeWhile p, List.takeWhile_append_dropWhile.symm, ?_⟩
  apply comes_skipWhile
  · exact fun c => List.mem_takeWhile_imp
  · intro c head
    dsimp only at head
    cases form : cs.dropWhile p with
    | nil =>
      rw [form] at head
      exact stops c head
    | cons d ds =>
      rw [form] at head
      obtain rfl : d = c := by simpa using head
      have stopped := List.head?_dropWhile_not p cs
      rwa [form] at stopped

theorem Carries.token? {f g : Option Char → Reading β} (delimits : Delimits after)
    (ends : (f none).Fruitless)
    (goes : ∀ c cs, (f (some c)).Carries (g (some c)) (c :: cs) after) :
    (Reading.token? >>= f).Carries (Reading.token? >>= g) cs after := by
  rw [token?_bind, token?_bind]
  exact (carries_skipWhile (delimits.stops rfl) cs).bind fun _ _ => .next? ends goes

theorem carries_word (text cs : List Char) : (word text).Carries (word text) cs after := by
  induction text generalizing cs with
  | nil => exact carries_pure _
  | cons c text ih =>
    apply Carries.next?
    · exact fun _ _ _ => nofun
    · intro d ds
      dsimp only
      split
      · exact (fruitless_failNext _).bind.carries
      · exact .skip (ih _)

/-! Strings. -/

theorem carries_hexUnit (cs : List Char) : hexUnit.Carries hexUnit cs after := by
  rcases cs with _ | ⟨a, _ | ⟨b, _ | ⟨c, _ | ⟨d, cs⟩⟩⟩⟩
  case cons.cons.cons.cons =>
    intro p n m read
    have alone := comes_hexUnit a b c d cs
    have inside := comes_hexUnit a b c d (cs ++ after)
    cases value : Text.hexNumber? [a, b, c, d] with
    | none =>
      rw [value] at alone
      obtain ⟨failure, m', fails⟩ := alone p
      cases read.symm.trans fails
    | some n' =>
      rw [value] at alone inside
      obtain ⟨q, reads⟩ := alone p
      cases read.symm.trans reads
      exact ⟨[a, b, c, d], rfl, inside⟩
  all_goals
    apply Carries.rest
    apply Fruitless.carries
    apply Fruitless.last
    intro _
    rw [if_pos (by simp)]
    exact (fruitless_fail _).bind

theorem carries_pairMark (mark : Char) (cs : List Char) :
    (pairMark mark).Carries (pairMark mark) cs after := by
  apply Carries.next? (fruitless_fail _)
  intro c cs
  dsimp only
  split
  · exact Carries.skip (f := pure) (g := pure) (carries_pure ())
  · exact (fruitless_failNext _).carries

theorem carries_unicodeEscape (cs : List Char) : unicodeEscape.Carries unicodeEscape cs after := by
  apply (carries_hexUnit cs).bind
  intro unit cs
  dsimp only
  split
  · exact (fruitless_fail _).bind.carries
  split
  · exact carries_pure _
  apply (carries_pairMark _ _).bind
  intro _ cs
  apply (carries_pairMark _ _).bind
  intro _ cs
  apply (carries_hexUnit cs).bind
  intro second cs
  split
  · exact (fruitless_fail _).bind.carries
  · exact carries_pure _

theorem carries_escape (cs : List Char) : escape.Carries escape cs after := by
  apply Carries.next? (fruitless_fail _)
  intro c cs
  split
  · contradiction
  · exact .skip (carries_unicodeEscape cs)
  · split
    · exact .skip (carries_pure _)
    · exact (fruitless_failNext _).carries

-- In place the readers of strings, lists and objects count more that is left to read.
theorem carries_stringFrom {fuel fuel' : Nat} (more : fuel ≤ fuel') (front : ByteArray)
    (cs : List Char) : (stringFrom fuel front).Carries (stringFrom fuel' front) cs after := by
  induction fuel generalizing fuel' front cs with
  | zero => exact (fruitless_fail _).carries
  | succ fuel ih =>
    obtain ⟨fuel', rfl⟩ := Nat.exists_eq_add_one_of_ne_zero (Nat.ne_zero_of_lt more)
    have more := Nat.le_of_succ_le_succ more
    apply Carries.next? (fruitless_fail _)
    intro c cs
    split
    · contradiction
    · apply Carries.skip
      split
      · exact carries_pure _
      · exact (fruitless_fail _).carries
    · exact .skip ((carries_escape cs).bind fun _ _ => ih more _ _)
    · apply Carries.skip
      split
      · exact (fruitless_fail _).bind.carries
      · exact ih more _ _

theorem carries_string (cs : List Char) : string.Carries string cs after := by
  apply Carries.rest
  apply carries_stringFrom
  rw [List.length_append]
  omega

/-! What is left to read. -/

/-- Where the reader succeeds, something is left to read. -/
def Leaves (x : Reading α) : Prop := x.Ensures fun _ c => c.rest ≠ []

theorem leaves_token? {f : Option Char → Reading β}
    (next : ∀ d m, m.rest.head? = d → ∀ b c, f d m = .ok b c → c.rest ≠ []) :
    (token? >>= f).Leaves := by
  intro c b c' read
  obtain ⟨d, m, token, read⟩ := bind_eq_ok.1 read
  refine next d m ?_ b c' read
  cases token
  rfl

theorem ne_nil_of_head? {c : Char} (head : cs.head? = some c) : cs ≠ [] :=
  List.ne_nil_of_mem (List.mem_of_mem_head? head)

theorem leaves_hasItem (first : Bool) : (hasItem first).Leaves := by
  apply leaves_token?
  intro d m head b c read
  split at read
  · contradiction
  · cases read
    exact ne_nil_of_head? head
  · split at read
    · cases read
      exact ne_nil_of_head? head
    · refine Ensures.last (fun _ => leaves_token? ?_) m b c read
      intro d m head b c read
      split at read
      · contradiction
      · contradiction
      · cases read
        exact ne_nil_of_head? head
  · split at read
    · cases read
      exact ne_nil_of_head? head
    · contradiction

theorem leaves_hasMember (first : Bool) : (hasMember first).Leaves := by
  apply leaves_token?
  intro d m head b c read
  split at read
  · contradiction
  · cases read
    exact ne_nil_of_head? head
  · split at read
    · split at read
      · cases read
        exact ne_nil_of_head? head
      · contradiction
    · split at read
      · contradiction
      · refine Ensures.last (fun _ => leaves_token? ?_) m b c read
        intro d m head b c read
        split at read
        · contradiction
        · cases read
          exact ne_nil_of_head? head
        · contradiction
        · contradiction

theorem leaves_items (item : Nat → Reading α) : (items item).Leaves := by
  have itemsFrom (fuel index : Nat) : (itemsFrom item fuel index).Leaves := by
    induction fuel generalizing index with
    | zero => exact (fruitless_failNext _).ensures
    | succ fuel ih =>
      intro c b c' read
      obtain ⟨more, m, asked, read⟩ := bind_eq_ok.1 read
      cases more with
      | false =>
        cases read
        exact leaves_hasItem _ _ _ _ asked
      | true =>
        have later (a : α) : (do return a :: (← Reading.itemsFrom item fuel (index + 1)) :
            Reading (List α)).Leaves := (ih _).map fun _ _ left => left
        exact Ensures.last later m b c' read
  exact Ensures.last fun _ => itemsFrom _ _

theorem leaves_members (step : α → Reading α) (a : α) : (members step a).Leaves := by
  have membersFrom (fuel : Nat) (first : Bool) (a : α) :
      (membersFrom step fuel first a).Leaves := by
    induction fuel generalizing first a with
    | zero => exact (fruitless_failNext _).ensures
    | succ fuel ih =>
      intro c b c' read
      obtain ⟨more, m, asked, read⟩ := bind_eq_ok.1 read
      cases more with
      | false =>
        cases read
        exact leaves_hasMember _ _ _ _ asked
      | true => exact (Ensures.last fun _ => ih _ _) m b c' read
  exact Ensures.last fun _ => membersFrom _ _ _

theorem Carries.bind_leaving (first : x.Carries y cs after) (leaves : x.Leaves)
    (next : ∀ a c cs, (f a).Carries (g a) (c :: cs) after) :
    (x >>= f).Carries (y >>= g) cs after := by
  refine first.bind_of_ok fun p a m read => ?_
  obtain ⟨c, cs, form⟩ := List.exists_cons_of_ne_nil (leaves _ a m read)
  rw [form]
  exact next a c cs

section Delimited

variable (delimits : Delimits after)

include delimits

/-! Numbers. -/

/-- A number may end where the text ends, and so it may before a delimiter. -/
theorem Carries.peek_end {f : Option Char → Reading β} (comma : f (some ',') = f none)
    (bracket : f (some ']') = f none) (brace : f (some '}') = f none)
    (ends : (f none).Carries (f none) [] after)
    (goes : ∀ c cs, (f (some c)).Carries (f (some c)) (c :: cs) after) :
    (Reading.peek? >>= f).Carries (Reading.peek? >>= f) cs after := by
  apply Carries.peek?
  cases cs with
  | nil =>
    have same : f after.head? = f none := by
      cases after with
      | nil => rfl
      | cons c cs =>
        have known := delimits c rfl
        simp only [List.mem_cons, List.not_mem_nil, or_false] at known
        rcases known with rfl | rfl | rfl
        · exact comma
        · exact bracket
        · exact brace
    rw [List.nil_append, same]
    exact ends
  | cons c cs => exact goes c cs

omit delimits in
theorem carries_firstDigit (cs : List Char) : firstDigit.Carries firstDigit cs after := by
  apply Carries.next? (fruitless_fail _)
  intro c cs
  split
  · contradiction
  · split
    · exact (fruitless_failNext _).bind.carries
    · exact .skip (carries_pure _)

theorem carries_digits (cs : List Char) : digits.Carries digits cs after := by
  apply Carries.rest
  rw [delimits.takeWhile_isDigit]
  exact (carries_skipWhile delimits.notDigit cs).bind fun _ _ => carries_pure _

omit delimits in
theorem carries_scaled (positive : Bool) (significand : Nat) (e : Int) (cs : List Char) :
    (scaled positive significand e).Carries (scaled positive significand e) cs after := by
  unfold scaled
  split
  · exact carries_pure _
  · exact (fruitless_fail _).carries

theorem carries_exponent (positive : Bool) (significand : Nat) (e : Int) (c : Char)
    (cs : List Char) :
    (exponent positive significand e).Carries (exponent positive significand e) (c :: cs)
      after := by
  apply Carries.skip
  apply Carries.peek?
  cases cs with
  | nil => exact fun _ _ _ => nofun
  | cons sign cs =>
    rw [List.cons_append, List.head?_cons, List.head?_cons]
    dsimp only
    -- With the sign passed over, the same is left to read.
    split
    case' isTrue => apply Carries.skip
    all_goals
      apply (carries_firstDigit _).bind
      intro first cs
      apply Carries.rest
      rw [delimits.takeWhile_isDigit]
      obtain ⟨size, left⟩ := appendDigits (1 <<< 31) (digitValue first) (cs.takeWhile isDigit)
      dsimp only
      split
      · exact (carries_skipWhile delimits.notDigit _).bind fun _ _ => carries_scaled _ _ _ _
      split
      · exact (Fruitless.last fun _ => fruitless_fail _).carries
      · exact (carries_skipWhile delimits.notDigit _).bind fun _ _ => carries_pure _

theorem carries_fraction (positive : Bool) (significand : Nat) (e : Int) (c : Char)
    (cs : List Char) :
    (fraction positive significand e).Carries (fraction positive significand e) (c :: cs)
      after := by
  apply Carries.skip
  apply (carries_digits delimits cs).bind
  intro ds cs
  dsimp only
  split
  · apply Fruitless.carries
    apply Fruitless.last
    intro token
    split
    · exact (fruitless_failNext _).bind
    · exact (fruitless_failNext _).bind
  · apply Carries.peek_end delimits rfl rfl rfl
    · exact carries_scaled _ _ _ _
    · intro c cs
      split
      · exact carries_exponent delimits _ _ _ _ _
      · exact carries_exponent delimits _ _ _ _ _
      · exact carries_scaled _ _ _ _

theorem carries_number (positive : Bool) (cs : List Char) :
    (number positive).Carries (number positive) cs after := by
  apply (carries_firstDigit cs).bind
  intro first cs
  have follows : ((cs ++ after).head?.map isDigit).getD false =
      (cs.head?.map isDigit).getD false := by
    cases cs with
    | nil => exact delimits.head?_isDigit
    | cons => rfl
  apply Carries.peek?
  rw [follows]
  split
  · exact (fruitless_failNext _).bind.carries
  apply (carries_digits delimits cs).bind
  intro ds cs
  have ending (left significand : Nat) (cs : List Char) :
      (if left = 0 then return integerOf positive significand
        else scaled positive significand left : Reading Json).Carries
      (if left = 0 then return integerOf positive significand
        else scaled positive significand left : Reading Json) cs after := by
    split
    · exact carries_pure _
    · exact carries_scaled _ _ _ _
  apply Carries.peek_end delimits rfl rfl rfl
  · exact ending _ _ _
  · intro c cs
    split
    · exact carries_fraction delimits _ _ _ _ _
    · exact carries_exponent delimits _ _ _ _ _
    · exact carries_exponent delimits _ _ _ _ _
    · exact ending _ _ _

/-! Lists and objects. -/

theorem carries_hasItem (first : Bool) : (hasItem first).Carries (hasItem first) cs after := by
  apply Carries.token? delimits (fruitless_failNext _)
  intro c cs
  split
  · contradiction
  · exact carries_pure _
  · split
    · exact carries_pure _
    · apply Carries.skip
      apply Carries.token? delimits (fruitless_failNext _)
      intro c cs
      split
      · contradiction
      · exact (fruitless_failNext _).carries
      · exact carries_pure _
  · split
    · exact carries_pure _
    · exact (fruitless_failNext _).carries

theorem carries_hasMember (first : Bool) :
    (hasMember first).Carries (hasMember first) cs after := by
  apply Carries.token? delimits (fruitless_failNext _)
  intro c cs
  split
  · contradiction
  · exact carries_pure _
  · split
    · split
      · exact carries_pure _
      · exact (fruitless_failNext _).carries
    · split
      · exact (fruitless_failNext _).bind.carries
      · apply Carries.skip
        apply Carries.token? delimits (fruitless_failNext _)
        intro c cs
        split
        · contradiction
        · exact carries_pure _
        · exact (fruitless_failNext _).carries
        · exact (fruitless_failNext _).carries

theorem carries_colon : colon.Carries colon cs after := by
  apply Carries.token? delimits (fruitless_failNext _)
  intro c cs
  split
  · contradiction
  · exact .skip (carries_pure _)
  · exact (fruitless_failNext _).carries

theorem carries_itemsFrom {item : Nat → Reading α}
    (each : ∀ i cs, (item i).Carries (item i) cs after) {fuel fuel' : Nat} (more : fuel ≤ fuel')
    (index : Nat) (cs : List Char) :
    (itemsFrom item fuel index).Carries (itemsFrom item fuel' index) cs after := by
  induction fuel generalizing fuel' index cs with
  | zero => exact (fruitless_failNext _).carries
  | succ fuel ih =>
    obtain ⟨fuel', rfl⟩ := Nat.exists_eq_add_one_of_ne_zero (Nat.ne_zero_of_lt more)
    apply (carries_hasItem delimits _).bind
    intro another cs
    split
    · exact ((each _ _).under _).bind fun _ _ => (ih (Nat.le_of_succ_le_succ more) _ _).map _
    · exact carries_pure _

theorem carries_items {item : Nat → Reading α}
    (each : ∀ i cs, (item i).Carries (item i) cs after) (cs : List Char) :
    (items item).Carries (items item) cs after := by
  apply Carries.rest
  apply carries_itemsFrom delimits each
  rw [List.length_append]
  omega

theorem carries_membersFrom {step : α → Reading α}
    (each : ∀ a c cs, (step a).Carries (step a) (c :: cs) after) {fuel fuel' : Nat}
    (more : fuel ≤ fuel') (first : Bool) (a : α) (cs : List Char) :
    (membersFrom step fuel first a).Carries (membersFrom step fuel' first a) cs after := by
  induction fuel generalizing fuel' first a cs with
  | zero => exact (fruitless_failNext _).carries
  | succ fuel ih =>
    obtain ⟨fuel', rfl⟩ := Nat.exists_eq_add_one_of_ne_zero (Nat.ne_zero_of_lt more)
    apply (carries_hasMember delimits _).bind_leaving (leaves_hasMember _)
    intro another c cs
    split
    · exact (each _ _ _).bind fun _ _ => ih (Nat.le_of_succ_le_succ more) _ _ _
    · exact carries_pure _

theorem carries_members {step : α → Reading α}
    (each : ∀ a c cs, (step a).Carries (step a) (c :: cs) after) (a : α) (cs : List Char) :
    (members step a).Carries (members step a) cs after := by
  apply Carries.rest
  apply carries_membersFrom delimits each
  rw [List.length_append]
  omega

theorem carries_member {inner : Reading Json} (each : ∀ cs, inner.Carries inner cs after)
    (c : Char) (cs : List Char) : (member inner).Carries (member inner) (c :: cs) after := by
  have key : Reading.key.Carries Reading.key (c :: cs) after := .skip (carries_string cs)
  apply key.bind
  intro k cs
  apply (carries_colon delimits).bind
  intro _ cs
  exact ((each cs).under _).map _

/-! Values. -/

theorem carries_valueWith {nested : Option (Reading Json)}
    (each : ∀ inner ∈ nested, ∀ cs, inner.Carries inner cs after) (cs : List Char) :
    (valueWith nested).Carries (valueWith nested) cs after := by
  apply Carries.token? delimits (fruitless_failNext _)
  intro c cs
  split
  · contradiction
  · exact .skip ((carries_word _ _).map fun _ => _)
  · exact .skip ((carries_word _ _).map fun _ => _)
  · exact .skip ((carries_word _ _).map fun _ => _)
  · exact .skip (carries_number delimits _ _)
  · exact .skip ((carries_string _).map _)
  · split
    · exact (fruitless_failNext _).carries
    · rename_i inner
      apply Carries.skip
      have content := carries_items delimits (fun _ => each inner rfl)
      apply (content _).bind_leaving (leaves_items _)
      exact fun _ _ _ => .skip (carries_pure _)
  · split
    · exact (fruitless_failNext _).carries
    · rename_i inner
      apply Carries.skip
      have step (ms : Members) (c : Char) (cs : List Char) :=
        (carries_member delimits (each inner rfl) c cs).map (· :: ms)
      apply (carries_members delimits step [] _).bind_leaving (leaves_members _ _)
      exact fun _ _ _ => .skip (carries_pure _)
  · split
    · exact carries_number delimits _ _
    · exact (fruitless_failNext _).carries

/-- The value that a text holds is the value that stands where the text does. -/
theorem carries_value (depth : Nat) (cs : List Char) :
    (value depth).Carries (value depth) cs after := by
  induction depth generalizing cs with
  | zero =>
    apply carries_valueWith delimits
    rintro _ ⟨⟩
  | succ depth ih =>
    apply carries_valueWith delimits
    rintro _ ⟨⟩
    exact ih

end Delimited

end ConditionQuery.Json.Reading
