import ConditionQuery.Proofs.TextReading

/-! What values are read from. A value begins with a bracket or with a quote, or it is read alike
however deep brackets may nest. Lists and objects are read alike by readers that agree on what
these hold. -/
namespace ConditionQuery.Json

/-- The value has no text and no brackets. -/
def isPlain : Json → Bool
  | .null | .bool _ | .int _ | .double _ => true
  | .string _ | .array _ | .object _ => false

namespace Reading

variable {α : Type} {c c' : Cursor} {v : Json} {depth : Nat}

theorem isPlain_integerOf (positive : Bool) (n : Nat) : (integerOf positive n).isPlain = true := by
  unfold integerOf
  split
  · rfl
  split
  · rfl
  · rfl

theorem isPlain_of_number (positive : Bool) :
    (number positive).Ensures fun v _ => v.isPlain = true := by
  have scaled (significand : Nat) (e : Int) :
      (scaled positive significand e).Ensures fun v _ => v.isPlain = true := by
    unfold Reading.scaled
    split
    · exact ensures_pure fun _ => rfl
    · exact (fruitless_fail _).ensures
  have exponent (significand : Nat) (e : Int) :
      (exponent positive significand e).Ensures fun v _ => v.isPlain = true := by
    refine .last fun _ => .last fun sign => ?_
    dsimp only
    split
    case' isTrue => refine .last fun _ => ?_
    all_goals
      refine .last fun first => .last fun ds => ?_
      obtain ⟨size, left⟩ := appendDigits (1 <<< 31) (digitValue first) (ds.takeWhile isDigit)
      dsimp only
      split
      · exact .last fun _ => scaled _ _
      split
      · exact .last fun _ => (fruitless_fail _).ensures
      · exact .last fun _ => ensures_pure fun _ => rfl
  have fraction (significand : Nat) (e : Int) :
      (fraction positive significand e).Ensures fun v _ => v.isPlain = true := by
    refine .last fun _ => .last fun ds => ?_
    dsimp only
    split
    · refine .last fun token => ?_
      split
      · exact (fruitless_failNext _).bind.ensures
      · exact (fruitless_failNext _).bind.ensures
    · refine .last fun token => ?_
      split
      · exact exponent _ _
      · exact exponent _ _
      · exact scaled _ _
  refine .last fun first => .last fun next => ?_
  dsimp only
  split
  · exact (fruitless_failNext _).bind.ensures
  · refine .last fun ds => .last fun token => ?_
    split
    · exact fraction _ _
    · exact exponent _ _
    · exact exponent _ _
    · split
      · exact ensures_pure fun _ => isPlain_integerOf _ _
      · exact scaled _ _

/-- A number is read alike, whether brackets may be opened or not. -/
theorem valueWith_of_digit {d : Char} {m : Cursor} (first : token? c = .ok (some d) m)
    (digit : isDigit d = true) (read : number true m = .ok v c') (nested : Option (Reading Json)) :
    valueWith nested c = .ok v c' := by
  refine bind_eq_ok.2 ⟨some d, m, first, (congrFun (g := number true) ?_ m).trans read⟩
  split
  case h_9 other _ _ _ _ _ _ _ same =>
    obtain rfl := Option.some.inj same
    exact if_pos digit
  all_goals
    rename_i same
    cases same <;> contradiction

/-- How a value is read. Only brackets ask for how deep they may nest. -/
inductive ReadAs (c c' : Cursor) : Nat → Json → Prop where
  | array {depth : Nat} {content : List Json} {m m₁ m₂ : Cursor}
    (first : token? c = .ok (some '[') m) (opened : skip m = .ok () m₁)
    (inside : items (fun _ => value depth) m₁ = .ok content m₂) (closed : skip m₂ = .ok () c') :
    ReadAs c c' (depth + 1) (.array content)
  | object {depth : Nat} {content : Members} {m m₁ m₂ : Cursor}
    (first : token? c = .ok (some '{') m) (opened : skip m = .ok () m₁)
    (inside : members (fun ms => return (← member (value depth)) :: ms) [] m₁ = .ok content m₂)
    (closed : skip m₂ = .ok () c') : ReadAs c c' (depth + 1) (.object content.reverse)
  | string {depth : Nat} {s : String} {m m₁ : Cursor} (first : token? c = .ok (some '"') m)
    (opened : skip m = .ok () m₁) (inside : Reading.string m₁ = .ok s c') :
    ReadAs c c' depth (.string s)
  | plain {depth : Nat} {v : Json} (plain : v.isPlain = true)
    (anywhere : ∀ depth, value depth c = .ok v c') : ReadAs c c' depth v

/-- The reader of the values within the brackets of a value. -/
def within : Nat → Option (Reading Json)
  | 0 => none
  | depth + 1 => some (value depth)

theorem value_eq (depth : Nat) : value depth = valueWith (within depth) := by
  cases depth with
  | zero => rfl
  | succ depth => rfl

theorem value_of_string {s : String} {m m₁ : Cursor} (first : token? c = .ok (some '"') m)
    (opened : skip m = .ok () m₁) (inside : Reading.string m₁ = .ok s c') (depth : Nat) :
    value depth c = .ok (.string s) c' := by
  rw [value_eq]
  exact bind_eq_ok.2 ⟨_, m, first, bind_eq_ok.2 ⟨_, m₁, opened,
    bind_eq_ok.2 ⟨s, c', inside, rfl⟩⟩⟩

theorem readAs_of_value (read : value depth c = .ok v c') : ReadAs c c' depth v := by
  have plain (plain : v.isPlain = true) (anywhere : ∀ nested, valueWith nested c = .ok v c') :
      ReadAs c c' depth v := by
    refine .plain plain fun depth => ?_
    rw [value_eq]
    exact anywhere _
  have constant (w : Json) (plain : w.isPlain = true) (text : List Char) :
      (do skip; word text; return w : Reading Json).Ensures fun v _ => v.isPlain = true :=
    .last fun _ => .last fun _ => ensures_pure fun _ => plain
  rw [value_eq] at read
  obtain ⟨token, m, first, read⟩ := bind_eq_ok.1 read
  split at read
  · contradiction
  · exact plain (constant .null rfl _ _ _ _ read) fun _ => bind_eq_ok.2 ⟨_, m, first, read⟩
  · exact plain (constant (.bool true) rfl _ _ _ _ read) fun _ =>
      bind_eq_ok.2 ⟨_, m, first, read⟩
  · exact plain (constant (.bool false) rfl _ _ _ _ read) fun _ =>
      bind_eq_ok.2 ⟨_, m, first, read⟩
  · have number : (do skip; number false : Reading Json).Ensures fun v _ => v.isPlain = true :=
      .last fun _ => isPlain_of_number false
    exact plain (number _ _ _ read) fun _ => bind_eq_ok.2 ⟨_, m, first, read⟩
  · obtain ⟨_, m₁, opened, read⟩ := bind_eq_ok.1 read
    obtain ⟨s, m₂, inside, made⟩ := bind_eq_ok.1 read
    cases made
    exact .string first opened inside
  · cases depth with
    | zero => contradiction
    | succ depth =>
      obtain ⟨_, m₁, opened, read⟩ := bind_eq_ok.1 read
      obtain ⟨content, m₂, inside, read⟩ := bind_eq_ok.1 read
      obtain ⟨_, _, closed, made⟩ := bind_eq_ok.1 read
      cases made
      exact .array first opened inside closed
  · cases depth with
    | zero => contradiction
    | succ depth =>
      obtain ⟨_, m₁, opened, read⟩ := bind_eq_ok.1 read
      obtain ⟨content, m₂, inside, read⟩ := bind_eq_ok.1 read
      obtain ⟨_, _, closed, made⟩ := bind_eq_ok.1 read
      cases made
      exact .object first opened inside closed
  · split at read
    · rename_i digit
      exact plain (isPlain_of_number true _ _ _ read) fun nested =>
        valueWith_of_digit first digit read nested
    · contradiction

/-! Readers of lists and objects, where others read their items and members alike. -/

variable {item item' : Nat → Reading α} {as : List α}

theorem itemsFrom_eq_ok {fuel index : Nat}
    (each : ∀ i a, as[i]? = some a → ∀ c c',
      item (index + i) c = .ok a c' → item' (index + i) c = .ok a c')
    (read : itemsFrom item fuel index c = .ok as c') : itemsFrom item' fuel index c = .ok as c' := by
  induction fuel generalizing index c as with
  | zero => contradiction
  | succ fuel ih =>
    obtain ⟨more, m, asked, read⟩ := bind_eq_ok.1 read
    refine bind_eq_ok.2 ⟨more, m, asked, ?_⟩
    cases more with
    | false => exact read
    | true =>
      obtain ⟨a, m₁, first, read⟩ := bind_eq_ok.1 read
      obtain ⟨rest, m₂, later, made⟩ := bind_eq_ok.1 read
      cases made
      have first' := each 0 a rfl m m₁ (eq_ok_of_under first)
      have later' := ih (fun i a stands c c' reads => by
        rw [Nat.add_right_comm] at reads ⊢
        exact each (i + 1) a stands c c' reads) later
      exact bind_eq_ok.2 ⟨a, m₁, tryCatch_ok first', bind_eq_ok.2 ⟨rest, c', later', rfl⟩⟩

theorem items_eq_ok
    (each : ∀ i a, as[i]? = some a → ∀ c c', item i c = .ok a c' → item' i c = .ok a c')
    (read : items item c = .ok as c') : items item' c = .ok as c' := by
  obtain ⟨text, m, looked, read⟩ := bind_eq_ok.1 read
  refine bind_eq_ok.2 ⟨text, m, looked, itemsFrom_eq_ok (fun i a stands c c' reads => ?_) read⟩
  rw [Nat.zero_add] at reads ⊢
  exact each i a stands c c' reads

/-- The other reader goes the same way as long as what is gathered stays good, which it does not if
it once is not. -/
theorem members_eq_ok {step step' : α → Reading α} (Good : α → Prop) {start a : α}
    (each : ∀ a c b c', step a c = .ok b c' → Good b → Good a ∧ step' a c = .ok b c')
    (read : members step start c = .ok a c') (good : Good a) : members step' start c = .ok a c' := by
  have from_ (fuel : Nat) : ∀ (first : Bool) (start : α) (c : Cursor),
      membersFrom step fuel first start c = .ok a c' →
      Good start ∧ membersFrom step' fuel first start c = .ok a c' := by
    induction fuel with
    | zero => exact fun _ _ _ => nofun
    | succ fuel ih =>
      intro first start c read
      obtain ⟨more, m, asked, read⟩ := bind_eq_ok.1 read
      cases more with
      | false =>
        cases read
        exact ⟨good, bind_eq_ok.2 ⟨false, c', asked, rfl⟩⟩
      | true =>
        obtain ⟨b, m₁, stepped, read⟩ := bind_eq_ok.1 read
        obtain ⟨later, read'⟩ := ih false b m₁ read
        obtain ⟨before, stepped'⟩ := each start m b m₁ stepped later
        exact ⟨before, bind_eq_ok.2 ⟨true, m, asked, bind_eq_ok.2 ⟨b, m₁, stepped', read'⟩⟩⟩
  obtain ⟨text, m, looked, read⟩ := bind_eq_ok.1 read
  exact bind_eq_ok.2 ⟨text, m, looked, (from_ _ true start m read).2⟩

end Reading
end ConditionQuery.Json
