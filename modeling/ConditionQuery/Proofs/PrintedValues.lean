import ConditionQuery.Proofs.PrintedNumbers
import ConditionQuery.Proofs.PrintedStrings

/-! Whole documents. What a value is written as is read back as the value wherever it stands, if
its numbers are read back and its brackets do not nest too deep. -/
namespace ConditionQuery

namespace Json
open Reading
open Text (encoded)

/-- The texts with commas between them. -/
def separated : List (List Char) → List Char
  | [] => []
  | t :: ts => t ++ ts.flatMap (',' :: ·)

theorem encoded_intercalate (ts : List (List Char)) :
    encoded ([','].intercalate ts) = separated (ts.map encoded) := by
  have comma : encoded [','] = [','] := Text.encoded_of_ascii (by decide)
  induction ts with
  | nil => rfl
  | cons t ts ih =>
    cases ts with
    | nil => simp [separated]
    | cons u us =>
      rw [List.intercalate_cons_cons, Text.encoded_append, Text.encoded_append, ih, comma]
      simp [separated]

/-- A member, by its key and the text of its value. -/
def memberText (key : String) (text : List Char) : List Char :=
  '"' :: (bodyText key ++ ':' :: text)

def printedMember (m : String × Json) : List Char := memberText m.1 (printed m.2)

theorem toList_writeItems (items : List Json) :
    (writeItems escapeChar items).map String.toList =
      items.map fun v => (v.write escapeChar).toList := by
  induction items with
  | nil => rfl
  | cons item rest ih => rw [writeItems, List.map_cons, ih, List.map_cons]

theorem toList_writeMembers (members : Members) :
    (writeMembers escapeChar members).map String.toList = members.map fun m =>
      (quote escapeChar m.1).toList ++ ([':'] ++ (m.2.write escapeChar).toList) := by
  induction members with
  | nil => rfl
  | cons m rest ih =>
    rw [writeMembers, List.map_cons, ih]
    simp

theorem encoded_bracketed {opening closing : Char} (ascii : opening.toNat < 0x80)
    (ascii' : closing.toNat < 0x80) (text : List Char) :
    encoded (opening :: (text ++ [closing])) = opening :: (encoded text ++ [closing]) := by
  have alone {c : Char} (ascii : c.toNat < 0x80) : encoded [c] = [c] :=
    Text.encoded_of_ascii (List.forall_mem_singleton.2 ascii)
  rw [Text.encoded_cons, Text.encoded_append, alone ascii, alone ascii']
  rfl

theorem printed_string (s : String) : printed (.string s) = '"' :: bodyText s := by
  rw [printed, write, encoded_quote]

theorem printed_array (items : List Json) :
    printed (.array items) = '[' :: (separated (items.map printed) ++ [']']) := by
  have text : (write escapeChar (.array items)).toList =
      '[' :: ([','].intercalate ((writeItems escapeChar items).map String.toList) ++ [']']) := by
    simp [write]
  rw [printed, text, encoded_bracketed (by decide) (by decide), encoded_intercalate,
    toList_writeItems, List.map_map]
  rfl

theorem encoded_member (m : String × Json) :
    encoded ((quote escapeChar m.1).toList ++ ([':'] ++ (m.2.write escapeChar).toList)) =
      printedMember m := by
  rw [Text.encoded_append, Text.encoded_append, encoded_quote, Text.encoded_of_ascii (by decide)]
  rfl

theorem printed_object (ms : Members) :
    printed (.object ms) = '\x7b' :: (separated (ms.map printedMember) ++ ['\x7d']) := by
  have text : (write escapeChar (.object ms)).toList = '\x7b' ::
      ([','].intercalate ((writeMembers escapeChar ms).map String.toList) ++ ['\x7d']) := by
    simp [write]
  rw [printed, text, encoded_bracketed (by decide) (by decide), encoded_intercalate,
    toList_writeMembers, List.map_map]
  simp only [Function.comp_def, encoded_member]

namespace Reading

variable {α β : Type} {f : α → Reading β} {text after : List Char}

/-! Lists. -/

/-- The text begins as an item of a list does. -/
def Opens (text : List Char) : Prop :=
  ∃ c cs, text = c :: cs ∧ isGap c = false ∧ c ≠ ',' ∧ c ≠ ']'

theorem comes_hasItem_end (first : Bool) (after : List Char) :
    (hasItem first).Comes [] (']' :: after) (some false) :=
  .token? rfl rfl (comes_pure false _)

theorem comes_hasItem_first (opens : Opens text) (after : List Char) :
    (hasItem true).Comes [] (text ++ after) (some true) := by
  obtain ⟨c, cs, rfl, solid, comma, bracket⟩ := opens
  refine .token? rfl solid ?_
  split
  · contradiction
  · rename_i same
    exact absurd (Option.some.inj same) bracket
  · rename_i same
    exact absurd (Option.some.inj same) comma
  · exact comes_pure true _

theorem comes_hasItem_next (opens : Opens text) (after : List Char) :
    (hasItem false).Comes [','] (text ++ after) (some true) := by
  obtain ⟨c, cs, rfl, solid, comma, bracket⟩ := opens
  refine .token? rfl rfl (.skip (.token? rfl solid ?_))
  split
  · contradiction
  · rename_i same
    exact absurd (Option.some.inj same) bracket
  · exact comes_pure true _

/-- What follows an item: a comma, or the end of the list. -/
theorem delimits_rest (ts : List (List Char)) {close : Char} (known : close ∈ [',', ']', '}'])
    (after : List Char) : Delimits (ts.flatMap (',' :: ·) ++ close :: after) := by
  cases ts with
  | nil => exact delimits_cons known after
  | cons t ts => exact delimits_cons (by decide) _

theorem length_le_separated {ts : List (List Char)} (each : ∀ t ∈ ts, t ≠ []) :
    ts.length ≤ (separated ts).length := by
  have rest (us : List (List Char)) : us.length ≤ (us.flatMap (',' :: ·)).length := by
    induction us with
    | nil => exact Nat.le_refl 0
    | cons u us ih =>
      simp only [List.flatMap_cons, List.length_append, List.length_cons]
      omega
  cases ts with
  | nil => exact Nat.le_refl 0
  | cons t ts =>
    have some := List.length_pos_iff.2 (each t List.mem_cons_self)
    have more := rest ts
    rw [separated, List.length_append, List.length_cons]
    omega

section Items

variable {item : Nat → Reading α} {shown : α → List Char} {as : List α}

/-- The text is that of an item, which is read as what it shows. -/
def Itemized (item : Nat → Reading α) (shown : α → List Char) (index : Nat) (a : α) : Prop :=
  Opens (shown a) ∧
    ∀ after, Delimits after → (item index).Comes (shown a) after (some a)

/-- One more item is read, and then the rest. -/
theorem comes_itemsFrom_succ {fuel index : Nat} {front more : List Char} {a : α}
    (asks : (hasItem (index == 0)).Comes front (shown a ++ (more ++ after)) (some true))
    (reads : (item index).Comes (shown a) (more ++ after) (some a))
    (rest : (itemsFrom item fuel (index + 1)).Comes more after (some as)) :
    (itemsFrom item (fuel + 1) index).Comes (front ++ (shown a ++ more)) after
      (some (a :: as)) := by
  rw [← List.append_assoc] at asks
  exact asks.bind ((reads.under (.index index)).bind (rest.map (a :: ·)))

theorem comes_itemsFrom {index : Nat}
    (each : ∀ i a, as[i]? = some a → Itemized item shown (index + 1 + i) a) :
    ∀ fuel after, as.length < fuel →
      (itemsFrom item fuel (index + 1)).Comes ((as.map shown).flatMap (',' :: ·)) (']' :: after)
        (some as) := by
  induction as generalizing index with
  | nil =>
    intro fuel after enough
    cases fuel with
    | zero => contradiction
    | succ fuel => exact (comes_hasItem_end false after).bind_end (comes_pure [] _)
  | cons a as ih =>
    obtain ⟨opens, reads⟩ := each 0 a rfl
    have later : ∀ i a, as[i]? = some a → Itemized item shown (index + 1 + 1 + i) a := by
      intro i a stands
      rw [Nat.add_right_comm]
      exact each (i + 1) a stands
    intro fuel after enough
    cases fuel with
    | zero => contradiction
    | succ fuel =>
      have asks : (hasItem (index + 1 == 0)).Comes [',']
          (shown a ++ ((as.map shown).flatMap (',' :: ·) ++ ']' :: after)) (some true) :=
        comes_hasItem_next opens _
      exact comes_itemsFrom_succ asks (reads _ (delimits_rest _ (by decide) after))
        (ih later fuel after (Nat.lt_of_succ_lt_succ enough))

theorem comes_items (each : ∀ i a, as[i]? = some a → Itemized item shown i a)
    (after : List Char) :
    (items item).Comes (separated (as.map shown)) (']' :: after) (some as) := by
  apply Comes.rest
  have longer : (as.map shown).length ≤ (separated (as.map shown)).length :=
    length_le_separated fun t member => by
      obtain ⟨a, among, rfl⟩ := List.mem_map.1 member
      obtain ⟨i, stands⟩ := List.mem_iff_getElem?.1 among
      obtain ⟨c, cs, form, -⟩ := (each i a stands).1
      rw [form]
      exact List.cons_ne_nil c cs
  have enough : as.length < (separated (as.map shown) ++ ']' :: after).length + 1 := by
    rw [List.length_map] at longer
    rw [List.length_append]
    omega
  cases as with
  | nil => exact (comes_hasItem_end true after).bind_end (comes_pure [] _)
  | cons a as =>
    obtain ⟨opens, reads⟩ := each 0 a rfl
    have later : ∀ i a, as[i]? = some a → Itemized item shown (0 + 1 + i) a := by
      intro i a stands
      rw [Nat.zero_add, Nat.add_comm]
      exact each (i + 1) a stands
    have asks : (hasItem (0 == 0)).Comes []
        (shown a ++ ((as.map shown).flatMap (',' :: ·) ++ ']' :: after)) (some true) :=
      comes_hasItem_first opens _
    exact comes_itemsFrom_succ asks (reads _ (delimits_rest _ (by decide) after))
      (comes_itemsFrom later _ after (Nat.lt_of_succ_lt_succ enough))

end Items

/-! Objects. -/

section Members

variable {step : α → Reading α} {g : α → String × Json → Option α} {ms : Members}

theorem comes_hasMember_end {gaps : List Char} (all : ∀ c ∈ gaps, isGap c = true) (first : Bool)
    (after : List Char) : (hasMember first).Comes gaps ('\x7d' :: after) (some false) := by
  have reads : (hasMember first).Comes (gaps ++ []) ('\x7d' :: after) (some false) :=
    .gaps all rfl rfl (comes_pure false _)
  rwa [List.append_nil] at reads

theorem comes_hasMember_first (after : List Char) :
    (hasMember true).Comes [] ('"' :: after) (some true) :=
  .token? rfl rfl (comes_pure true _)

theorem comes_hasMember_next (after : List Char) :
    (hasMember false).Comes [','] ('"' :: after) (some true) :=
  .token? rfl rfl (.skip (.token? rfl rfl (comes_pure true _)))

/-- Each member takes the reader from what came of those before to what comes of it too. -/
def Stepwise (step : α → Reading α) (g : α → String × Json → Option α) (m : String × Json) :
    Prop :=
  ∀ a after, Delimits after → (step a).Comes (printedMember m) after (g a m)

theorem comes_membersFrom_succ {fuel : Nat} {first : Bool} {a : α}
    {front more : List Char} {o : Option α} {h : α → Option α}
    (asks : (hasMember first).Comes front (text ++ more ++ after) (some true))
    (reads : (step a).Comes text (more ++ after) o)
    (rest : ∀ a, (membersFrom step fuel false a).Comes more after (h a)) :
    (membersFrom step (fuel + 1) first a).Comes (front ++ (text ++ more)) after (o >>= h) := by
  apply asks.bind
  rw [if_pos rfl]
  exact reads.seq rest

theorem comes_membersFrom (each : ∀ m ∈ ms, Stepwise step g m) {fuel : Nat}
    (enough : ms.length < fuel) (a : α) (after : List Char) :
    (membersFrom step fuel false a).Comes ((ms.map printedMember).flatMap (',' :: ·))
      ('\x7d' :: after) (ms.foldlM g a) := by
  induction ms generalizing fuel a with
  | nil =>
    cases fuel with
    | zero => contradiction
    | succ fuel => exact (comes_hasMember_end (by simp) false after).bind_end (comes_pure a _)
  | cons m ms ih =>
    obtain ⟨reads, each⟩ := List.forall_mem_cons.1 each
    cases fuel with
    | zero => contradiction
    | succ fuel =>
      rw [List.foldlM_cons]
      exact comes_membersFrom_succ (comes_hasMember_next _)
        (reads a _ (delimits_rest _ (by decide) after))
        (ih each (Nat.lt_of_succ_lt_succ enough))

theorem comes_members (each : ∀ m ∈ ms, Stepwise step g m) (a : α) (after : List Char) :
    (members step a).Comes (separated (ms.map printedMember)) ('\x7d' :: after)
      (ms.foldlM g a) := by
  apply Comes.rest
  have longer : (ms.map printedMember).length ≤ (separated (ms.map printedMember)).length :=
    length_le_separated fun t member => by
      obtain ⟨m, -, rfl⟩ := List.mem_map.1 member
      exact List.cons_ne_nil _ _
  have enough : ms.length < (separated (ms.map printedMember) ++ '\x7d' :: after).length + 1 := by
    rw [List.length_map] at longer
    rw [List.length_append]
    omega
  cases ms with
  | nil => exact (comes_hasMember_end (by simp [separated]) true after).bind_end (comes_pure a _)
  | cons m ms =>
    obtain ⟨reads, each⟩ := List.forall_mem_cons.1 each
    rw [List.foldlM_cons]
    exact comes_membersFrom_succ (comes_hasMember_first _)
      (reads a _ (delimits_rest _ (by decide) after))
      (comes_membersFrom each (Nat.lt_of_succ_lt_succ enough) · after)

theorem comes_key (k : String) (after : List Char) :
    Reading.key.Comes ('"' :: bodyText k) after (some k) :=
  Comes.skip (comes_string k after)

theorem comes_colon (after : List Char) : Reading.colon.Comes [':'] after (some ()) :=
  .token? rfl rfl (.skip (comes_pure () after))

/-- Within an object a member begins with its key. -/
theorem Comes.key {f : String → Reading β} {k : String} {o : Option β}
    (next : (f k).Comes (':' :: text) after o) :
    (Reading.key >>= f).Comes (memberText k text) after o :=
  (comes_key k _).bind next

theorem Comes.colon {f : Unit → Reading β} {o : Option β}
    (next : (f ()).Comes text after o) : (Reading.colon >>= f).Comes (':' :: text) after o :=
  (comes_colon _).bind next

theorem Comes.member {m : String × Json} {inner : Reading Json}
    (reads : inner.Comes (printed m.2) after (some m.2)) :
    (Reading.member inner).Comes (printedMember m) after (some m) :=
  .key (.colon ((reads.under (.key m.1)).map fun v => (m.1, v)))

end Members

end Reading

/-! Values. -/

/-- The value is read back from what it is written as, if as many brackets may be open. -/
inductive Reprints : Nat → Json → Prop where
  | null {depth : Nat} : Reprints depth .null
  | bool {depth : Nat} (b : Bool) : Reprints depth (.bool b)
  | int {depth : Nat} {n : Int} (fits : Int64.minValue.toInt ≤ n ∧ n < UInt64.size) :
    Reprints depth (.int n)
  | double {depth : Nat} {d : Binary64} (back : d.IsReadBack) : Reprints depth (.double d)
  | string {depth : Nat} (s : String) : Reprints depth (.string s)
  | array {depth : Nat} {items : List Json} (each : ∀ v ∈ items, Reprints depth v) :
    Reprints (depth + 1) (.array items)
  | object {depth : Nat} {ms : Members} (each : ∀ m ∈ ms, Reprints depth m.2) :
    Reprints (depth + 1) (.object ms)

section Decidable

variable {depth : Nat}

theorem reprints_int {n : Int} :
    Reprints depth (.int n) ↔ Int64.minValue.toInt ≤ n ∧ n < UInt64.size :=
  ⟨by rintro ⟨⟩; assumption, .int⟩

theorem reprints_double {d : Binary64} : Reprints depth (.double d) ↔ d.IsReadBack :=
  ⟨by rintro ⟨⟩; assumption, .double⟩

theorem reprints_array {items : List Json} :
    Reprints (depth + 1) (.array items) ↔ ∀ v ∈ items, Reprints depth v :=
  ⟨by rintro ⟨⟩; assumption, .array⟩

theorem reprints_object {ms : Members} :
    Reprints (depth + 1) (.object ms) ↔ ∀ m ∈ ms, Reprints depth m.2 :=
  ⟨by rintro ⟨⟩; assumption, .object⟩

end Decidable

mutual

def decideReprints : (depth : Nat) → (v : Json) → Decidable (Reprints depth v)
  | _, .null => isTrue .null
  | _, .bool b => isTrue (.bool b)
  | _, .int _ => decidable_of_iff _ reprints_int.symm
  | _, .double _ => decidable_of_iff _ reprints_double.symm
  | _, .string s => isTrue (.string s)
  | 0, .array _ => isFalse nofun
  | 0, .object _ => isFalse nofun
  | depth + 1, .array items =>
    @decidable_of_iff _ _ reprints_array.symm (decideItems depth items)
  | depth + 1, .object ms =>
    @decidable_of_iff _ _ reprints_object.symm (decideMembers depth ms)

def decideItems : (depth : Nat) → (items : List Json) → Decidable (∀ v ∈ items, Reprints depth v)
  | _, [] => isTrue nofun
  | depth, v :: rest =>
    @decidable_of_iff _ _ List.forall_mem_cons.symm
      (@instDecidableAnd _ _ (decideReprints depth v) (decideItems depth rest))

def decideMembers : (depth : Nat) → (ms : Members) → Decidable (∀ m ∈ ms, Reprints depth m.2)
  | _, [] => isTrue nofun
  | depth, (_, v) :: rest =>
    @decidable_of_iff _ _ List.forall_mem_cons.symm
      (@instDecidableAnd _ _ (decideReprints depth v) (decideMembers depth rest))

end

instance (depth : Nat) (v : Json) : Decidable (Reprints depth v) := decideReprints depth v

-- Near the least doubles the shortest digits may be read as a neighbour.
example : (parse "[0.1, -7, \x7b\"a\": [1e300, null]\x7d]").toOption.any
    (fun v => decide (v.Reprints 3)) = true := by decide +kernel

example : (parse "9.60177052772872e-301").toOption.any
    (fun v => decide (v.Reprints 0)) = false := by decide +kernel

theorem opens_of_atomic {text : List Char} (all : AllAtomic text) (nonempty : text ≠ []) :
    Opens text := by
  obtain ⟨c, cs, rfl⟩ := List.exists_cons_of_ne_nil nonempty
  have atomic := all c List.mem_cons_self
  refine ⟨c, cs, rfl, atomic.solid, ?_, ?_⟩ <;> rintro rfl <;> simp [IsAtomic, isDigit] at atomic

theorem Reprints.opens {depth : Nat} {v : Json} (reprints : Reprints depth v) :
    Opens (printed v) := by
  cases reprints with
  | null => exact ⟨'n', "ull".toList, Text.encoded_of_ascii (by decide), by decide⟩
  | bool b =>
    cases b with
    | true => exact ⟨'t', "rue".toList, Text.encoded_of_ascii (by decide), by decide⟩
    | false => exact ⟨'f', "alse".toList, Text.encoded_of_ascii (by decide), by decide⟩
  | @int _ n =>
    cases n with
    | ofNat n =>
      rw [printed_ofNat]
      exact opens_of_atomic (isDigits_toDigits n).atomic Nat.toDigits_ne_nil
    | negSucc n => exact ⟨'-', _, printed_negSucc n, by decide⟩
  | @double _ d back =>
    refine opens_of_atomic (printed_double d ▸ atomic_doubleText d) fun empty => ?_
    obtain ⟨q, read⟩ := comes_double back 0 delimits_nil ⟨1, 0⟩
    rw [empty] at read
    contradiction
  | string s => exact ⟨_, _, printed_string s, by decide⟩
  | array => exact ⟨_, _, printed_array _, by decide⟩
  | object => exact ⟨_, _, printed_object _, by decide⟩

theorem Reprints.comes_value {depth : Nat} {v : Json} (reprints : Reprints depth v)
    {after : List Char} (delimits : Delimits after) :
    (value depth).Comes (printed v) after (some v) := by
  induction reprints generalizing after with
  | @null depth =>
    have text : printed .null = 'n' :: "ull".toList := Text.encoded_of_ascii (by decide)
    rw [value_eq, text]
    exact .token? rfl rfl (.skip ((comes_word _ _).map fun _ => Json.null))
  | @bool depth b =>
    rw [value_eq]
    cases b with
    | true =>
      have text : printed (.bool true) = 't' :: "rue".toList := Text.encoded_of_ascii (by decide)
      rw [text]
      exact .token? rfl rfl (.skip ((comes_word _ _).map fun _ => Json.bool true))
    | false =>
      have text : printed (.bool false) = 'f' :: "alse".toList := Text.encoded_of_ascii (by decide)
      rw [text]
      exact .token? rfl rfl (.skip ((comes_word _ _).map fun _ => Json.bool false))
  | @int depth n fits => exact comes_int fits depth delimits
  | @double depth d back => exact comes_double back depth delimits
  | @string depth s =>
    rw [value_eq, printed_string]
    exact .token? rfl rfl (.skip ((comes_string s _).map Json.string))
  | @array depth items each ih =>
    rw [printed_array]
    have content : (Reading.items fun _ => value depth).Comes (separated (items.map printed))
        (']' :: after) (some items) :=
      comes_items (fun _ v stands => ⟨(each v (List.mem_of_getElem? stands)).opens, fun _ => ih v (List.mem_of_getElem? stands)⟩)
        after
    exact .token? rfl rfl (.skip (content.bind (.skip (comes_pure _ _))))
  | @object depth ms each ih =>
    rw [printed_object]
    have content := comes_members (fun m member (seen : Members) _ delimits =>
      (Comes.member (ih m member delimits)).map (· :: seen)) [] after
    have reversed : ms.foldlM (fun (seen : Members) m => some (m :: seen)) [] =
        some ms.reverse := by
      simp [← Option.pure_def, List.foldlM_pure]
    rw [reversed] at content
    refine .token? rfl rfl (.skip (content.bind (.skip ?_)))
    rw [List.reverse_reverse]
    exact comes_pure _ _

theorem member_eq_ok {x y : Reading Json} {m : String × Json} {c c' : Cursor}
    (refines : ∀ c c', x c = .ok m.2 c' → y c = .ok m.2 c') (read : member x c = .ok m c') :
    member y c = .ok m c' := by
  obtain ⟨k, m₁, key, read⟩ := bind_eq_ok.1 read
  obtain ⟨_, m₂, colon, read⟩ := bind_eq_ok.1 read
  obtain ⟨v, m₃, value, made⟩ := bind_eq_ok.1 read
  cases made
  exact bind_eq_ok.2 ⟨k, m₁, key, bind_eq_ok.2 ⟨_, m₂, colon,
    bind_eq_ok.2 ⟨v, c', tryCatch_ok (refines _ _ (eq_ok_of_under value)), rfl⟩⟩⟩

/-- A value that is read at one depth is read at each that its brackets leave room for. -/
theorem Reprints.value_eq_ok {room : Nat} {v : Json} (reprints : Reprints room v) {depth : Nat}
    {c c' : Cursor} (read : value depth c = .ok v c') : value room c = .ok v c' := by
  induction reprints generalizing depth c c' with
  | null | bool | int | double =>
    cases readAs_of_value read with
    | plain _ anywhere => exact anywhere _
  | string s =>
    cases readAs_of_value read with
    | string first opened inside => exact value_of_string first opened inside _
    | plain _ anywhere => exact anywhere _
  | @array room items each ih =>
    cases readAs_of_value read with
    | @array depth _ m m₁ m₂ first opened inside closed =>
      have inside := items_eq_ok (fun i v stands _ _ read =>
        ih v (List.mem_of_getElem? stands) read) inside
      exact bind_eq_ok.2 ⟨_, m, first, bind_eq_ok.2 ⟨_, m₁, opened, bind_eq_ok.2 ⟨_, m₂, inside,
        bind_eq_ok.2 ⟨_, c', closed, rfl⟩⟩⟩⟩
    | plain _ anywhere => exact anywhere _
  | @object room ms each ih =>
    cases readAs_of_value read with
    | @object depth content m m₁ m₂ first opened inside closed =>
      have inside : members (fun ms => do return (← member (value room)) :: ms) [] m₁ =
          .ok content m₂ := by
        apply members_eq_ok
          (fun ms => ∀ m ∈ ms, ∀ c c', value depth c = .ok m.2 c' → value room c = .ok m.2 c')
          ?_ inside
        · exact fun m among c c' => ih m (List.mem_reverse.2 among)
        · intro seen c ms c' read good
          obtain ⟨m, _, whole, made⟩ := bind_eq_ok.1 read
          cases made
          obtain ⟨here, before⟩ := List.forall_mem_cons.1 good
          exact ⟨before, bind_eq_ok.2 ⟨m, c', member_eq_ok here whole, rfl⟩⟩
      exact bind_eq_ok.2 ⟨_, m, first, bind_eq_ok.2 ⟨_, m₁, opened, bind_eq_ok.2 ⟨_, m₂, inside,
        bind_eq_ok.2 ⟨_, c', closed, rfl⟩⟩⟩⟩
    | plain _ anywhere => exact anywhere _

end Json
end ConditionQuery
