import ConditionQuery.CommandLine.Program
import ConditionQuery.Proofs.CanonicalTrees
import ConditionQuery.Proofs.PrintedValues
import ConditionQuery.Proofs.TaggedReading

/-! Requests as texts. A record that is written is read member by member, and so the document that
submits a condition is read as the condition with the options beside it. -/
namespace ConditionQuery.Json
open Reading

variable {fields : List Shape.Field} {depth : Nat} {ms : Members} {text after : List Char}

/-- One more member of a record, unless its field was there before. -/
def addField (seen : Members) (m : String × Json) : Option Members :=
  if (Members.get? seen m.1).isSome then none else some (m :: seen)

/-- The record has a field for the member, which reads its value as it is written. -/
def Fits (fields : List Shape.Field) (depth : Nat) (m : String × Json) : Prop :=
  ∃ field, (fields.find? fun field => field.name == m.1) = some field ∧
    ∀ after, Delimits after → (field.shape depth).Comes (printed m.2) after (some m.2)

theorem comes_recordMember {field : Shape.Field} {k : String} {v : Json}
    (found : (fields.find? fun field => field.name == k) = some field)
    (reads : (field.shape depth).Comes text after (some v)) (seen : Members) :
    (Shape.recordMember fields depth seen).Comes (memberText k text) after
      (addField seen (k, v)) := by
  apply Comes.key
  rw [found]
  unfold addField
  dsimp only
  split
  · exact (comes_unplaced _ _ _).bind_none
  · exact .colon ((reads.under (.key k)).map fun v => (k, v) :: seen)

theorem Fits.stepwise_recordMember {m : String × Json} (fits : Fits fields depth m) :
    Stepwise (Shape.recordMember fields depth) addField m := by
  obtain ⟨field, found, reads⟩ := fits
  exact fun seen after delimits => comes_recordMember found (reads after delimits) seen

/-- Every field that must be there is. -/
def Complete (fields : List Shape.Field) (ms : Members) : Prop :=
  (fields.find? fun field =>
    field.presence == .required && (Members.get? ms field.name).isNone) = none

theorem comes_recordOf (title : Title)
    (members : (members (Shape.recordMember fields depth) []).Comes text ('\x7d' :: after) (some ms))
    (complete : Complete fields ms) :
    (Shape.record title fields (depth + 1)).Comes ('\x7b' :: (text ++ ['\x7d'])) after
      (some (.object ms.reverse)) := by
  have record : (Shape.recordMembers fields depth).Comes text ('\x7d' :: after)
      (some ms.reverse) := by
    refine members.bind_end ?_
    dsimp only
    rw [complete]
    exact comes_pure _ _
  refine .token? rfl rfl (.skip ?_)
  exact Comes.bind (.settledBy Shape.settleObject record) (.skip (comes_pure _ _))

/-- Members that fit are read as the record. -/
theorem comes_record (title : Title) (fit : ∀ m ∈ ms, Fits fields depth m)
    (distinct : ms.foldlM addField [] = some ms.reverse) (complete : Complete fields ms.reverse)
    (after : List Char) :
    (Shape.record title fields (depth + 1)).Comes (printed (.object ms)) after
      (some (.object ms)) := by
  have members := comes_members (fun m member => (fit m member).stepwise_recordMember) [] after
  rw [distinct] at members
  have record := comes_recordOf title members complete
  rw [List.reverse_reverse] at record
  rwa [printed_object]

/-- A record of one member, whatever is written for its value. -/
theorem comes_single (title : Title) {field : Shape.Field} {k : String} {v : Json}
    {gaps : List Char} (found : (fields.find? fun field => field.name == k) = some field)
    (reads : (field.shape depth).Comes text (gaps ++ '\x7d' :: after) (some v))
    (all : ∀ c ∈ gaps, isGap c = true) (complete : Complete fields [(k, v)]) :
    (Shape.record title fields (depth + 1)).Comes
      ('\x7b' :: (memberText k text ++ gaps ++ ['\x7d'])) after (some (.object [(k, v)])) := by
  refine comes_recordOf title ?_ complete
  apply Comes.rest
  obtain ⟨fuel, enough⟩ : ∃ fuel, (memberText k text ++ gaps ++ '\x7d' :: after).length = fuel + 1 :=
    ⟨_, rfl⟩
  rw [enough]
  apply comes_membersFrom_succ (comes_hasMember_first _) (comes_recordMember found reads [])
  exact fun seen => (comes_hasMember_end all false after).bind_end (comes_pure seen _)

theorem comes_optionString (s : Option String) (depth : Nat) (after : List Char) :
    (Shape.option .string depth).Comes (printed ((s.map Json.string).getD .null)) after
      (some ((s.map Json.string).getD .null)) := by
  cases s with
  | none =>
    have word : printed .null = 'n' :: "ull".toList := Text.encoded_of_ascii (by decide)
    rw [Option.map_none, Option.getD_none, word]
    exact .token? rfl rfl (.skip ((comes_word _ _).map fun _ => Json.null))
  | some s =>
    rw [Option.map_some, Option.getD_some, printed_string]
    exact .token? rfl rfl (.token? rfl rfl (.skip ((comes_string s _).map Json.string)))

theorem comes_optionBool (b : Bool) (depth : Nat) (after : List Char) :
    (Shape.option .bool depth).Comes (printed (.bool b)) after (some (.bool b)) := by
  cases b with
  | false =>
    have word : printed (.bool false) = 'f' :: "alse".toList := Text.encoded_of_ascii (by decide)
    rw [word]
    exact .token? rfl rfl (.token? rfl rfl (.skip ((comes_word _ _).map fun _ => Json.bool false)))
  | true =>
    have word : printed (.bool true) = 't' :: "rue".toList := Text.encoded_of_ascii (by decide)
    rw [word]
    exact .token? rfl rfl (.token? rfl rfl (.skip ((comes_word _ _).map fun _ => Json.bool true)))

/-! The canonical form is written and read like the value. -/

theorem Reprints.canonical {v : Json} (reprints : Reprints depth v) :
    Reprints depth v.canonical := by
  induction reprints with
  | null =>
    rw [Json.canonical]
    exact .null
  | bool b =>
    rw [Json.canonical]
    exact .bool b
  | int fits =>
    rw [Json.canonical]
    exact .int fits
  | double back =>
    rw [Json.canonical]
    exact .double back
  | string s =>
    rw [Json.canonical]
    exact .string s
  | array each ih =>
    rw [Json.canonical, canonicalItems_eq]
    exact .array (List.forall_mem_map.2 ih)
  | object each ih =>
    rw [Json.canonical]
    refine .object fun m member => ?_
    obtain ⟨m', among, rfl⟩ := Members.exists_of_mem_canonical member
    exact ih m' among

end ConditionQuery.Json

namespace ConditionQuery.CompileRequest
open Json Json.Reading CommandLine

/-- What is read of the bytes that are posted. -/
def readBytes (bytes : ByteArray) : Decoded CompileRequest := do decode (← shape.readPart bytes)

/-- The fields in the order of declaration. -/
def fields : List Shape.Field :=
  [⟨"table", .omittable, .option .string⟩, ⟨"after_select", .omittable, .option .bool⟩,
    ⟨"condition", .required, Expr.shape⟩]

/-- The members of a submission. -/
def submissionMembers (table : Option String) (afterSelect : Bool) (condition : Json) : Members :=
  [("after_select", .bool afterSelect), ("condition", condition),
    ("table", (table.map Json.string).getD .null)]

variable (table : Option String) (afterSelect : Bool) {v : Json} {e : Expr}

theorem decode_submission (decoded : Expr.decode .direct v = .ok e) :
    decode (.object (submissionMembers table afterSelect v)) =
      .ok ⟨table, some afterSelect, e⟩ := by
  have tableRead : (Parts.members (submissionMembers table afterSelect v)).defaulted 0 "table" none
      (decodeOption decodeString) = .ok table := by
    cases table with
    | none => rfl
    | some name => rfl
  have optionRead : (Parts.members (submissionMembers table afterSelect v)).defaulted 1
      "after_select" none (decodeOption decodeBool) = .ok (some afterSelect) := rfl
  have conditionRead : (Parts.members (submissionMembers table afterSelect v)).required 2
      "condition" (Expr.decode .direct) = .ok e := by
    simp [Parts.required, Parts.field?, submissionMembers, decoded]
  rw [decode, decodeRecord, tableRead, optionRead, conditionRead]
  rfl

theorem fits_submission (reprints : Reprints 126 v) (decoded : Expr.decode .direct v = .ok e) :
    ∀ m ∈ submissionMembers table afterSelect v, Fits fields 126 m := by
  simp only [submissionMembers, List.forall_mem_cons]
  refine ⟨?_, ?_, ?_, fun _ member => absurd member List.not_mem_nil⟩
  · exact ⟨⟨"after_select", .omittable, .option .bool⟩, rfl,
      fun after _ => comes_optionBool afterSelect 126 after⟩
  · exact ⟨⟨"condition", .required, Expr.shape⟩, rfl,
      fun _ delimits => Expr.comes_shape (reprints.comes_value delimits) decoded⟩
  · exact ⟨⟨"table", .omittable, .option .string⟩, rfl,
      fun after _ => comes_optionString table 126 after⟩

/-- A submission is read as the condition with its options. Of the brackets that may be open, the
document itself takes the first. -/
theorem readBytes_submission (reprints : Reprints 126 v)
    (decoded : Expr.decode .direct v = .ok e) :
    readBytes (submissionDocument table afterSelect v).compact.toUTF8 =
      .ok ⟨table, some afterSelect, e⟩ := by
  have reads := comes_record title
    (fits_submission table afterSelect reprints.canonical (Expr.decode_canonical decoded)) rfl rfl
    []
  have read : shape.readPart (submissionDocument table afterSelect v).compact.toUTF8 =
      .ok (.object (submissionMembers table afterSelect v.canonical)) := by
    apply Comes.runPart
    rw [Text.octets_toUTF8]
    exact reads
  rw [readBytes, read]
  exact decode_submission table afterSelect (Expr.decode_canonical decoded)

theorem decode_alone (decoded : Expr.decode .direct v = .ok e) :
    decode (.object [("condition", v)]) = .ok ⟨none, none, e⟩ := by
  have conditionRead : (Parts.members [("condition", v)]).required 2 "condition"
      (Expr.decode .direct) = .ok e := by
    simp [Parts.required, Parts.field?, decoded]
  rw [decode, decodeRecord, conditionRead]
  rfl

theorem octets_alone (text : String) :
    Text.octets ("\x7b\"condition\":" ++ text ++ "\x7d").toUTF8 =
      '\x7b' :: (memberText "condition" (Text.octets text.toUTF8) ++ ['\x7d']) := by
  have key : bodyText "condition" = "condition\"".toList := by decide +kernel
  have front : Text.encoded "\x7b\"condition\":".toList = "\x7b\"condition\":".toList :=
    Text.encoded_of_ascii (by decide)
  have back : Text.encoded "\x7d".toList = ['\x7d'] := Text.encoded_of_ascii (by decide)
  rw [Text.octets_toUTF8, Text.octets_toUTF8, String.toList_append, String.toList_append,
    Text.encoded_append, Text.encoded_append, front, back, memberText, key]
  simp

/-- A text that holds a tree is read as the condition where it stands for one. -/
theorem readBytes_alone {text : String} {v : Json} {e : Expr} (parsed : Json.parse text = .ok v)
    (reprints : Reprints 126 v) (decoded : Expr.decode .direct v = .ok e) :
    readBytes ("\x7b\"condition\":" ++ text ++ "\x7d").toUTF8 = .ok ⟨none, none, e⟩ := by
  obtain ⟨c, read, gaps⟩ := exists_of_run parsed
  have delimits : Delimits ['\x7d'] := delimits_cons (by decide) []
  obtain ⟨body, form, reads⟩ := carries_value delimits 126 _ _ _ _ (reprints.value_eq_ok read)
  have bytes : Text.octets ("\x7b\"condition\":" ++ text ++ "\x7d").toUTF8 =
      '\x7b' :: (memberText "condition" body ++ c.rest ++ ['\x7d']) := by
    have form : Text.octets text.toUTF8 = body ++ c.rest := form
    rw [octets_alone, form]
    simp [memberText]
  have found : (fields.find? fun field => field.name == "condition") =
      some ⟨"condition", .required, Expr.shape⟩ := rfl
  have record := comes_single title found (Expr.comes_shape reads decoded) gaps rfl
  have read : shape.readPart ("\x7b\"condition\":" ++ text ++ "\x7d").toUTF8 =
      .ok (.object [("condition", v)]) := by
    apply Comes.runPart
    rw [bytes]
    exact record
  rw [readBytes, read]
  exact decode_alone decoded

end ConditionQuery.CompileRequest
