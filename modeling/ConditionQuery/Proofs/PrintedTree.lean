import ConditionQuery.Hub.Service
import ConditionQuery.Proofs.Holders
import ConditionQuery.Proofs.Spacing

/-! Trees as they are printed, by a printer that knows nothing of tokens: as a text, with a name for
each value, and as a template, with a slot for each. -/
namespace ConditionQuery

/-- A character of a column. -/
def isWordChar (c : Char) : Bool := c.isAlphanum || c == '_' || c == '.'

theorem isWordChar_bounds {c : Char} (word : isWordChar c = true) :
    45 < c.toNat ∧ c.toNat < 123 := by
  -- The ranges of letters and digits, as the library writes them.
  change (((decide (c.val ≥ 65 ∧ c.val ≤ 90) ||
    (decide (c.val ≥ 97) && decide (c.val ≤ 122))) ||
    (decide (c.val ≥ 48) && decide (c.val ≤ 57))) || c == '_' || c == '.') = true at word
  simp only [Bool.or_eq_true, Bool.and_eq_true, decide_eq_true_eq, beq_iff_eq, ge_iff_le,
    UInt32.le_iff_toNat_le] at word
  rcases word with (((⟨low, high⟩ | ⟨low, high⟩) | ⟨low, high⟩) | rfl) | rfl
  · simp at low high
    omega
  · simp at low high
    omega
  · simp at low high
    omega
  · decide
  · decide

theorem not_isBlank_of_isWordChar {c : Char} (word : isWordChar c = true) :
    Text.isBlank c = false := by
  obtain ⟨low, high⟩ := isWordChar_bounds word
  simp only [Text.isBlank]
  grind

/-- The text is one word. -/
def IsWord (s : String) : Prop := s.toList ≠ [] ∧ s.toList.all isWordChar = true

theorem isWord_of_isIdentifier {name : String} (identifier : isIdentifier name = true) :
    IsWord name := by
  unfold isIdentifier at identifier
  unfold IsWord
  cases form : name.toList with
  | nil => simp [form] at identifier
  | cons first rest =>
    simp only [form, Bool.and_eq_true, Bool.or_eq_true, List.all_eq_true] at identifier
    obtain ⟨start, others⟩ := identifier
    refine ⟨by simp, ?_⟩
    rw [List.all_eq_true, List.forall_mem_cons]
    constructor
    · rcases start with letter | underscore
      · simp [isWordChar, Char.isAlphanum, letter]
      · simp [isWordChar, underscore]
    · intro c member
      rcases others c member with letter | underscore
      · simp [isWordChar, letter]
      · simp [isWordChar, underscore]

theorem IsWord.not_mem {s : String} (word : IsWord s) {c : Char} (other : isWordChar c = false) :
    c ∉ s.toList := by
  intro member
  rw [List.all_eq_true.1 word.2 c member] at other
  contradiction

theorem IsWord.qualified {s s' : String} (word : IsWord s) (word' : IsWord s') :
    IsWord (s ++ "." ++ s') := by
  refine ⟨by simp [word.1], ?_⟩
  have dot : isWordChar '.' = true := by decide
  simp [String.toList_append, List.all_append, dot, word.2, word'.2]

theorem IsWord.solid {s : String} (word : IsWord s) :
    (Template.ofText s : Template ValueHolder).Solid := by
  obtain ⟨nonempty, all⟩ := word
  constructor
  · obtain ⟨c, rest, form⟩ := List.exists_cons_of_ne_nil nonempty
    have char := List.all_eq_true.1 all c (by simp [form])
    have low := (isWordChar_bounds char).1
    have closing : c ≠ ')' := by
      rintro rfl
      simp at low
    have comma : c ≠ ',' := by
      rintro rfl
      simp at low
    simp [Template.Begins, Template.ofText, Template.ofChars, form, Glyph.opens, Glyph.isChar,
      not_isBlank_of_isWordChar char, closing, comma]
  · obtain ⟨front, c, form⟩ := List.eq_nil_or_concat s.toList |>.resolve_left nonempty
    have char := List.all_eq_true.1 all c (by simp [form])
    have low := (isWordChar_bounds char).1
    have opening : c ≠ '(' := by
      rintro rfl
      simp at low
    simp [Template.Ends, Template.ofText, Template.ofChars, form, Glyph.closes, Glyph.isChar,
      not_isBlank_of_isWordChar char, opening]

namespace Expr
open Template (ofText)

/-- What a call of the most recent value is printed as. -/
def lastText (options : CompileOptions) : List Expr → String
  | .storeVariable _ value _ :: _ => "MAX(" ++ options.table ++ "." ++ value ++ ")"
  | _ => ""

mutual

/-- The tree as it is printed, the value with the number `k` being the first. -/
def printed (options : CompileOptions) (value : Nat → String) (k : Nat) : Expr → String
  | .and left right =>
    "((" ++ printed options value k left ++ ") AND " ++
      printed options value (k + left.holders.length) right ++ ")"
  | .or left right =>
    "((" ++ printed options value k left ++ ") OR " ++
      printed options value (k + left.holders.length) right ++ ")"
  | .not operand => "NOT (" ++ printed options value k operand ++ ")"
  | .compare op left right =>
    "(" ++ printed options value k left ++ " " ++ op.token ++ " " ++
      printed options value (k + left.holders.length) right ++ ")"
  | .isNull operand => printed options value k operand ++ " IS NULL"
  | .isIn _ operand => "IN " ++ printed options value k operand
  | .math op left right =>
    "(" ++ printed options value k left ++ " " ++ op.token ++ " " ++
      printed options value (k + left.holders.length) right ++ ")"
  | .function space name args =>
    match Call.ofName? space name with
    | some .last => lastText options args
    | some .contains => "CONTAINS(" ++ ", ".intercalate (printedArgs options value k args) ++ ")"
    | _ => name ++ "(" ++ ", ".intercalate (printedArgs options value k args) ++ ")"
  | .constant _ _ | .streamVariable _ _ _ => value k
  | .storeVariable _ attr _ => columnText options attr

def printedArgs (options : CompileOptions) (value : Nat → String) (k : Nat) :
    List Expr → List String
  | [] => []
  | arg :: rest =>
    printed options value k arg :: printedArgs options value (k + arg.holders.length) rest

end

mutual

/-- The tree as it is printed, with slots for its values. -/
def body (options : CompileOptions) : Expr → Template ValueHolder
  | .and left right =>
    ofText "((" ++ body options left ++ ofText ") " ++ ofText "AND" ++ ofText " " ++
      body options right ++ ofText ")"
  | .or left right =>
    ofText "((" ++ body options left ++ ofText ") " ++ ofText "OR" ++ ofText " " ++
      body options right ++ ofText ")"
  | .not operand => ofText "NOT (" ++ body options operand ++ ofText ")"
  | .compare op left right =>
    ofText "(" ++ body options left ++ ofText " " ++ ofText op.token ++ ofText " " ++
      body options right ++ ofText ")"
  | .isNull operand => body options operand ++ ofText " IS NULL"
  | .isIn _ operand => ofText "IN " ++ body options operand
  | .math op left right =>
    ofText "(" ++ body options left ++ ofText " " ++ ofText op.token ++ ofText " " ++
      body options right ++ ofText ")"
  | .function space name args =>
    match Call.ofName? space name with
    | some .last => ofText (lastText options args)
    | some .contains => ofText "CONTAINS(" ++ bodyOfArgs options true args ++ ofText ")"
    | _ => ofText (name ++ "(") ++ bodyOfArgs options true args ++ ofText ")"
  | .constant v type => [.slot (.constant v type)]
  | .streamVariable id _ type => [.slot (.event id type)]
  | .storeVariable _ attr _ => ofText (columnText options attr)

def bodyOfArgs (options : CompileOptions) (first : Bool) : List Expr → Template ValueHolder
  | [] => []
  | arg :: rest =>
    (if first then [] else ofText ", ") ++ body options arg ++ bodyOfArgs options false rest

end

section Layout

variable {options : CompileOptions} {e : Expr} {c : CompiledCondition}

theorem isWord_columnText {attr : String} (table : IsWord options.table) (word : IsWord attr) :
    IsWord (columnText options attr) := by
  unfold columnText
  split
  · exact word
  · exact table.qualified word

/-- What a sound call of the most recent value is printed as. -/
theorem lastText_of_lastCall {role : Role} {args : List Expr} {value key : String}
    (accepted : lastCall role args = .ok (value, key)) :
    lastText options args = "MAX(" ++ options.table ++ "." ++ value ++ ")" := by
  obtain ⟨storeId, type, rest, rfl, -⟩ := lastCall_ok accepted
  rfl

theorem solid_operator :
    (∀ op : CompareOp, (ofText op.token : Template ValueHolder).Solid) ∧
      ∀ op : MathOp, (ofText op.token : Template ValueHolder).Solid := by
  constructor
  · intro op
    cases op <;> exact ⟨rfl, rfl⟩
  · intro op
    cases op <;> exact ⟨rfl, rfl⟩

theorem solid_call {text : String} (begins : (ofText text : Template ValueHolder).Begins)
    (inner : Template ValueHolder) : (ofText text ++ inner ++ ofText ")").Solid :=
  .between begins (by decide) inner

theorem begins_aggregate {space : Option String} {name : String}
    (named : Call.ofName? space name = some .aggregate) :
    (ofText (name ++ "(") : Template ValueHolder).Begins := by
  rcases Call.name_of_aggregate named with rfl | rfl | rfl | rfl <;> rfl

/-- A tree without faults is printed as something between two glyphs. -/
theorem solid_body (table : IsWord options.table) {role : Role} {e : Expr}
    (attrs : ∀ attr ∈ e.storeAttributes, IsWord attr) (sound : e.fault role = none) :
    (e.body options).Solid := by
  cases e with
  | and left right | or left right | compare op left right | math op left right =>
    simp only [body]
    constructor
    · simp only [List.append_assoc]
      exact .append (by decide) _
    · exact .append (by decide) _
  | not operand => exact .between (by decide) (by decide) _
  | isNull operand =>
    have inner := solid_body table (e := operand) attrs sound
    exact ⟨inner.begins.append _, .append (by decide) _⟩
  | isIn storeId operand =>
    have inner := solid_body table (e := operand) attrs sound
    exact ⟨.append (by decide) _, inner.ends.append _⟩
  | function space name args =>
    cases named : Call.ofName? space name with
    | none => simp [fault, named] at sound
    | some call =>
      cases call with
      | aggregate => simpa only [body, named] using solid_call (begins_aggregate named) _
      | contains => simpa only [body, named] using solid_call (by decide) _
      | last =>
        simp only [fault, named] at sound
        obtain ⟨⟨value, key⟩, accepted⟩ := faultOf_eq_none sound
        simp only [body, named, lastText_of_lastCall accepted, Template.ofText_append]
        constructor
        · simp only [List.append_assoc]
          exact .append (by decide) _
        · exact .append (by decide) _
  | constant v type | streamVariable id streamId type => exact ⟨rfl, rfl⟩
  | storeVariable storeId attr type =>
    exact (isWord_columnText table (attrs attr (List.mem_singleton.2 rfl))).solid

end Layout

end Expr
end ConditionQuery
