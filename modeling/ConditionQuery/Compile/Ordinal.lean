/-! Maps and sets whose keys are the ordinals of slots, kept in ascending order. -/
namespace ConditionQuery

structure OrdinalMap (α : Type) where
  entries : List (Nat × α)
  ascending : entries.Pairwise fun a b => a.1 < b.1

structure OrdinalSet where
  elems : List Nat
  ascending : elems.Pairwise (· < ·)
  deriving DecidableEq

namespace OrdinalSet

def empty : OrdinalSet := ⟨[], .nil⟩

instance : Inhabited OrdinalSet := ⟨empty⟩

def insertInto (n : Nat) : List Nat → List Nat
  | [] => [n]
  | m :: rest =>
    if n < m then n :: m :: rest
    else if n = m then m :: rest
    else m :: insertInto n rest

theorem mem_insertInto {n m : Nat} {elems : List Nat} :
    m ∈ insertInto n elems ↔ m = n ∨ m ∈ elems := by
  induction elems with
  | nil => simp [insertInto]
  | cons k rest ih =>
    simp only [insertInto]
    split
    · simp
    · split
      · rename_i same
        subst same
        simp
      · simp only [List.mem_cons, ih]
        grind

theorem insertInto_ascending {n : Nat} {elems : List Nat} (ascending : elems.Pairwise (· < ·)) :
    (insertInto n elems).Pairwise (· < ·) := by
  induction elems with
  | nil => simp [insertInto]
  | cons k rest ih =>
    obtain ⟨above, rest_ascending⟩ := List.pairwise_cons.1 ascending
    simp only [insertInto]
    split
    · rename_i below
      refine List.pairwise_cons.2 ⟨fun m member => ?_, ascending⟩
      rcases List.mem_cons.1 member with rfl | member
      · exact below
      · exact Nat.lt_trans below (above m member)
    · split
      · exact ascending
      · refine List.pairwise_cons.2 ⟨fun m member => ?_, ih rest_ascending⟩
        rcases mem_insertInto.1 member with rfl | member
        · omega
        · exact above m member

def insert (n : Nat) (s : OrdinalSet) : OrdinalSet :=
  ⟨insertInto n s.elems, insertInto_ascending s.ascending⟩

def ofList (ns : List Nat) : OrdinalSet := ns.foldl (fun s n => s.insert n) empty

def contains (s : OrdinalSet) (n : Nat) : Bool := s.elems.contains n

def isEmpty (s : OrdinalSet) : Bool := s.elems.isEmpty

end OrdinalSet

namespace OrdinalMap

variable {α : Type}

def empty : OrdinalMap α := ⟨[], .nil⟩

instance : Inhabited (OrdinalMap α) := ⟨empty⟩

/-- Adds an entry; one already there for the ordinal is replaced. -/
def insertInto (n : Nat) (a : α) : List (Nat × α) → List (Nat × α)
  | [] => [(n, a)]
  | (m, b) :: rest =>
    if n < m then (n, a) :: (m, b) :: rest
    else if n = m then (n, a) :: rest
    else (m, b) :: insertInto n a rest

theorem key_of_mem_insertInto {n : Nat} {a : α} {e : Nat × α} {entries : List (Nat × α)}
    (member : e ∈ insertInto n a entries) : e.1 = n ∨ e ∈ entries := by
  induction entries with
  | nil =>
    simp only [insertInto, List.mem_singleton] at member
    exact .inl (congrArg Prod.fst member)
  | cons head rest ih =>
    obtain ⟨m, b⟩ := head
    simp only [insertInto] at member
    split at member
    · rcases List.mem_cons.1 member with rfl | member
      · exact .inl rfl
      · exact .inr member
    · split at member
      · rcases List.mem_cons.1 member with rfl | member
        · exact .inl rfl
        · exact .inr (List.mem_cons_of_mem _ member)
      · rcases List.mem_cons.1 member with rfl | member
        · exact .inr List.mem_cons_self
        · exact (ih member).imp_right (List.mem_cons_of_mem _)

theorem insertInto_ascending {n : Nat} {a : α} {entries : List (Nat × α)}
    (ascending : entries.Pairwise fun a b => a.1 < b.1) :
    (insertInto n a entries).Pairwise fun a b => a.1 < b.1 := by
  induction entries with
  | nil => simp [insertInto]
  | cons head rest ih =>
    obtain ⟨m, b⟩ := head
    obtain ⟨above, rest_ascending⟩ := List.pairwise_cons.1 ascending
    simp only [insertInto]
    split
    · rename_i below
      refine List.pairwise_cons.2 ⟨fun e member => ?_, ascending⟩
      rcases List.mem_cons.1 member with rfl | member
      · exact below
      · exact Nat.lt_trans below (above e member)
    · split
      · rename_i same
        subst same
        exact List.pairwise_cons.2 ⟨above, rest_ascending⟩
      · refine List.pairwise_cons.2 ⟨fun e member => ?_, ih rest_ascending⟩
        rcases key_of_mem_insertInto member with same | member
        · simp only [same]
          omega
        · exact above e member

def insert (n : Nat) (a : α) (m : OrdinalMap α) : OrdinalMap α :=
  ⟨insertInto n a m.entries, insertInto_ascending m.ascending⟩

/-- Of entries with one ordinal the last counts. -/
def ofList (entries : List (Nat × α)) : OrdinalMap α :=
  entries.foldl (fun m (n, a) => m.insert n a) empty

/-- The entries numbered from `n` on. -/
def numberFrom (n : Nat) : List α → List (Nat × α)
  | [] => []
  | a :: rest => (n, a) :: numberFrom (n + 1) rest

theorem le_of_mem_numberFrom {n : Nat} {values : List α} {e : Nat × α}
    (member : e ∈ numberFrom n values) : n ≤ e.1 := by
  induction values generalizing n with
  | nil => simp [numberFrom] at member
  | cons a rest ih =>
    simp only [numberFrom, List.mem_cons] at member
    rcases member with rfl | member
    · exact Nat.le_refl _
    · exact Nat.le_of_succ_le (ih member)

theorem numberFrom_ascending (n : Nat) (values : List α) :
    (numberFrom n values).Pairwise fun a b => a.1 < b.1 := by
  induction values generalizing n with
  | nil => exact .nil
  | cons a rest ih =>
    exact List.pairwise_cons.2 ⟨fun e member => le_of_mem_numberFrom member, ih (n + 1)⟩

/-- The values under the ordinals from one on. -/
def enumerate (values : List α) : OrdinalMap α :=
  ⟨numberFrom 1 values, numberFrom_ascending 1 values⟩

def get? (m : OrdinalMap α) (n : Nat) : Option α :=
  (m.entries.find? fun e => e.1 == n).map (·.2)

def size (m : OrdinalMap α) : Nat := m.entries.length

def map {β : Type} (f : α → β) (m : OrdinalMap α) : OrdinalMap β :=
  ⟨m.entries.map fun e => (e.1, f e.2), List.pairwise_map.2 m.ascending⟩

/-- The ordinals whose values satisfy the predicate. -/
def ordinalsWhere (p : α → Bool) (m : OrdinalMap α) : OrdinalSet :=
  ⟨(m.entries.filter fun e => p e.2).map (·.1),
    List.pairwise_map.2 (m.ascending.filter _)⟩

end OrdinalMap
end ConditionQuery
