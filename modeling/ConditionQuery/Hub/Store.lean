import ConditionQuery.Compile.Statement
import ConditionQuery.Condition.ExprJson

/-! Stored conditions. A full store gives up its oldest condition for a new one. -/
namespace ConditionQuery

structure StoredCondition where
  id : String
  createdAt : String
  source : Expr
  compiled : CompiledCondition

/-- A compiled condition and the statement to run, as members of an answer. -/
def CompiledCondition.answerMembers (c : CompiledCondition) : Json.Members :=
  [("compiled", c.encode), ("query", .string c.query)]

def StoredCondition.encode (stored : StoredCondition) : Json :=
  .object ([("id", .string stored.id), ("created_at", .string stored.createdAt),
    ("source", stored.source.encode)] ++ stored.compiled.answerMembers)

/-- Conditions in the order in which they were stored. -/
structure Store where
  capacity : Nat
  conditions : List StoredCondition

namespace Store

def empty (capacity : Nat) : Store := ⟨capacity, []⟩

def size (store : Store) : Nat := store.conditions.length

def retained (store : Store) : List StoredCondition :=
  if store.capacity ≤ store.size then store.conditions.tail else store.conditions

def insert (store : Store) (stored : StoredCondition) : Store :=
  { store with conditions := store.retained ++ [stored] }

def get? (store : Store) (id : String) : Option StoredCondition :=
  store.conditions.find? fun stored => stored.id == id

def erase (store : Store) (id : String) : Store :=
  { store with conditions := store.conditions.eraseP fun stored => stored.id == id }

end Store
end ConditionQuery
