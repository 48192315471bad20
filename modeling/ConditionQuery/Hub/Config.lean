import ConditionQuery.Compile.Options
import ConditionQuery.Toml.Document

/-! The configuration of a hub. -/
namespace ConditionQuery

structure HubConfig where
  /-- How many conditions are to be stored. -/
  historyCapacity : Nat
  defaultTable : Option String
  subqueryAlias : String
  afterSelect : Bool
  deriving DecidableEq, Repr, Inhabited

namespace HubConfig

def standard : HubConfig := ⟨1024, none, CompileOptions.defaultAlias, false⟩

/-- The number of conditions that can be stored; there is room for one at least. -/
def capacity (config : HubConfig) : Nat := max 1 config.historyCapacity

/-- The fields of a section, by name or by place. A moment is a section without fields of ours. -/
def sectionField? : Toml.Value → Option (String → Nat → Option Toml.Value)
  | .table _ members => some fun name _ => Toml.Members.get? members name
  | .array items => some fun _ place => items[place]?
  | .moment => some fun _ _ => none
  | _ => none

def fieldOr {α : Type} (default : α) (read? : Toml.Value → Option α) :
    Option Toml.Value → Option α
  | none => some default
  | some v => read? v

def natural? : Toml.Value → Option Nat
  | .integer n => if 0 ≤ n then some n.toNat else none
  | _ => none

def string? : Toml.Value → Option String
  | .string s => some s
  | _ => none

def boolean? : Toml.Value → Option Bool
  | .boolean b => some b
  | _ => none

def ofMembers? (members : Toml.Members) : Option HubConfig := do
  let section? (name : String) :=
    fieldOr (fun _ _ => none) sectionField? (members.get? name)
  let server ← section? "server"
  let compiler ← section? "compiler"
  return {
    historyCapacity := ← fieldOr standard.historyCapacity natural? (server "history_capacity" 0)
    defaultTable := ← fieldOr none (fun v => (string? v).map some) (compiler "default_table" 0)
    subqueryAlias := ← fieldOr standard.subqueryAlias string? (compiler "subquery_alias" 1)
    afterSelect := ← fieldOr standard.afterSelect boolean? (compiler "after_select" 2) }

def parse? (text : String) : Option HubConfig := do ofMembers? (← Toml.parse text)

end HubConfig
end ConditionQuery
