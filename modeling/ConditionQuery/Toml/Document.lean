import ConditionQuery.Toml.Number
import ConditionQuery.Toml.Quoted
import ConditionQuery.Toml.Section

/-! TOML documents. -/
namespace ConditionQuery.Toml
namespace Scan

def arrayItems (item : Scan Value) : Nat → Scan (List Value)
  | 0 => failure
  | fuel + 1 => do
    space
    if ← accept "]" then return []
    let v ← item
    space
    if ← accept "," then return v :: (← arrayItems item fuel)
    expect "]"
    return [v]

def pair (item : Scan Value) : Scan Pair := do
  let (path, key) ← key
  expect "="
  gap
  return ⟨path, key, ← item⟩

def inlinePairs (item : Scan Value) : Nat → Scan (List Pair)
  | 0 => failure
  | fuel + 1 => do
    let p ← pair item
    gap
    if ← accept "," then return p :: (← inlinePairs item fuel)
    expect "\x7d"
    return [p]

def scalar : Scan Value := do
  if let some s ← optionally string then return .string s
  if ← accept "true" then return .boolean true
  if ← accept "false" then return .boolean false
  if (← optionally moment).isSome then return .moment
  if (← optionally float).isSome then return .float
  return .integer (← integer)

/-- A value in which brackets nest no deeper than the number says. -/
def value : Nat → Scan Value
  | 0 => do
    guard (!(← peek?).any fun c => c == '[' || c == '\x7b')
    scalar
  | depth + 1 => do
    let fuel := (← get).length
    if ← accept "[" then return .array (← arrayItems (value depth) fuel)
    else if ← accept "\x7b" then
      gap
      if ← accept "\x7d" then return .table .inline []
      let pairs ← inlinePairs (value depth) fuel
      return .table .inline (← Members.addPairs [] pairs)
    else scalar

def header : Scan Header := do
  expect "["
  let repeated ← accept "["
  let (path, key) ← key
  expect (if repeated then "]]" else "]")
  return ⟨path, key, repeated⟩

def entry? : Scan (Option Entry) := do
  gap
  match ← peek? with
  | none | some '#' | some '\n' | some '\r' => return none
  | some '[' => return some (.header (← header))
  | some _ => return some (.pair (← pair (value maxDepth)))

def entries : Nat → Scan (List Entry)
  | 0 => failure
  | fuel + 1 => do
    if (← get).isEmpty then return []
    let e? ← entry?
    endLine
    return e?.toList ++ (← entries fuel)

end Scan

/-- The root table of a document, which may begin with a byte order mark. -/
def parse (text : String) : Option Members := do
  let cs := match text.toList with
    | '\uFEFF' :: cs => cs
    | cs => cs
  let (entries, _) ← Scan.entries (cs.length + 1) cs
  Members.ofEntries entries

end ConditionQuery.Toml
