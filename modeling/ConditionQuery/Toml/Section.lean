import ConditionQuery.Toml.Value

/-! How the lines of a document make up its root table: pairs go into the table of the last header.
No key is given a value twice, and no table is opened twice. -/
namespace ConditionQuery.Toml

structure Pair where
  path : List String
  key : String
  value : Value

structure Header where
  path : List String
  key : String
  /-- The header adds a table to an array of tables. -/
  repeated : Bool

inductive Entry where
  | pair (p : Pair)
  | header (h : Header)

/-- Changes the members of the table that a path leads to. Tables missing on the way are made with
the given origin. A dotted key may lead through tables of headers not its own only as far as they
were opened on the way to others. -/
def Members.update (origin : Origin) (change : Origin → Members → Option Members) :
    (path : List String) → Origin → Members → Option Members
  | [], own, members => change own members
  | key :: path, _, members => do
    match members.get? key with
    | none =>
      return members.set key (.table origin (← Members.update origin change path origin []))
    | some (.table own inner) =>
      guard (own ≠ .inline ∧ (origin = .dotted → own ≠ .header))
      return members.set key (.table own (← Members.update origin change path own inner))
    | some (.tables (newest :: earlier)) =>
      let newest ← Members.update origin change path .header newest
      return members.set key (.tables (newest :: earlier))
    | some _ => none

/-- Adds a pair. A dotted key ends in a table that dotted keys opened, any other key in a table that
they did not. -/
def Members.addPair (members : Members) (p : Pair) : Option Members :=
  Members.update .dotted
    (fun own members => do
      guard ((own = .dotted) = (p.path ≠ []))
      guard (members.get? p.key).isNone
      return members.set p.key p.value)
    p.path .header members

def Members.addPairs (members : Members) (pairs : List Pair) : Option Members :=
  pairs.foldlM Members.addPair members

def Members.addTable (members : Members) (h : Header) (pairs : List Pair) : Option Members :=
  Members.update .ancestor
    (fun _ members => do
      if h.repeated then
        let earlier ← match members.get? h.key with
          | none => some []
          | some (.tables items) => some items
          | some _ => none
        return members.set h.key (.tables ((← Members.addPairs [] pairs) :: earlier))
      else
        let inner ← match members.get? h.key with
          | none => some []
          | some (.table .ancestor inner) => some inner
          | some _ => none
        return members.set h.key (.table .header (← Members.addPairs inner pairs)))
    h.path .header members

def splitHeaders : List Entry → List Pair × List (Header × List Pair)
  | [] => ([], [])
  | .pair p :: rest =>
    let (pairs, sections) := splitHeaders rest
    (p :: pairs, sections)
  | .header h :: rest =>
    let (pairs, sections) := splitHeaders rest
    ([], (h, pairs) :: sections)

def Members.ofEntries (entries : List Entry) : Option Members := do
  let (pairs, sections) := splitHeaders entries
  sections.foldlM (fun members (h, pairs) => members.addTable h pairs)
    (← Members.addPairs [] pairs)

end ConditionQuery.Toml
