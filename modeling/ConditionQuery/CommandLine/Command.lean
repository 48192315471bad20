import ConditionQuery.CommandLine.Arguments
import ConditionQuery.Compile.Options

/-! The commands, and the arguments that give them. -/
namespace ConditionQuery.CommandLine

structure Job where
  options : CompileOptions
  source : String
  deriving DecidableEq, Repr

inductive Command where
  | compile (job : Job) (json : Bool)
  | bind (job : Job) (event : String)
  | submit (table : Option String) (afterSelect : Bool) (source : String)
  | list
  | fetch (id : String)
  | remove (id : String)
  | status
  deriving DecidableEq, Repr

inductive Invocation where
  | version
  | run (command : Command)
  deriving DecidableEq, Repr

/-- A signature with the flag that every command has. -/
def signature (flags options : List String) : Signature :=
  ⟨"verbose" :: flags, options, [('v', "verbose")]⟩

def Arguments.single? (args : Arguments) : Option String :=
  match args.operands with
  | [operand] => some operand
  | _ => none

/-- A source may not be empty. -/
def source? (path : String) : Option String := if path = "" then none else some path

def Arguments.job? (args : Arguments) : Option Job := do
  let table ← args.option? "table"
  let aliasName := (args.option? "alias").getD CompileOptions.defaultAlias
  return ⟨⟨table, "after-select" ∈ args.flags, aliasName⟩, ← source? (← args.single?)⟩

def Arguments.nothing? (args : Arguments) (command : Command) : Option Command :=
  if args.operands.isEmpty then some command else none

namespace Command

def read? (name : String) (arguments : List String) : Option Command := do
  let read (flags options : List String) :=
    Arguments.read? (signature flags options) .empty arguments
  match name with
  | "compile" =>
    let args ← read ["after-select", "json"] ["table", "alias"]
    return .compile (← args.job?) ("json" ∈ args.flags)
  | "bind" =>
    let args ← read ["after-select"] ["table", "alias", "event"]
    return .bind (← args.job?) (← source? (← args.option? "event"))
  | "submit" =>
    let args ← read ["after-select"] ["table"]
    return .submit (args.option? "table") ("after-select" ∈ args.flags)
      (← source? (← args.single?))
  | "list" => (← read [] []).nothing? .list
  | "show" => return .fetch (← (← read [] []).single?)
  | "remove" => return .remove (← (← read [] []).single?)
  | "status" => (← read [] []).nothing? .status
  | _ => none

end Command

namespace Invocation

/-- What letters before the command ask for: the version, or, with `verbose` said already or not,
whether it has been said now. -/
def readLetters? (verbose : Bool) : List Char → Option (Sum Unit Bool)
  | [] => some (.inr verbose)
  | 'V' :: _ => some (.inl ())
  | 'v' :: rest => if verbose then none else readLetters? true rest
  | _ :: _ => none

/-- Reads all arguments; asking for the version leaves the rest unread. -/
def readFrom? (verbose : Bool) : List String → Option Invocation
  | [] => none
  | argument :: rest =>
    match Token.ofArgument argument with
    | .long "version" none => some .version
    | .long "verbose" none => if verbose then none else readFrom? true rest
    | .short letters =>
      match readLetters? verbose letters with
      | some (.inl _) => some .version
      | some (.inr verbose) => readFrom? verbose rest
      | none => none
    | .operand name => (Command.read? name rest).map .run
    | _ => none

def read? (arguments : List String) : Option Invocation := readFrom? false arguments

end Invocation
end ConditionQuery.CommandLine
