/-! Arguments of a command: flags, options with a value, and operands. No flag or option is given
twice. -/
namespace ConditionQuery.CommandLine

inductive Token where
  | ending
  | long (name : String) (value : Option String)
  | short (letters : List Char)
  | operand (text : String)
  deriving DecidableEq, Repr

/-- A single dash is an operand. -/
def Token.ofArgument (argument : String) : Token :=
  match argument.toList with
  | ['-', '-'] => .ending
  | '-' :: '-' :: cs =>
    let name := String.ofList (cs.takeWhile (· != '='))
    match cs.dropWhile (· != '=') with
    | [] => .long name none
    | _ :: value => .long name (some (String.ofList value))
  | '-' :: c :: cs => .short (c :: cs)
  | _ => .operand argument

structure Signature where
  flags : List String
  options : List String
  /-- The flags that have a letter. -/
  letters : List (Char × String)

structure Arguments where
  flags : List String
  options : List (String × String)
  operands : List String
  deriving DecidableEq, Repr

namespace Arguments

def empty : Arguments := ⟨[], [], []⟩

def option? (args : Arguments) (name : String) : Option String :=
  (args.options.find? fun o => o.1 == name).map (·.2)

def addFlag? (args : Arguments) (name : String) : Option Arguments :=
  if name ∈ args.flags then none else some { args with flags := args.flags ++ [name] }

def addOption? (args : Arguments) (name value : String) : Option Arguments :=
  if (args.option? name).isSome then none
  else some { args with options := args.options ++ [(name, value)] }

def addOperand (args : Arguments) (operand : String) : Arguments :=
  { args with operands := args.operands ++ [operand] }

def addLetters? (signature : Signature) (args : Arguments) (letters : List Char) :
    Option Arguments :=
  letters.foldlM (fun args c => do
    let (_, name) ← signature.letters.find? fun l => l.1 == c
    args.addFlag? name) args

/-- Reads arguments after those already read. The value of an option is in the same argument, or is
the next argument if that could be an operand. -/
def read? (signature : Signature) (args : Arguments) : List String → Option Arguments
  | [] => some args
  | argument :: rest =>
    match Token.ofArgument argument with
    | .ending => some (rest.foldl addOperand args)
    | .operand text => read? signature (args.addOperand text) rest
    | .short letters => do read? signature (← args.addLetters? signature letters) rest
    | .long name value =>
      if name ∈ signature.flags then
        match value with
        | none => do read? signature (← args.addFlag? name) rest
        | some _ => none
      else if name ∈ signature.options then
        match value with
        | some value => do read? signature (← args.addOption? name value) rest
        | none =>
          match rest with
          | [] => none
          | next :: rest =>
            match Token.ofArgument next with
            | .operand value => do read? signature (← args.addOption? name value) rest
            | _ => none
      else none

end Arguments
end ConditionQuery.CommandLine
