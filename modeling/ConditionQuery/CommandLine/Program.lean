import ConditionQuery.CommandLine.Address
import ConditionQuery.CommandLine.Command
import ConditionQuery.CommandLine.Report
import ConditionQuery.Compile.Binding
import ConditionQuery.Compile.Emission
import ConditionQuery.Condition.ExprJson
import ConditionQuery.Hub.Service

/-! The program: local commands, and commands that ask a hub. -/
namespace ConditionQuery.CommandLine

inductive ReadFailure where
  | missing
  | denied
  | notDirectory
  | directory
  | notUtf8
  | other (reason : String)
  deriving DecidableEq, Repr

def ReadFailure.message : ReadFailure → String
  | .missing => "No such file or directory (os error 2)"
  | .denied => "Permission denied (os error 13)"
  | .notDirectory => "Not a directory (os error 20)"
  | .directory => "Is a directory (os error 21)"
  | .notUtf8 => "stream did not contain valid UTF-8"
  | .other reason => reason

/-- What a hub answers, as a client sees it. -/
structure Reply where
  status : Status
  body : String

def Reply.ofResponse (response : Response) : Reply := ⟨response.status, response.text⟩

/-- What the program does outside itself. -/
structure Environment (m : Type → Type) where
  fileContent : String → m (Except ReadFailure ByteArray)
  inputContent : m (Except ReadFailure ByteArray)
  /-- Sends a request to the hub; a failure is told in words. -/
  send : Request → m (Except String Reply)

inductive CommandError where
  | unreadableFile (path : String) (cause : ReadFailure)
  | unreadableInput (cause : ReadFailure)
  | invalidJson (source : String) (failure : Json.Failure)
  | uncompilable (error : CompileError)
  | unbindable (error : BindError)
  | unreachable (reason : String)
  | refused (status : Status) (reason : String)
  deriving DecidableEq, Repr

def CommandError.message : CommandError → String
  | .unreadableFile path cause => "failed to read " ++ path ++ ": " ++ cause.message
  | .unreadableInput cause => "failed to read stdin: " ++ cause.message
  | .invalidJson source failure => "invalid JSON in " ++ source ++ ": " ++ failure.message
  | .uncompilable error => error.message
  | .unbindable error => error.message
  | .unreachable reason => reason
  | .refused status reason => status.text ++ ": " ++ reason

structure Outcome where
  code : Nat
  out : String
  err : String

def Outcome.success (out : String) : Outcome := ⟨0, out, ""⟩

def Outcome.usage : Outcome := ⟨2, "", "usage: cq [-v] COMMAND [ARGUMENTS]\n"⟩

def Outcome.failure (error : CommandError) : Outcome := ⟨1, "", "Error: " ++ error.message ++ "\n"⟩

/-- The text of a source that has been read. -/
def decodeSource (source : String) (found : Except ReadFailure ByteArray) :
    Except CommandError String :=
  let text := do
    match Text.ofUtf8? (← found) with
    | some text => return text
    | none => throw ReadFailure.notUtf8
  text.mapError fun cause =>
    if source = "-" then .unreadableInput cause else .unreadableFile source cause

def Job.compile (job : Job) (e : Expr) : Except CommandError CompiledCondition :=
  (e.compile job.options).mapError .uncompilable

def bindEvent (c : CompiledCondition) (event : Event) : Except CommandError QuerySpec :=
  (QuerySpec.build c event).mapError .unbindable

section
variable {m : Type → Type} [Monad m] (env : Environment m)

abbrev Run (m : Type → Type) := ExceptT CommandError m

/-- A value that the text of a source holds; a single dash stands for the standard input. -/
def readJson {α : Type} (source : String) (parse : String → Json.Decoded α) : Run m α := do
  let found ← if source = "-" then env.inputContent else env.fileContent source
  let text ← decodeSource source found
  MonadExcept.ofExcept ((parse text).mapError (CommandError.invalidJson source))

def runCompile (job : Job) (json : Bool) : Run m String := do
  let e ← readJson env job.source Expr.parse
  let compiled ← job.compile e
  return if json then compiled.encode.pretty ++ "\n" else report compiled

def runBind (job : Job) (eventSource : String) : Run m String := do
  let e ← readJson env job.source Expr.parse
  let event ← readJson env eventSource fun text => do Event.decode (← Event.shape.read text)
  let compiled ← job.compile e
  let spec ← bindEvent compiled event
  return spec.encode.pretty ++ "\n"

def get (path : String) : Request := ⟨.get, Address.normalize path.toList, none, .empty⟩

/-- The document that asks for a condition to be stored. The tree is sent as it was read, even if it
is no condition. -/
def submissionDocument (table : Option String) (afterSelect : Bool) (condition : Json) : Json :=
  .object [("after_select", .bool afterSelect), ("condition", condition.canonical),
    ("table", (table.map Json.string).getD .null)]

def submission (table : Option String) (afterSelect : Bool) (condition : Json) : Request :=
  { method := .post
    path := "/api/conditions"
    contentType := some "application/json"
    body := (submissionDocument table afterSelect condition).compact }

/-- What is shown of a reply: the document, or the outcome if there is none. -/
def Reply.shown (reply : Reply) : Except CommandError String :=
  let document := (Json.parse reply.body).toOption.map Json.canonical
  if reply.status.isSuccess then
    .ok ((document.elim reply.status.text Json.pretty) ++ "\n")
  else
    let reason := document.bind fun v => (v.get? "error").bind Json.string?
    .error (.refused reply.status (reason.getD reply.body))

def ask (request : Request) : Run m String := do
  let reply ← (← env.send request).mapError CommandError.unreachable
  return (← reply.shown)

def runCommand : Command → Run m String
  | .compile job json => runCompile env job json
  | .bind job event => runBind env job event
  | .submit table afterSelect source => do
    ask env (submission table afterSelect (← readJson env source Json.parse))
  | .list => ask env (get "api/conditions")
  | .fetch id => ask env (get ("api/conditions/" ++ id))
  | .remove id => ask env { get ("api/conditions/" ++ id) with method := .delete }
  | .status => ask env (get "api/status")

def versionText : String := "cq 0.1.0\n"

def run (arguments : List String) : m Outcome := do
  match Invocation.read? arguments with
  | none => return .usage
  | some .version => return .success versionText
  | some (.run command) =>
    match ← (runCommand env command).run with
    | .ok out => return .success out
    | .error error => return .failure error

end
end ConditionQuery.CommandLine
