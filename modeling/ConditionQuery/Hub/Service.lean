import ConditionQuery.Compile.Emission
import ConditionQuery.Hub.CompileRequest
import ConditionQuery.Hub.Config
import ConditionQuery.Hub.MediaType
import ConditionQuery.Hub.Refusal
import ConditionQuery.Hub.Route
import ConditionQuery.Hub.Store
import ConditionQuery.Text.Bytes

/-! The hub: a service that compiles conditions, stores them and binds them to events. -/
namespace ConditionQuery

/-- A text may stand for its bytes. -/
instance coeBytes : Coe String ByteArray := ⟨String.toUTF8⟩

structure Request where
  method : Method
  path : String
  contentType : Option String
  body : ByteArray

/-- What a hub learns from outside when a request arrives. -/
structure Arrival where
  /-- A token that no other request has. -/
  token : String
  time : String
  uptimeSeconds : Nat

inductive Body where
  | empty
  | plain (text : String)
  | document (v : Json)

structure Response where
  status : Status
  contentType : Option String
  /-- The methods that the path admits, where the request's is not answered. -/
  allow : Option (List Method)
  body : Body

namespace Response

def empty (status : Status) : Response := ⟨status, none, none, .empty⟩

def document (status : Status) (v : Json) : Response :=
  ⟨status, some "application/json", none, .document v⟩

def plain (status : Status) (text : String) : Response :=
  ⟨status, some "text/plain; charset=utf-8", none, .plain text⟩

/-- An answer that only names the methods of a route. -/
def allowing (status : Status) (route : Route) : Response :=
  { empty status with allow := some route.allowed }

def refusal (r : Refusal) : Response :=
  if r.isDocument then document r.status (.object [("error", .string r.message)])
  else plain r.status r.message

def withoutBody (response : Response) : Response := { response with body := .empty }

def text (response : Response) : String :=
  match response.body with
  | .empty => ""
  | .plain text => text
  | .document v => v.compact

end Response

/-- Whether a name is a letter or an underscore, and more letters, digits and underscores. -/
def isIdentifier (name : String) : Bool :=
  match name.toList with
  | [] => false
  | c :: cs => (c.isAlpha || c == '_') && cs.all fun c => c.isAlphanum || c == '_'

/-- What a request is compiled with. Only identifiers are written into statements. -/
def HubConfig.resolve (config : HubConfig) (request : CompileRequest) :
    Except Refusal CompileOptions := do
  let some table := request.table <|> config.defaultTable | throw .noTable
  if !isIdentifier table then throw (.invalidTable table)
  if let some attr := request.condition.storeAttributes.find? fun attr => !isIdentifier attr then
    throw (.invalidAttribute attr)
  if !isIdentifier config.subqueryAlias then throw (.invalidAlias config.subqueryAlias)
  return ⟨table, request.afterSelect.getD config.afterSelect, config.subqueryAlias⟩

def HubConfig.compile (config : HubConfig) (request : CompileRequest) :
    Except Refusal CompiledCondition := do
  let options ← config.resolve request
  (request.condition.compile options).mapError .uncompilable

def maxBodySize : Nat := 2 * 1024 * 1024

/-- A value of the wanted type from the body of a request. What follows it is not looked at. -/
def Request.read {α : Type} (request : Request) (shape : Json.Shape)
    (decode : Json → Json.Decoded α) : Except Refusal α := do
  if !request.contentType.any MediaType.isJson then throw .unsupportedMediaType
  if maxBodySize < request.body.size then throw .bodyTooLarge
  (do decode (← shape.readPart request.body)).mapError .unreadable

structure Hub where
  config : HubConfig
  store : Store

namespace Hub

def version : String := "0.1.0"

def start (config : HubConfig) : Hub := ⟨config, .empty config.capacity⟩

def newId (arrival : Arrival) : String := "cond-" ++ arrival.token

def status (hub : Hub) (arrival : Arrival) : Json :=
  .object [
    ("version", .string version),
    ("uptime_seconds", .int arrival.uptimeSeconds),
    ("stored_conditions", .int hub.store.size),
    ("history_capacity", .int hub.config.historyCapacity),
    ("default_table", (hub.config.defaultTable.map Json.string).getD .null),
    ("subquery_alias", .string hub.config.subqueryAlias),
    ("supported_functions", .strings Call.supported)]

def list (hub : Hub) : Json := .array (hub.store.conditions.map StoredCondition.encode)

def create (hub : Hub) (arrival : Arrival) (request : CompileRequest) :
    Except Refusal (StoredCondition × Hub) := do
  let compiled ← hub.config.compile request
  let stored := ⟨newId arrival, arrival.time, request.condition, compiled⟩
  return (stored, { hub with store := hub.store.insert stored })

def find (hub : Hub) (id : String) : Except Refusal StoredCondition :=
  match hub.store.get? id with
  | some stored => .ok stored
  | none => .error (.unknownCondition id)

def remove (hub : Hub) (id : String) : Except Refusal Hub := do
  let _ ← hub.find id
  return { hub with store := hub.store.erase id }

def bind (hub : Hub) (id : String) (event : Event) : Except Refusal QuerySpec := do
  let stored ← hub.find id
  (QuerySpec.build stored.compiled event).mapError .unbindable

def decodeId (id : String) : Except Refusal String :=
  match Text.percentDecode? id with
  | some id => .ok id
  | none => .error .invalidPath

/-- An answer that leaves the hub as it is. -/
def unchanged (hub : Hub) (answer : Except Refusal Response) : Response × Hub :=
  match answer with
  | .ok response => (response, hub)
  | .error r => (.refusal r, hub)

/-- An answer with the hub after it; a refusal leaves the hub as it is. -/
def changing (hub : Hub) (answer : Except Refusal (Response × Hub)) : Response × Hub :=
  match answer with
  | .ok result => result
  | .error r => (.refusal r, hub)

def serve? (hub : Hub) (arrival : Arrival) (request : Request) :
    Method → Route → Option (Response × Hub)
  | .get, .status => some (.document .ok (hub.status arrival), hub)
  | .post, .compile =>
    some (hub.unchanged do
      let compiled ← hub.config.compile (← request.read CompileRequest.shape CompileRequest.decode)
      return .document .ok (.object compiled.answerMembers))
  | .get, .conditions => some (.document .ok hub.list, hub)
  | .post, .conditions =>
    some (hub.changing do
      let wanted ← request.read CompileRequest.shape CompileRequest.decode
      let (stored, hub) ← hub.create arrival wanted
      return (.document .created stored.encode, hub))
  | .get, .condition id =>
    some (hub.unchanged do
      return .document .ok (← hub.find (← decodeId id)).encode)
  | .delete, .condition id =>
    some (hub.changing do
      return (.empty .noContent, ← hub.remove (← decodeId id)))
  | .post, .binding id =>
    some (hub.unchanged do
      let id ← decodeId id
      let wanted ← request.read BindRequest.shape BindRequest.decode
      return .document .ok (← hub.bind id wanted.event).encode)
  | _, _ => none

/-- The answer to a request. A head request is answered like a get request, without the body. -/
def respond (hub : Hub) (arrival : Arrival) (request : Request) : Response × Hub :=
  match Route.ofPath? request.path, request.method with
  | none, .options => (.empty .ok, hub)
  | none, _ => (.empty .notFound, hub)
  | some route, .options => (.allowing .ok route, hub)
  | some route, .head =>
    match hub.serve? arrival request .get route with
    | some (response, hub) => (response.withoutBody, hub)
    | none => (.allowing .methodNotAllowed route, hub)
  | some route, method =>
    (hub.serve? arrival request method route).getD (.allowing .methodNotAllowed route, hub)

end Hub
end ConditionQuery
