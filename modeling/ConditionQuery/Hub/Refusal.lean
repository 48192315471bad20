import ConditionQuery.Compile.Binding
import ConditionQuery.Compile.Call

/-! Why a hub refuses a request. -/
namespace ConditionQuery

inductive Status where
  | ok
  | created
  | noContent
  | badRequest
  | notFound
  | methodNotAllowed
  | payloadTooLarge
  | unsupportedMediaType
  | unprocessableEntity
  | internalServerError
  deriving DecidableEq, Repr

namespace Status

def code : Status → Nat
  | .ok => 200
  | .created => 201
  | .noContent => 204
  | .badRequest => 400
  | .notFound => 404
  | .methodNotAllowed => 405
  | .payloadTooLarge => 413
  | .unsupportedMediaType => 415
  | .unprocessableEntity => 422
  | .internalServerError => 500

def reason : Status → String
  | .ok => "OK"
  | .created => "Created"
  | .noContent => "No Content"
  | .badRequest => "Bad Request"
  | .notFound => "Not Found"
  | .methodNotAllowed => "Method Not Allowed"
  | .payloadTooLarge => "Payload Too Large"
  | .unsupportedMediaType => "Unsupported Media Type"
  | .unprocessableEntity => "Unprocessable Entity"
  | .internalServerError => "Internal Server Error"

def isSuccess (status : Status) : Bool := 200 ≤ status.code && status.code < 300

def text (status : Status) : String := toString status.code ++ " " ++ status.reason

end Status

inductive Refusal where
  | noTable
  | invalidTable (name : String)
  | invalidAttribute (name : String)
  | invalidAlias (name : String)
  | uncompilable (error : CompileError)
  | unknownCondition (id : String)
  | unbindable (error : BindError)
  /-- The id in the path is not UTF-8. -/
  | invalidPath
  /-- The body is not said to be JSON. -/
  | unsupportedMediaType
  | bodyTooLarge
  | unreadable (failure : Json.Failure)
  deriving DecidableEq, Repr

namespace Refusal

def status : Refusal → Status
  | .noTable | .invalidTable _ | .invalidAttribute _ | .uncompilable _ | .invalidPath => .badRequest
  | .invalidAlias _ => .internalServerError
  | .unknownCondition _ => .notFound
  | .unbindable _ => .unprocessableEntity
  | .unsupportedMediaType => .unsupportedMediaType
  | .bodyTooLarge => .payloadTooLarge
  | .unreadable failure => if failure.isMalformed then .badRequest else .unprocessableEntity

def message : Refusal → String
  | .noTable => "No table given and no default_table configured"
  | .invalidTable name => "Invalid table name '" ++ name ++ "'"
  | .invalidAttribute name => "Invalid attribute name '" ++ name ++ "'"
  | .invalidAlias name => "Invalid configured subquery alias '" ++ name ++ "'"
  | .uncompilable error => error.message
  | .unknownCondition id => "Condition '" ++ id ++ "' not found"
  | .unbindable error => error.message
  | .invalidPath => "Invalid URL: Invalid UTF-8 in `id`"
  | .unsupportedMediaType => "Expected request with `Content-Type: application/json`"
  | .bodyTooLarge => "Failed to buffer the request body: length limit exceeded"
  | .unreadable failure =>
    (if failure.isMalformed then "Failed to parse the request body as JSON: "
      else "Failed to deserialize the JSON body into the target type: ") ++ failure.messageWithPath

/-- Whether the request could be read, so that the answer is a document. -/
def isDocument : Refusal → Bool
  | .invalidPath | .unsupportedMediaType | .bodyTooLarge | .unreadable _ => false
  | _ => true

end Refusal
end ConditionQuery
