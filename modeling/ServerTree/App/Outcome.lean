import ServerTree.App.World
import ServerTree.Http.Wire
import ServerTree.Sanitize

/-!
# Failures outside of routes, and the access log

What routing, body decoding and engine functions raise is answered here, in the envelope that routes use
too. Every response can be followed by one line of the access log.

## Main definitions
- `answerHttpError`, `answerFailure`: the responses of failures
- `accessLine`, `logAccess`: the access log
-/

namespace ServerTree

variable {U : Type}

/-! ## Failures -/

/-- The error that tells a client why there is no route. -/
def Miss.httpError : Miss → HttpError Value
  | .notFound => .notFound (.str "Not Found")
  | .otherMethods allowed => .methodNotAllowed allowed .none

/-- The response of an HTTP error: its status and headers, and the detail as far as it may be shown. -/
def HttpError.envelope (e : HttpError Value) : Attempt (Response Value) := do
  let status ← e.status.text
  let shown ← sanitizeFailure (.http e) ("Error " ++ status)
  errorEnvelope e.status (.str shown) e.headers

/-- A number without its fraction, in digits. -/
def wholeDigits? : Value → Option String
  | .int n => ((Value.int n).text).toOption
  | .bool b => some (if b then "1" else "0")
  | .float x => if x.isInf then none else some (toString (Decimal.truncated x))
  | _ => none

/-- The line of an HTTP error in the log. There is none for a status that is no number. -/
def HttpError.line? (e : HttpError Value) (request : Request) : Option String := do
  let status ← wholeDigits? e.status
  let detail ← e.detail.text.toOption
  return status ++ " " ++ request.method ++ " " ++ request.path ++ " — " ++ detail

/-- Answers an HTTP error. -/
def answerHttpError (e : HttpError Value) (request : Request) : Act U (Response Value) := do
  Act.changeLog fun log => .ok (log.append .server .debug (e.line? request))
  Act.ofAttempt e.envelope

/-- Answers a failure that nothing else answered. When debugging, the response shows the failure. -/
def answerInternalError (debug : Bool) (f : Fault) (request : Request) :
    Act U (Response Value) := do
  Act.log .server .error ("500 " ++ request.method ++ " " ++ request.path)
  if debug then
    Act.ofAttempt ((safeErrorBody (.failure f) true).bind fun body => jsonResponse body (.int 500))
  else return errorResponse (.int 500) "Internal server error" []

/-- Answers a failure. -/
def answerFailure (debug : Bool) (f : Fault) (request : Request) : Act U (Response Value) :=
  match f with
  | .http e => answerHttpError e request
  | f => answerInternalError debug f request

/-! ## The access log -/

/-- The longest URL that the access log shows whole. -/
def accessUrlLimit : Int := 200

/-- The line of a request: method, URL, status and whole milliseconds. -/
def accessLine (request : Request) (response : Value) (elapsed : Float) : Attempt String := do
  let status ← (← response.part "status").text
  return request.method ++ " " ++ forLog accessUrlLimit request.url ++ " -> " ++ status ++ " " ++
    Decimal.roundedWhole elapsed ++ "ms"

/-- Whether a status tells of an error of the server. -/
def isServerError : Value → Attempt Bool
  | .int n => .ok (decide (500 ≤ n))
  | .bool _ => .ok false
  | .float x => .ok (decide (500.0 ≤ x))
  | .nan _ => .ok false
  | v =>
    refuse (.wrongType ("'>=' not supported between instances of '" ++ v.typeName ++ "' and 'int'"))

/-- The severity and the line of a response. -/
def accessRecord (request : Request) (response : Value) (elapsed : Float) :
    Attempt (Severity × String) := do
  let bad ← isServerError (← response.part "status")
  let line ← accessLine request response elapsed
  return (if bad then .warning else .info, line)

/-- Writes the line of a request: errors of the server as warnings, all else as information. -/
def logAccess (request : Request) (response : Value) (elapsed : Float) (env : Env U) :
    Attempt Unit × Env U :=
  match accessRecord request response elapsed with
  | .error f => (.error f, env)
  | .ok (severity, line) => (.ok (), env.emit .access severity line)

end ServerTree
