import ServerTree.Value
import ServerTree.Decimal.Shortest

/-!
# Values as text

`inspect` shows a value the way messages quote it: texts between quotes, containers with their
brackets, nodes with the names of their fields. `display` is the same except that a text and the text
of a failure stand as they are.
-/

namespace ServerTree.Value

/-- A row of shown values between brackets, separated by commas. -/
def bracketed (l r : String) (parts : List String) : String :=
  l ++ Text.join ", " parts ++ r

/-- A shown tuple; a single component is followed by a comma. -/
def tupleText : List String → String
  | [x] => "(" ++ x ++ ",)"
  | xs => bracketed "(" ")" xs

/-- A level of the log by its name, or by its number when it has none. -/
def levelLabel (n : Int) : String :=
  if n = 50 then "CRITICAL"
  else if n = 40 then "ERROR"
  else if n = 30 then "WARNING"
  else if n = 20 then "INFO"
  else if n = 10 then "DEBUG"
  else if n = 0 then "NOTSET"
  else "Level " ++ toString n

/-- The text of an error's arguments, from their quoted forms and their texts: a single one stands for
itself, and is quoted for a missing key. -/
def argumentsText (form : ErrorClass) : List String → List String → String
  | [], _ => ""
  | [quoted], [text] => if form = .key then quoted else text
  | quoted, _ => bracketed "(" ")" quoted

/-- The text of an error of the system that has a number and a description, or a file name, among its
attributes. Each is given with its text and its quoted form. -/
def systemText? (attributes : List (String × String × String)) : Option String :=
  let number := attributes.lookup "errno"
  let description := attributes.lookup "strerror"
  let textOf (a : Option (String × String)) : String := (a.map Prod.fst).getD "None"
  let head := "[Errno " ++ textOf number ++ "] " ++ textOf description
  match attributes.lookup "filename", attributes.lookup "filename2" with
  | some file, some other => some (head ++ ": " ++ file.2 ++ " -> " ++ other.2)
  | some file, Option.none => some (head ++ ": " ++ file.2)
  | Option.none, _ => if number.isSome && description.isSome then some head else Option.none

mutual

/-- The text of a value, or its quoted form unless it is to be `plain`. -/
def showAs (plain : Bool) : Value → String
  | .none => "None"
  | .bool true => "True"
  | .bool false => "False"
  | .int i => toString i
  | .float x => Decimal.plainFormat.write x
  | .nan _ => "nan"
  | .str s => if plain then s else Text.quoted s
  | .bytes b => Text.quotedBytes b
  | .list xs => bracketed "[" "]" (inspectAll xs)
  | .tuple xs => tupleText (inspectAll xs)
  | .mapping es => bracketed "\x7b" "\x7d" (inspectEntries es)
  | .object text _ => text
  | .func f => "<function " ++ f.name ++ ">"
  | .node p cs =>
    bracketed (kindName p.kind ++ "(") ")"
      (("children=" ++ tupleText (inspectAll cs)) :: inspectPayload p)
  | .element type props cs =>
    "Element(type=" ++ showAs false type ++ ", props=" ++
      bracketed "\x7b" "\x7d" (inspectEntries props) ++ ", children=" ++ tupleText (inspectAll cs) ++ ")"
  | .response ⟨body, code, mediaType, hs⟩ =>
    "Response(body=" ++ showAs false body ++ ", status=" ++ showAs false code ++ ", content_type=" ++
      showAs false mediaType ++ ", headers=" ++ tupleText (inspectPairs hs) ++ ")"
  | .signal .proceed => "Continue()"
  | .signal .halt => "HaltSilently()"
  | .signal (.augment fields) => "AugmentFields(fields=" ++ showAs false fields ++ ")"
  | .signal (.fail status message) =>
    "HaltWithError(status=" ++ showAs false status ++ ", message=" ++ showAs false message ++ ")"
  | .failure (.http ⟨form, code, detail, hs⟩) =>
    if plain then
      if detail.truthy then showAs true code ++ ": " ++ showAs true detail else showAs true code
    else
      form.name ++ "(status=" ++ showAs false code ++ ", detail=" ++ showAs false detail ++
        ", headers=" ++ tupleText (inspectPairs hs) ++ ")"
  | .failure (.raised form arguments attributes _) =>
    let shown := inspectAll arguments
    if plain then
      let system := if form = .connection then systemText? (inspectNamed attributes) else Option.none
      system.getD (argumentsText form shown (displayAll arguments))
    else bracketed (form.name ++ "(") ")" shown
  | .failure (.refused r) =>
    if plain then r.message else r.errorClass.name ++ "(" ++ Text.quoted r.message ++ ")"
  | .upload u =>
    "UploadFile(" ++ Text.quoted u.filename ++ ", " ++ Text.quoted u.contentType ++ ", " ++
      toString u.size ++ " bytes)"
  | .config ⟨settings, middleware⟩ =>
    "RouteConfig(middleware=" ++ tupleText (inspectMiddleware middleware) ++ ", " ++
      inspectSettings settings ++ ")"
  | .rateLimitSpec ⟨max, window, keyHeader⟩ =>
    "RateLimitSpec(max=" ++ showAs false max ++ ", window=" ++ showAs false window ++
      ", key_header=" ++ showAs false keyHeader ++ ")"
  | .corsSpec ⟨origin, methods⟩ =>
    "CorsSpec(origin=" ++ showAs false origin ++ ", methods=" ++ tupleText (inspectAll methods) ++ ")"
  | .request r => "Request " ++ r.method ++ " " ++ r.path
  | .headers h =>
    "Headers(" ++ bracketed "\x7b" "\x7d"
      (h.joined.map fun e => Text.quoted e.1 ++ ": " ++ Text.quoted e.2) ++ ")"
  | .query q =>
    "QueryParams(" ++ bracketed "\x7b" "\x7d"
      (q.grouped.map fun e =>
        Text.quoted e.1 ++ ": " ++
          (match e.2 with
            | [v] => Text.quoted v
            | vs => bracketed "[" "]" (vs.map Text.quoted))) ++ ")"
  | .reply => "Reply"
  | .logger _ effective => "<RouteLogger arbor.route (" ++ levelLabel effective ++ ")>"
  | .contextMethod name context => "<bound method HandlerContext." ++ name ++ " of " ++ context ++ ">"
  | .pending _ => "<coroutine object>"

/-- The quoted forms of a row of values. -/
def inspectAll : List Value → List String
  | [] => []
  | x :: xs => showAs false x :: inspectAll xs

/-- The texts of a row of values. -/
def displayAll : List Value → List String
  | [] => []
  | x :: xs => showAs true x :: displayAll xs

/-- The texts and the quoted forms of named values. -/
def inspectNamed : List (String × Value) → List (String × String × String)
  | [] => []
  | (name, v) :: r => (name, showAs true v, showAs false v) :: inspectNamed r

/-- The entries of a mapping. -/
def inspectEntries : List (Value × Value) → List String
  | [] => []
  | (k, v) :: r => (showAs false k ++ ": " ++ showAs false v) :: inspectEntries r

/-- Pairs of values, as tuples. -/
def inspectPairs : List (Value × Value) → List String
  | [] => []
  | (k, v) :: r => tupleText [showAs false k, showAs false v] :: inspectPairs r

/-- The parts of settings. -/
def inspectSettings : Settings Value → String
  | ⟨mountPath, rateLimit, cors, level, service, extensions⟩ =>
    Text.join ", "
      ["prefix=" ++ showAs false mountPath, "rate_limit=" ++ showAs false rateLimit,
        "cors=" ++ showAs false cors, "log_level=" ++ showAs false level, "service=" ++ showAs false service,
        "extensions=mappingproxy(" ++ bracketed "\x7b" "\x7d" (inspectEntries extensions) ++ ")"]

/-- Scoped middleware, each with the settings that it remembers. -/
def inspectMiddleware : List (ScopedMiddleware Value) → List String
  | [] => []
  | ⟨fn, captured⟩ :: r =>
    ("ScopedMiddleware(fn=" ++ showAs false fn ++ ", captured=RouteConfig(middleware=(), " ++
      inspectSettings captured ++ "))") :: inspectMiddleware r

/-- The fields of a node. -/
def inspectPayload : Payload Value → List String
  | .server port host => ["port=" ++ showAs false port, "host=" ++ showAs false host]
  | .route method path handler schema =>
    ["method=" ++ Text.quoted method, "path=" ++ showAs false path, "handler=" ++ showAs false handler,
      "schema=" ++ showAs false schema]
  | .group p => ["prefix=" ++ showAs false p]
  | .routes dir p => ["dir=" ++ showAs false dir, "prefix=" ++ showAs false p]
  | .middleware use => ["use=" ++ showAs false use]
  | .db provider => ["provider=" ++ showAs false provider]
  | .logger level => ["level=" ++ showAs false level]
  | .cors origin methods =>
    ["origin=" ++ showAs false origin, "methods=" ++ tupleText (inspectAll methods)]
  | .rateLimiter max timeWindow keyHeader =>
    ["max=" ++ showAs false max, "time_window=" ++ showAs false timeWindow, "key_header=" ++ showAs false keyHeader]
  | .plugin handler name options =>
    ["handler=" ++ showAs false handler, "name=" ++ showAs false name, "options=" ++ showAs false options]
  | .response => []
  | .status code => ["code=" ++ showAs false code]
  | .body data => ["data=" ++ showAs false data]
  | .headers h => ["headers=" ++ showAs false h]
  | .err code message details =>
    ["code=" ++ showAs false code, "message=" ++ showAs false message, "details=" ++ showAs false details]
  | .augment data => ["data=" ++ showAs false data]
  | .halt code message => ["code=" ++ showAs false code, "message=" ++ showAs false message]

end

/-- The quoted form of a value. -/
def inspect (v : Value) : String := showAs false v

/-- The text of a value. -/
def display (v : Value) : String := showAs true v

/-- An integer that has more digits than are written. -/
def isHuge (i : Int) : Bool := decide (Nat.pow 10 Text.maxDigits ≤ i.natAbs)

/-- The part of a value that cannot be shown because an integer in it has too many digits. -/
inductive Unshowable where
  /-- The integer stands by itself or in plain containers. -/
  | plain
  /-- The integer is a field of something with named fields. -/
  | field
deriving DecidableEq, Repr

/-- What cannot be shown is part of a field. -/
def inField (u : Option Unshowable) : Option Unshowable := u.map fun _ => .field

mutual

/-- Where a value has the first integer that keeps it from being shown. -/
def unshowable? (plain : Bool) : Value → Option Unshowable
  | .int i => if isHuge i then some .plain else Option.none
  | .list xs | .tuple xs => anyUnshowable? xs
  | .mapping es => anyEntryUnshowable? es
  | .node p cs => inField (anyUnshowable? cs <|> anyNamedUnshowable? p)
  | .element type props cs =>
    inField (unshowable? false type <|> anyEntryUnshowable? props <|> anyUnshowable? cs)
  | .response ⟨body, status, contentType, fields⟩ =>
    inField (unshowable? false body <|> unshowable? false status <|> unshowable? false contentType <|>
      anyEntryUnshowable? fields)
  | .signal (.augment fields) => inField (unshowable? false fields)
  | .signal (.fail status message) => inField (unshowable? false status <|> unshowable? false message)
  | .failure (.http ⟨_, status, detail, fields⟩) =>
    if plain then unshowable? true status <|> unshowable? true detail
    else inField (unshowable? false status <|> unshowable? false detail <|> anyEntryUnshowable? fields)
  | .failure (.raised _ arguments _ _) => anyUnshowable? arguments
  | .config ⟨settings, middleware⟩ =>
    inField (middlewareUnshowable? middleware <|> settingsUnshowable? settings)
  | .rateLimitSpec ⟨max, window, keyHeader⟩ =>
    inField (unshowable? false max <|> unshowable? false window <|> unshowable? false keyHeader)
  | .corsSpec ⟨origin, methods⟩ => inField (unshowable? false origin <|> anyUnshowable? methods)
  | _ => Option.none

/-- Where one of a row of values cannot be shown. -/
def anyUnshowable? : List Value → Option Unshowable
  | [] => Option.none
  | x :: xs => unshowable? false x <|> anyUnshowable? xs

/-- Where one of a row of entries cannot be shown. -/
def anyEntryUnshowable? : List (Value × Value) → Option Unshowable
  | [] => Option.none
  | (k, v) :: r => unshowable? false k <|> unshowable? false v <|> anyEntryUnshowable? r

/-- Where a payload cannot be shown. -/
def anyNamedUnshowable? : Payload Value → Option Unshowable
  | .server a b | .routes a b | .halt a b => unshowable? false a <|> unshowable? false b
  | .route _ a b c | .rateLimiter a b c | .plugin a b c | .err a b c =>
    unshowable? false a <|> unshowable? false b <|> unshowable? false c
  | .group a | .middleware a | .db a | .logger a | .status a | .body a | .headers a | .augment a =>
    unshowable? false a
  | .cors a methods => unshowable? false a <|> anyUnshowable? methods
  | .response => Option.none

/-- Where settings cannot be shown. -/
def settingsUnshowable? : Settings Value → Option Unshowable
  | ⟨mountPath, rateLimit, cors, level, service, extensions⟩ =>
    unshowable? false mountPath <|> unshowable? false rateLimit <|> unshowable? false cors <|>
      unshowable? false level <|> unshowable? false service <|> anyEntryUnshowable? extensions

/-- Where scoped middleware cannot be shown. -/
def middlewareUnshowable? : List (ScopedMiddleware Value) → Option Unshowable
  | [] => Option.none
  | ⟨fn, captured⟩ :: r =>
    unshowable? false fn <|> settingsUnshowable? captured <|> middlewareUnshowable? r

end

/-- The refusal to show a value. -/
def Unshowable.refusal : Unshowable → Refusal
  | plain => .unshowable
  | field => .tooManyDigits Option.none

/-- The text of a value, unless it has an integer with too many digits. -/
def text (v : Value) : Attempt String :=
  match v.unshowable? true with
  | some u => refuse u.refusal
  | Option.none => .ok v.display

/-- The quoted form of a value, unless it has an integer with too many digits. -/
def quotedText (v : Value) : Attempt String :=
  match v.unshowable? false with
  | some u => refuse u.refusal
  | Option.none => .ok v.inspect

end ServerTree.Value

namespace ServerTree

/-- The text of a failure. -/
def Failure.message (f : Fault) : String := (Value.failure f).display

/-- The text of a failure, unless it has an integer with too many digits. -/
def Failure.text (f : Fault) : Attempt String := (Value.failure f).text

end ServerTree
