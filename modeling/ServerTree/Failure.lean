import ServerTree.Text.Quoted
import ServerTree.Text.Integer

/-!
# Failures

A failure is one of three things: an error with a class and an optional message, made by application
code; an HTTP error, which carries its status; or a refusal of this library, which is a cause. The
wording of every refusal is in `Refusal.message`.

## Main definitions
- `ErrorClass`: the classes of errors
- `HttpError`: an error with a status
- `Refusal`: why the library refuses something
- `Failure`: any of these
-/

namespace ServerTree

/-- The classes of errors. -/
inductive ErrorClass where
  | value | runtime | key | type | lookup | connection
  | library | configuration | boot | middlewareTimeout
  | http | badRequest | notFound | methodNotAllowed
  | attribute | index | unicodeEncode | unicodeDecode | jsonDecode | formParser | overflow | recursion
  | importing | assertion | missingFile | notADirectory | fileExists | isADirectory | system
deriving DecidableEq, Repr

/-- The name of a class. -/
def ErrorClass.name : ErrorClass → String
  | .value => "ValueError"
  | .runtime => "RuntimeError"
  | .key => "KeyError"
  | .type => "TypeError"
  | .lookup => "LookupError"
  | .connection => "ConnectionError"
  | .library => "ArborError"
  | .configuration => "ConfigurationError"
  | .boot => "BootError"
  | .middlewareTimeout => "MiddlewareTimeout"
  | .http => "HTTPError"
  | .badRequest => "BadRequest"
  | .notFound => "NotFound"
  | .methodNotAllowed => "MethodNotAllowed"
  | .attribute => "AttributeError"
  | .index => "IndexError"
  | .unicodeEncode => "UnicodeEncodeError"
  | .unicodeDecode => "UnicodeDecodeError"
  | .jsonDecode => "JSONDecodeError"
  | .formParser => "FormParserError"
  | .overflow => "OverflowError"
  | .recursion => "RecursionError"
  | .importing => "ImportError"
  | .assertion => "AssertionError"
  | .missingFile => "FileNotFoundError"
  | .notADirectory => "NotADirectoryError"
  | .fileExists => "FileExistsError"
  | .isADirectory => "IsADirectoryError"
  | .system => "OSError"

/-- The classes that application code raises by name. -/
def ErrorClass.common : List ErrorClass :=
  [.value, .runtime, .key, .type, .lookup, .connection, .library, .configuration, .boot,
    .middlewareTimeout]

/-- The class of a name; one that is not known counts as an error at run time. -/
def ErrorClass.ofName (s : String) : ErrorClass :=
  (ErrorClass.common.find? fun c => c.name == s).getD .runtime

/-- Whether a class belongs to the library. -/
def ErrorClass.isOwn : ErrorClass → Bool
  | .library | .configuration | .boot | .middlewareTimeout
  | .http | .badRequest | .notFound | .methodNotAllowed => true
  | _ => false

/-- The name of a class in a debugging trace. -/
def ErrorClass.qualifiedName (c : ErrorClass) : String :=
  if c.isOwn then "arbor.errors." ++ c.name else c.name

/-- An error that maps to a status. Applications may put anything into its fields. -/
structure HttpError (V : Type) where
  form : ErrorClass := .http
  status : V
  detail : V
  headers : List (V × V) := []

/-! ## Refusals -/

/-- The names of the log levels, in the order in which messages list them. -/
def levelNames : List String :=
  ["trace", "debug", "info", "warn", "warning", "error", "fatal", "critical", "silent"]

/-- Why the library refuses something. Values are shown as quoted text. -/
inductive Refusal where
  /-- Braces that are no parameter. -/
  | malformedSegment (part route : String)
  | unknownConverter (converter route : String)
  | catchAllNotLast (route : String)
  /-- The method and path are taken. -/
  | duplicateRoute (method route taken : String)
  /-- Another route names the parameter at this position differently. -/
  | parameterClash (route name taken : String)
  | corsTwice
  | nestedServer
  | noProvider
  | noMiddleware
  | noHandler (method path : String)
  | notServer (found : String)
  /-- A composite that keeps expanding into composites. -/
  | endlessComposite (name : String) (limit : Nat)
  | noConfigExport
  | badConfigExport (typeName : String)
  /-- A setting of a node that cannot be used, for the given reason. -/
  | badSetting (reason : String)
  | providerFailed (reason : String)
  | timedOut (text : String)
  | unknownLevel (shown : String)
  | unreadableWindow (shown : String)
  | windowNotPositive (shown : String)
  | unsupportedMethod (shown : String)
  | frozenApp
  | compiledRouter
  | missingKey (shown : String)
  /-- A value of the wrong type. -/
  | wrongType (text : String)
  /-- An element of a row of pairs that does not have two parts. -/
  | notAPair (position length : Nat)
  | noAttribute (text : String)
  /-- An element that should have two parts. -/
  | notTwo (length : Nat)
  /-- A position beyond the end of a row. -/
  | outOfRange (text : String)
  /-- An integer of a document with more digits than are read or written, and how many were read. -/
  | tooManyDigits (count : Option Nat)
  /-- An integer with more digits than are shown. -/
  | unshowable
  | notLatin1
  /-- A text with a lone surrogate, which has no encoding. -/
  | notEncodable
  /-- The boundary of a multipart body is longer than allowed. -/
  | boundaryTooLong (length : Nat)
  | notUtf8
  | notJson
  | notFinite (text : String)
  | notANumber
  /-- A path without a final component. -/
  | emptyName
  /-- Links that lead back to themselves. -/
  | endlessPath
  | noSuchFile (path : String)
  | noDirectory (path : String)
  | alreadyThere (path : String)
  | isDirectory (path : String)
  | tooManyLinks (path : String)
  | nameTooLong (path : String)
  /-- A path with a null character. -/
  | embeddedNull
  /-- A tree nested deeper than the limit. -/
  | tooDeep
  | cannotImport (text : String)
deriving DecidableEq, Repr

namespace Refusal

/-- The class of a refusal. -/
def errorClass : Refusal → ErrorClass
  | malformedSegment .. | unknownConverter .. | catchAllNotLast .. | duplicateRoute ..
  | parameterClash .. | corsTwice | nestedServer | noProvider | noMiddleware | noHandler ..
  | notServer .. | endlessComposite .. | noConfigExport | badConfigExport .. | badSetting .. =>
    .configuration
  | providerFailed .. => .boot
  | timedOut .. => .middlewareTimeout
  | unknownLevel .. | unreadableWindow .. | windowNotPositive .. | unsupportedMethod ..
  | emptyName | embeddedNull | notANumber | notAPair .. | notTwo .. | tooManyDigits .. | unshowable =>
    .value
  | frozenApp | compiledRouter | endlessPath => .runtime
  | missingKey .. => .key
  | wrongType .. => .type
  | noAttribute .. => .attribute
  | outOfRange .. => .index
  | notLatin1 | notEncodable => .unicodeEncode
  | boundaryTooLong .. => .formParser
  | notUtf8 => .unicodeDecode
  | notJson => .jsonDecode
  | notFinite .. => .overflow
  | tooDeep => .recursion
  | cannotImport .. => .importing
  | noSuchFile .. => .missingFile
  | noDirectory .. => .notADirectory
  | alreadyThere .. => .fileExists
  | isDirectory .. => .isADirectory
  | tooManyLinks .. | nameTooLong .. => .system

/-- What is said of an integer with too many digits; a count is known when it was read. -/
def digitsText (count : Option Nat) : String :=
  "Exceeds the limit (" ++ toString Text.maxDigits ++ " digits) for integer string conversion" ++
    (match count with
      | some n => ": value has " ++ toString n ++ " digits"
      | none => "") ++
    "; use sys.set_int_max_str_digits() to increase the limit"

/-- The text of a refusal. -/
def message : Refusal → String
  | malformedSegment part route =>
    "Malformed path segment " ++ Text.quoted part ++ " in route " ++ Text.quoted route
  | unknownConverter converter route =>
    "Unknown converter " ++ Text.quoted converter ++ " in route " ++ Text.quoted route
  | catchAllNotLast route => "Catch-all segment must be last in route " ++ Text.quoted route
  | duplicateRoute method route taken =>
    "Duplicate route " ++ method ++ " " ++ Text.quoted route ++ " (already registered as " ++ taken ++ ")"
  | parameterClash route name taken =>
    "Route " ++ Text.quoted route ++ " names parameter " ++ Text.quoted name ++
      " where another route already uses " ++ Text.quoted taken
  | corsTwice => "CORS is already enabled for this app."
  | nestedServer => "Server must be the root of the tree; found a nested Server node."
  | noProvider => "DB node requires a provider."
  | noMiddleware => "Middleware node requires a 'use' callable."
  | noHandler method path => "Route " ++ method ++ " " ++ path ++ " has no handler."
  | notServer found => "The root of an arbor tree must be a Server node, got " ++ found ++ "."
  | endlessComposite name limit =>
    "Composite " ++ Text.quoted name ++ " did not resolve after " ++ toString limit ++
      " expansions; is it recursive?"
  | noConfigExport => "config module does not export 'config'"
  | badConfigExport typeName =>
    "'config' must be a node or a callable returning one, got " ++ typeName
  | badSetting reason => reason
  | providerFailed reason => "Database provider failed: " ++ reason
  | timedOut text => text
  | unknownLevel shown =>
    "Unknown log level " ++ shown ++ ". Expected one of: " ++ Text.join ", " levelNames
  | unreadableWindow shown => "Cannot parse time window " ++ shown
  | windowNotPositive shown => "Time window must be positive, got " ++ shown
  | unsupportedMethod shown => "Unsupported HTTP method " ++ shown
  | frozenApp =>
    "Cannot modify the app after it has started serving requests. " ++
      "Build the tree before calling app.run()."
  | compiledRouter => "Cannot add routes after compilation."
  | missingKey shown => shown
  | wrongType text => text
  | notAPair position length =>
    "dictionary update sequence element #" ++ toString position ++ " has length " ++ toString length ++
      "; 2 is required"
  | noAttribute text => text
  | outOfRange text => text
  | notTwo length =>
    if 2 < length then "too many values to unpack (expected 2)"
    else "not enough values to unpack (expected 2, got " ++ toString length ++ ")"
  | tooManyDigits count => digitsText count
  | unshowable => digitsText none
  | notLatin1 => "character outside Latin-1"
  | notEncodable => "surrogates not allowed"
  | boundaryTooLong length => "boundary of " ++ toString length ++ " bytes is too long"
  | notUtf8 => "invalid UTF-8"
  | notJson => "invalid JSON"
  | notFinite text => text
  | notANumber => "cannot convert float NaN to integer"
  | emptyName => "path has an empty name"
  | endlessPath => "links that lead back to themselves"
  | noSuchFile path => "no such file or directory: " ++ Text.quoted path
  | noDirectory path => "not a directory: " ++ Text.quoted path
  | alreadyThere path => "file exists: " ++ Text.quoted path
  | isDirectory path => "is a directory: " ++ Text.quoted path
  | tooManyLinks path => "too many levels of symbolic links: " ++ Text.quoted path
  | nameTooLong path => "file name too long: " ++ Text.quoted path
  | embeddedNull => "embedded null byte"
  | tooDeep => "maximum recursion depth exceeded"
  | cannotImport text => text

/-- Whether the wording belongs to the library: it does for what it checks itself, not for what reading and
writing documents, paths and types refuse. -/
def isWorded (r : Refusal) : Bool :=
  match r with
  | emptyName | embeddedNull | endlessPath | tooManyDigits .. => false
  | r => [.configuration, .boot, .middlewareTimeout, .runtime, .key, .value].contains r.errorClass

end Refusal

/-! ## Failures -/

/-- A failure, over the values that its arguments and attributes may be. -/
inductive Failure (V : Type) where
  /-- Made by application code. Two are the same if their numbers are. -/
  | raised (form : ErrorClass) (arguments : List V) (attributes : List (String × V)) (id : Nat)
  | http (e : HttpError V)
  | refused (r : Refusal)

namespace Failure

variable {V : Type}

/-- The class of a failure. -/
def errorClass : Failure V → ErrorClass
  | raised form .. => form
  | http e => e.form
  | refused r => r.errorClass

/-- Whether the message of a failure is shown to whoever asks for a result. -/
def isWorded : Failure V → Bool
  | refused r => r.isWorded
  | _ => true

end Failure

end ServerTree
