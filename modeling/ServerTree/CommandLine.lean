import ServerTree.Value.Display
import ServerTree.Text.Integer
import ServerTree.Assoc

/-!
# The command line

Four flags are understood: a port, a host, whether to open a browser and whether to show help. Every
other argument is ignored, so that a program can share its command line. Long names may be abbreviated as
long as only one fits; short flags without a value can be written together; a value can follow its flag
directly, after an equals sign or as the next argument.

A flag on the command line wins over the environment, which wins over the defaults.

## Main definitions
- `classify`: what an argument is
- `CommandLine.parse`: the flags of an argument list; `none` when it cannot be used
- `Listen.resolve`: the address to listen on
-/

namespace ServerTree

/-- The flags. -/
inductive Flag where
  | port | host | openBrowser | help
deriving DecidableEq, Repr

/-- Whether a flag has a value. -/
def Flag.takesValue : Flag → Bool
  | .port | .host => true
  | .openBrowser | .help => false

/-- The spellings of the flags. -/
def flagNames : List (String × Flag) :=
  [("-p", .port), ("--port", .port), ("-H", .host), ("--host", .host),
    ("-o", .openBrowser), ("--open", .openBrowser), ("-h", .help), ("--help", .help)]

/-- What an argument is. -/
inductive Token where
  /-- Not a flag: it may be the value of one. -/
  | plain
  /-- It looks like a flag that is not known. -/
  | unknown
  /-- A flag, with its spelling and the value that is written in the same argument. -/
  | flag (f : Flag) (name : String) (value : Option String)
deriving DecidableEq, Repr

/-- The parts of an argument before and after its first equals sign. -/
def cutEquals (arg : String) : String × Option String :=
  let c := Text.cutAt '=' arg.toList
  (String.ofList c.1, c.2.map String.ofList)

/-- Whether an argument is a negative number, which is a value and not a flag. -/
def isNegativeNumber (arg : String) : Bool :=
  let body (cs : List Char) : Bool :=
    match cs with
    | '-' :: r =>
      let cut := Text.cutAt '.' r
      match cut with
      | (whole, none) => !whole.isEmpty && whole.all Text.isDecimal
      | (whole, some fraction) =>
        whole.all Text.isDecimal && !fraction.isEmpty && fraction.all Text.isDecimal
    | _ => false
  body arg.toList ||
    (match arg.toList.getLast? with
      | some '\n' => body arg.toList.dropLast
      | _ => false)

/-- The flags that an argument may abbreviate or start with. -/
def candidates (arg : String) : List Token :=
  match arg.toList with
  | '-' :: '-' :: _ =>
    let cut := cutEquals arg
    (flagNames.filter fun e => Text.startsWith cut.1 e.1).map fun e => .flag e.2 e.1 cut.2
  | '-' :: c :: rest =>
    (flagNames.filter fun e => e.1 = String.ofList ['-', c]).map fun e =>
      .flag e.2 e.1 (some (String.ofList rest))
  | _ => []

/-- An argument that is no exact spelling of a flag and stands for none. -/
def unmatched (arg : String) : Token :=
  if isNegativeNumber arg || arg.toList.contains ' ' then .plain else .unknown

/-- What an argument is; `none` when it abbreviates more than one flag. -/
def classify (arg : String) : Option Token :=
  match arg.toList with
  | '-' :: _ :: _ =>
    match Assoc.get? arg flagNames with
    | some f => some (.flag f arg none)
    | none =>
      let cut := cutEquals arg
      match cut.2.bind fun _ => Assoc.get? cut.1 flagNames with
      | some f => some (.flag f cut.1 cut.2)
      | none =>
        match candidates arg with
        | [] => some (unmatched arg)
        | [t] => some t
        | _ => none
  | _ => some .plain

/-- The flags of a command line. -/
structure CommandLine where
  port : Option String := none
  host : Option String := none
  openBrowser : Bool := false
  help : Bool := false
deriving DecidableEq, Repr

namespace CommandLine

/-- Sets a flag that has no value. -/
def switch (c : CommandLine) : Flag → CommandLine
  | .openBrowser => { c with openBrowser := true }
  | .help => { c with help := true }
  | _ => c

/-- Sets a flag that has a value. A double dash written as the value leaves the flag without one. -/
def store (c : CommandLine) (f : Flag) (value : String) : CommandLine :=
  let given := if value = "--" then none else some value
  match f with
  | .port => { c with port := given }
  | .host => { c with host := given }
  | _ => c

/-- Reads short flags that are written together: `cs` follows the letter of `f`. Gives the new flags and
the flag that still waits for its value, if any; `none` when a letter is no flag. -/
def cluster (c : CommandLine) (f : Flag) : List Char → Option (CommandLine × Option Flag)
  | [] => if f.takesValue then some (c, some f) else some (c.switch f, none)
  | x :: cs =>
    if f.takesValue then some (c.store f (String.ofList (x :: cs)), none)
    else
      match Assoc.get? (String.ofList ['-', x]) flagNames with
      | none => none
      | some g => cluster (c.switch f) g cs

/-- What one flag does with the value written in its own argument: the new flags, and the flag that
still waits for its value; `none` when the argument cannot be used. -/
def take (c : CommandLine) (f : Flag) (name : String) :
    Option String → Option (CommandLine × Option Flag)
  | none => cluster c f []
  | some value =>
    if f.takesValue then some (c.store f value, none)
    else if Text.startsWith "--" name || value.isEmpty then none
    else cluster c f value.toList

/-- Reads the arguments from left to right. `waiting` is the flag whose value must come next. -/
def read (c : CommandLine) (waiting : Option Flag) : List String → Option CommandLine
  | [] => if waiting.isSome then none else some c
  | arg :: args =>
    if arg = "--" then
      -- everything after this is ignored, and a waiting flag has no value
      if waiting.isSome then none else some c
    else
      match waiting, classify arg with
      | _, none => none
      | some f, some .plain => read (c.store f arg) none args
      | some _, some _ => none
      | none, some (.flag f name value) =>
        match take c f name value with
        | none => none
        | some (c', w) => read c' w args
      | none, some _ => read c none args

/-- Whether every argument before a double dash is unambiguous. -/
def unambiguous : List String → Bool
  | [] => true
  | arg :: args => arg == "--" || ((classify arg).isSome && unambiguous args)

/-- The flags of an argument list; `none` when it cannot be used. -/
def parse (args : List String) : Option CommandLine :=
  if unambiguous args then read {} none args else none

end CommandLine

/-- A value as a TCP port. -/
def parsePort (v : Value) : Option Int :=
  match v with
  | .none => none
  | .bool _ => none
  | v =>
    match v.text.toOption.bind fun s => Text.readInt? (Text.strip s) with
    | some p => if 0 < p ∧ p ≤ 65535 then some p else none
    | none => none

namespace CommandLine

/-- The port, when it is one. -/
def portNumber (c : CommandLine) : Option Int :=
  c.port.bind fun s => parsePort (.str s)

/-- The host, when it is not empty. -/
def hostName (c : CommandLine) : Option String :=
  c.host.bind fun s => if s.isEmpty then none else some s

end CommandLine

/-- The host that is listened on unless told otherwise. -/
def defaultHost : String := "0.0.0.0"

/-- The port that is listened on unless told otherwise. -/
def defaultPort : Int := 3000

/-- The address to listen on. -/
structure Listen where
  host : Value
  port : Value
  openBrowser : Bool

namespace Listen

/-- The address that a browser is sent to. -/
def url (l : Listen) : Attempt String := do
  let host ←
    match l.host with
    | .str "0.0.0.0" | .str "::" => pure "localhost"
    | v => v.text
  let port ← l.port.text
  return "http://" ++ host ++ ":" ++ port

/-- The command line wins over the environment, which wins over the defaults. -/
def resolve (c : CommandLine) (environment : List (String × String)) (host port : Value) : Listen :=
  let fromEnvironment := (Assoc.get? "PORT" environment).bind fun s => parsePort (.str s)
  let hostFromEnvironment :=
    (Assoc.get? "HOST" environment).bind fun s => if s.isEmpty then none else some s
  { host :=
      match c.hostName with
      | some h => .str h
      | none =>
        match hostFromEnvironment with
        | some h => .str h
        | none => host
    port :=
      match c.portNumber with
      | some p => .int p
      | none =>
        match fromEnvironment with
        | some p => .int p
        | none => port
    openBrowser := c.openBrowser }

end Listen

/-- The usage text. -/
def usage : String :=
  "usage: arbor [-p PORT] [-H HOST] [-o] [-h]\n" ++
  "\n" ++
  "Serve a declarative arbor application.\n" ++
  "\n" ++
  "options:\n" ++
  "  -p PORT, --port PORT  Port to listen on\n" ++
  "  -H HOST, --host HOST  Host to bind to\n" ++
  "  -o, --open            Open the browser\n" ++
  "  -h, --help            Show help\n"

end ServerTree
