import ServerTree.App.Start
import ServerTree.Script.Application

/-!
# The command

Reads the command line and the environment and starts a tree without routes. It prints the usage when asked
to, and else the log of the start, which ends with the address.
-/

namespace ServerTree

/-- The variables of the environment that say where to listen. -/
def addressVariables : List String := ["PORT", "HOST"]

/-- A server without routes. -/
def bareServer : Value := .node (.server (.int defaultPort) (.str defaultHost)) []

/-- The lines of the log after a start, and the failure when there is one. -/
def startLines (c : CommandLine) (environment : List (String × String)) : List String :=
  let r := (start (Script.behaviour ".") c environment bareServer).run.run { env := { user := {} } }
  let lines := r.2.env.log.records.toList.map fun record =>
    record.severity.label ++ " " ++ record.logger.name ++ ": " ++ record.message.getD ""
  match r.1 with
  | .error (.failed f) => lines ++ [f.errorClass.name ++ ": " ++ f.message]
  | _ => lines

end ServerTree

/-- Prints the usage or starts; a command line that cannot be used ends with status 2. -/
def main (args : List String) : IO UInt32 := do
  match ServerTree.CommandLine.parse args with
  | none => do
    IO.eprintln ServerTree.usage
    return 2
  | some c => do
    if c.help then
      IO.println ServerTree.usage
    else
      let mut environment := []
      for name in ServerTree.addressVariables do
        if let some value ← IO.getEnv name then
          environment := environment ++ [(name, value)]
      for line in ServerTree.startLines c environment do
        IO.println line
    return 0
