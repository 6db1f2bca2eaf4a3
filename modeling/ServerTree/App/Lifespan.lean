import ServerTree.App.Serve

/-!
# Startup and shutdown

A server announces its start and its end. At each the hooks of the application run in the order in which
they were registered, and the announcement is answered.
-/

namespace ServerTree

variable {U : Type}

/-- Runs hooks in order, up to the first that fails. -/
def runPhase (b : Behaviour U) : List Value → Act U Unit
  | [] => return ()
  | hook :: hooks => do
    match ← Act.withEnv (b.callProvide hook) with
    | .returned _ => runPhase b hooks
    | .raised f => Act.fail f
    | .suspended _ => throw .unsettled

/-- Runs the hooks of the startup. -/
def startUp (b : Behaviour U) : Act U Unit := do
  let world ← get
  runPhase b world.app.startupHooks

/-- Runs the hooks of the shutdown. -/
def shutDown (b : Behaviour U) : Act U Unit := do
  let world ← get
  runPhase b world.app.shutdownHooks

/-- What a server announces. -/
inductive Announcement where
  | startup | shutdown
  /-- Anything else, which is not answered. -/
  | other
deriving DecidableEq, Repr

/-- The announcement of a name. -/
def Announcement.ofName (s : String) : Announcement :=
  if s = "startup" then .startup else if s = "shutdown" then .shutdown else .other

/-- What an announcement is answered with. -/
inductive Acknowledgement where
  | startupComplete
  | startupFailed (message : String)
  | shutdownComplete
deriving DecidableEq, Repr

/-- An acknowledgement as a message. -/
def Acknowledgement.fields : Acknowledgement → List (String × String)
  | startupComplete => [("type", "lifespan.startup.complete")]
  | startupFailed message => [("type", "lifespan.startup.failed"), ("message", message)]
  | shutdownComplete => [("type", "lifespan.shutdown.complete")]

/-- Answers announcements in order, up to a shutdown or a startup that fails. A hook that fails during
the shutdown fails the whole. -/
def acknowledge (b : Behaviour U) : List Announcement → Act U (List Acknowledgement)
  | [] => return []
  | .startup :: r => do
    match ← Act.attempt (startUp b) with
    | .ok () => do
      let rest ← acknowledge b r
      return .startupComplete :: rest
    | .error f => do
      Act.log .server .error "Startup hook failed"
      let message ← Act.ofAttempt f.text
      return [.startupFailed message]
  | .shutdown :: _ => do
    shutDown b
    return [.shutdownComplete]
  | .other :: r => acknowledge b r

/-- Answers the announcements of a server. -/
def lifespan (b : Behaviour U) (messages : List Announcement) : Act U (List Acknowledgement) := do
  Act.freeze
  acknowledge b messages

end ServerTree
