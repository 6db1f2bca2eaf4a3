import ServerTree.App.Boot

/-!
# Starting from a command line

The address to listen on is taken from the command line, then the environment, then the root of the tree.
-/

namespace ServerTree

variable {U : Type}

/-- The level at which a started application logs. -/
def startLevel : Value := .str "info"

/-- Attaches a handler to the log and sets its threshold. -/
def configureLog (level : Value) : Act U Unit := do
  let world ← get
  let r := world.env.log.configure level
  set { world with env := { world.env with log := r.1 } }
  Act.ofAttempt r.2

/-- Builds an application from a tree and launches it. -/
def start (b : Behaviour U) (c : CommandLine) (environment : List (String × String))
    (root : Value) : Act U Launch := do
  configureLog startLevel
  build b root false
  let world ← get
  let listen := Listen.resolve c environment world.app.config.host world.app.config.port
  launch listen.host listen.port listen.openBrowser

end ServerTree
