import ServerTree.App.World

/-!
# Listening

Launching an application freezes it, announces its address and hands it to a server. A browser can be
sent to the address shortly after.
-/

namespace ServerTree

/-- What the server is given. -/
structure Launch where
  listen : Listen
  url : String
  /-- The number of workers. -/
  workers : Nat
  reload : Value
  reloadInclude : Value
  reloadDirs : Value

/-- How long after the launch a browser is opened, in seconds. -/
def browserDelay : Float := 0.5

variable {U : Type}

/-- Launches the application. A host or port that is missing or counts as false is taken from the
configuration. -/
def launch (host port : Value) (openBrowser : Bool) : Act U Launch := do
  modify fun w => { w with app := w.app.freeze }
  let world ← get
  let config := world.app.config
  let listen : Listen := ⟨host.orElse config.host, port.orElse config.port, openBrowser⟩
  let url ← Act.ofAttempt listen.url
  Act.log .server .info ("Listening on " ++ url)
  return ⟨listen, url, 1, config.debug, config.reloadInclude, config.reloadDirs⟩

end ServerTree
