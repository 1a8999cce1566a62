/-
# Socketio.Builder — the settings of a client.
-/
import TfSocketio.Lib.Text

namespace TfSocketio.Socketio

open Text (Str)

/-- What a running client reads of its `ClientBuilder`, and how the crate was compiled. -/
structure Config where
  nsp : Str
  reconnect : Bool
  reconnectOnDisconnect : Bool
  /-- `none` means infinity. -/
  maxReconnectAttempts : Option UInt8
  /-- Whether an arithmetic overflow panics, as it does in debug builds. -/
  overflowChecks : Bool

namespace Config

/-- `ClientBuilder::new`. -/
def new : Config where
  nsp := ['/']
  reconnect := true
  reconnectOnDisconnect := false
  maxReconnectAttempts := none
  overflowChecks := true

/-- Sets the target namespace of the client (`namespace`).  A leading `/` is added if it is
missing. -/
def setNamespace (cfg : Config) (nsp : Str) : Config :=
  { cfg with nsp := if nsp.head? = some '/' then nsp else '/' :: nsp }

theorem setNamespace_head (cfg : Config) (nsp : Str) :
    (cfg.setNamespace nsp).nsp.head? = some '/' := by
  by_cases h : nsp.head? = some '/'
  · simp [setNamespace, h]
  · simp [setNamespace, h]

/-- If set to `true` try to reconnect when the server disconnects the client. -/
def setReconnectOnDisconnect (cfg : Config) (reconnectOnDisconnect : Bool) : Config :=
  { cfg with reconnectOnDisconnect }

/-- Sets the maximum number of times to attempt reconnections. -/
def setMaxReconnectAttempts (cfg : Config) (reconnectAttempts : UInt8) : Config :=
  { cfg with maxReconnectAttempts := some reconnectAttempts }

end Config

end TfSocketio.Socketio
