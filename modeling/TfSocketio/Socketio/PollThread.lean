/-
# Socketio.PollThread — the poll thread of the synchronous client and a disconnecting user.

`poll_callback` starts a thread that reads packet after packet from `Iter`, calls the callbacks
inline, and after an engine.io error, or a Disconnect packet with `reconnect_on_disconnect`,
disconnects and reconnects.  A user thread may call `Client::disconnect` at any moment.  Both hold
the read guard of the `RawClient` for as long as they work on it; installing a new one takes the
write guard.

`Poller` and `Disconnecting` are where the two threads stand.  `Transition` says, once, everything a
step can do.
-/
import TfSocketio.Lib.Lts
import TfSocketio.Socketio.Builder
import TfSocketio.Socketio.Socket

namespace TfSocketio.Socketio.Sync

open Text (Str)

/-! ## The state of a client -/

/-- What `Iter::next` returned, as far as `poll_callback` looks at it. -/
inductive PollResult where
  /-- `Err(IncompleteResponseFromEngineIo(_))`. -/
  | engineError
  /-- Any other error. -/
  | error
  | packet (packet : Packet)

/-- Where a thread stands in `RawClient::disconnect`. -/
inductive Disconnecting where
  /-- About to send the disconnect packet; whatever comes of it is ignored. -/
  | sending
  /-- About to close the engine.io socket. -/
  | closing
  /-- About to clear the flag of the socket. -/
  | clearing
  /-- About to call the close chain. -/
  | notifying
  deriving DecidableEq, Repr

/-- A packet whose attachments are being collected, and how many are left. -/
abbrev Header := Option (Packet × Nat)

/-- Where the poll thread stands.  It holds the read guard from `polling` to `handling`. -/
inductive Poller where
  /-- At the read guard in `Iter::next`. -/
  | next
  /-- About to look at the engine.io flag. -/
  | polling (header : Header)
  /-- Past that look: taking a remaining packet, or blocked in the transport. -/
  | polled (header : Header)
  /-- About to answer a Ping. -/
  | pinged (header : Header)
  /-- In the handler of a packet of the client's namespace, and in the user's callbacks. -/
  | handling (packet : Packet)
  /-- `Iter::next` has returned; about to decide. -/
  | deciding (result : PollResult)
  /-- In the disconnect that precedes a reconnect. -/
  | disconnecting (place : Disconnecting)
  /-- At the top of the loop of `reconnect`. -/
  | attempt (attempts : UInt8)
  /-- In the backoff. -/
  | sleeping (attempts : UInt8)
  /-- In `connect_raw`. -/
  | connecting (attempts : UInt8)
  /-- At the write guard of `do_reconnect`. -/
  | installing
  | panicked

/-- Something that has happened to the client. -/
inductive Occurrence where
  /-- A `connect` has completed: a session begins. -/
  | connected (epoch : Nat)
  | installed
  | calledDoReconnect
  /-- The close chain was called. -/
  | closed (reason : CloseReason) (epoch : Nat)
  /-- A Disconnect packet for the client's namespace was handled. -/
  | serverDisconnect (epoch : Nat)
  /-- A poll failed with an engine.io error. -/
  | engineError (epoch : Nat)
  /-- The user has called `disconnect`. -/
  | userDisconnect (epoch : Nat)
  deriving DecidableEq, Repr

/-- The client; the two flags are those of the `RawClient` that is installed. -/
structure Client where
  epoch : Nat
  /-- The flag of the socket.io socket. -/
  connected : Bool
  /-- The flag of the engine.io socket. -/
  engineConnected : Bool
  poller : Poller
  /-- Where the user's call stands; it holds the read guard. -/
  user : Option Disconnecting
  history : List Occurrence

/-- A client whose first connect has completed, and whose poll thread has just been started. -/
def Client.init : Client where
  epoch := 1
  connected := true
  engineConnected := true
  poller := .next
  user := none
  history := [.connected 1]

/-! ## The steps -/

/-- One step of `RawClient::disconnect`. -/
def Client.disconnectStep (s : Client) : Disconnecting → Client × Option Disconnecting
  | .sending => (s, some .closing)
  | .closing => ({ s with engineConnected := false }, some .clearing)
  | .clearing => ({ s with connected := false }, some .notifying)
  | .notifying => ({ s with history := .closed .ioClientDisconnect s.epoch :: s.history }, none)

/-- A poll that ends in an engine.io error. -/
def Client.failPoll (s : Client) : Client :=
  { s with poller := .deciding .engineError, history := .engineError s.epoch :: s.history }

/-- `Socket::poll` returns a packet; `RawClient::poll` goes on unless it is of its namespace. -/
def Client.deliver (cfg : Config) (s : Client) (packet : Packet) : Client :=
  { s with
    connected := handleSocketioPacket s.connected packet
    poller := if packet.nsp = cfg.nsp then .handling packet else .polling none }

/-- `Socket::poll` with an engine.io packet that carries data; `decoded` is what the data reads as,
if it is a socket.io packet. -/
def Client.receiveMessage (cfg : Config) (s : Client) (header : Header) (decoded : Option Packet) :
    Client :=
  match header with
  | some (packet, attachmentsLeft) =>
      -- this is the last attachment
      if attachmentsLeft ≤ 1 then s.deliver cfg packet
      else { s with poller := .polling (some (packet, attachmentsLeft - 1)) }
  | none =>
      match decoded with
      | none => { s with poller := .deciding .error }
      | some packet =>
          if 0 < packet.attachmentCount then
            { s with poller := .polling (some (packet, packet.attachmentCount.toNat)) }
          else s.deliver cfg packet

/-- `Socket::poll` with any other engine.io packet: no attachment, and nothing by itself. -/
def skipPacket (header : Header) : Poller :=
  match header with
  | some _ => .deciding .error
  | none => .polling none

/-- What the engine.io `Client::poll` does with a packet. -/
def Client.receive (cfg : Config) (s : Client) (header : Header) (packetId : Engineio.PacketId)
    (decoded : Option Packet) : Client :=
  match packetId with
  | .message => s.receiveMessage cfg header decoded
  | .messageBinary => s.receiveMessage cfg header decoded
  | .close => { s with engineConnected := false, poller := skipPacket header }
  | .ping => { s with poller := .pinged header }
  | .upgrade => { s with poller := skipPacket header }
  | .noop => { s with poller := skipPacket header }
  -- `unreachable!`
  | .open => { s with poller := .panicked }
  | .pong => { s with poller := .panicked }

/-- `RawClient::handle_socketio_packet`; `ok` is whether an ack could be handled. -/
def Client.handle (s : Client) (packet : Packet) (ok : Bool) : Client :=
  match packet.packetType with
  | .disconnect =>
      { s with
        poller := .deciding (.packet packet)
        history := .closed .ioServerDisconnect s.epoch :: .serverDisconnect s.epoch :: s.history }
  | .ack => { s with poller := .deciding (if ok then .packet packet else .error) }
  | .binaryAck => { s with poller := .deciding (if ok then .packet packet else .error) }
  | .binaryEvent => { s with poller := .deciding (.packet packet) }
  | .connect => { s with poller := .deciding (.packet packet) }
  | .connectError => { s with poller := .deciding (.packet packet) }
  | .event => { s with poller := .deciding (.packet packet) }

/-- Whether `poll_callback` reconnects after a result. -/
def shouldReconnect (cfg : Config) : PollResult → Bool
  | .engineError => true
  | .error => false
  | .packet packet => packet.packetType = .disconnect && cfg.reconnectOnDisconnect

/-- One turn of the loop of `reconnect`, up to the backoff. -/
def nextAttempt (cfg : Config) (attempts : UInt8) : Poller :=
  match cfg.maxReconnectAttempts with
  | none => .sleeping attempts
  | some max =>
      if attempts = 255 ∧ cfg.overflowChecks then .panicked
      -- `reconnect` returns `Ok` all the same, and the thread polls on
      else if max < attempts + 1 then .next
      else .sleeping (attempts + 1)

/-- The poll thread goes on from a place where it waits for nobody but the user's guard. -/
def Client.proceed (cfg : Config) (s : Client) : Option Client :=
  match s.poller with
  | .next => some { s with poller := .polling none }
  | .polling header =>
      if s.engineConnected then some { s with poller := .polled header }
      -- `IncompletePacket`, or `StoppedEngineIoSocket`
      else some { s with poller := .deciding .error }
  | .deciding result =>
      some { s with
        poller := if shouldReconnect cfg result then .disconnecting .sending else .next }
  | .disconnecting place =>
      let (s, next) := s.disconnectStep place
      match next with
      | some place => some { s with poller := .disconnecting place }
      | none => some { s with poller := if cfg.reconnect then .attempt 0 else .next }
  | .attempt attempts => some { s with poller := nextAttempt cfg attempts }
  | .sleeping attempts =>
      some { s with poller := .connecting attempts, history := .calledDoReconnect :: s.history }
  | .installing =>
      -- the user's call holds the read guard until it returns
      if s.user = none then
        some { s with
          connected := true
          engineConnected := true
          poller := .next
          history := .installed :: s.history }
      else none
  | _ => none

inductive Label where
  /-- The poll thread goes on. -/
  | proceed
  /-- The transport fails, or returns what is not an engine.io payload. -/
  | transportError
  /-- The transport returns an empty payload. -/
  | emptyPayload
  | receive (packetId : Engineio.PacketId) (decoded : Option Packet)
  /-- The Pong is sent, or not. -/
  | pong (ok : Bool)
  | handled (ok : Bool)
  /-- `connect_raw` ends. -/
  | connectRaw (ok : Bool)
  /-- The user calls `disconnect`. -/
  | disconnect
  /-- The user's call goes on. -/
  | user

def step (cfg : Config) (s : Client) (label : Label) : Option Client :=
  match label, s.poller, s.user with
  | .proceed, _, _ => s.proceed cfg
  | .transportError, .polled _, _ => some s.failPoll
  | .emptyPayload, .polled header, _ => some { s with poller := .polling header }
  | .receive packetId decoded, .polled header, _ => some (s.receive cfg header packetId decoded)
  | .pong ok, .pinged header, _ =>
      if s.engineConnected && ok then some { s with poller := skipPacket header }
      else some s.failPoll
  | .handled ok, .handling packet, _ => some (s.handle packet ok)
  | .connectRaw ok, .connecting attempts, _ =>
      if ok then
        some { s with
          epoch := s.epoch + 1
          poller := .installing
          history := .connected (s.epoch + 1) :: s.history }
      else some { s with poller := .attempt attempts }
  | .disconnect, _, none =>
      some { s with user := some .sending, history := .userDisconnect s.epoch :: s.history }
  | .user, _, some place =>
      let (s, next) := s.disconnectStep place
      some { s with user := next }
  | _, _, _ => none

/-- **Everything a step can do.** -/
inductive Transition (cfg : Config) (s : Client) : Label → Client → Prop
  | startPoll (hr : s.poller = .next) :
      Transition cfg s .proceed { s with poller := .polling none }
  | findsOpen (header : Header) (hr : s.poller = .polling header) (he : s.engineConnected = true) :
      Transition cfg s .proceed { s with poller := .polled header }
  | findsClosed (header : Header) (hr : s.poller = .polling header)
      (he : s.engineConnected = false) :
      Transition cfg s .proceed { s with poller := .deciding .error }
  | failPoll (label : Label) (header : Header)
      (hl : label = .transportError ∨ ∃ ok, label = .pong ok ∧ (s.engineConnected && ok) = false)
      (hr : s.poller = .polled header ∨ s.poller = .pinged header) :
      Transition cfg s label s.failPoll
  | pollAgain (header : Header) (hr : s.poller = .polled header) :
      Transition cfg s .emptyPayload { s with poller := .polling header }
  | receive (header : Header) (packetId : Engineio.PacketId) (decoded : Option Packet)
      (hr : s.poller = .polled header) :
      Transition cfg s (.receive packetId decoded) (s.receive cfg header packetId decoded)
  | answerPing (ok : Bool) (header : Header) (hr : s.poller = .pinged header)
      (hok : (s.engineConnected && ok) = true) :
      Transition cfg s (.pong ok) { s with poller := skipPacket header }
  | handle (packet : Packet) (ok : Bool) (hr : s.poller = .handling packet) :
      Transition cfg s (.handled ok) (s.handle packet ok)
  | decide (result : PollResult) (hr : s.poller = .deciding result) :
      Transition cfg s .proceed { s with
        poller := if shouldReconnect cfg result then .disconnecting .sending else .next }
  | disconnecting (place next : Disconnecting) (s' : Client)
      (hr : s.poller = .disconnecting place) (hs : s.disconnectStep place = (s', some next)) :
      Transition cfg s .proceed { s' with poller := .disconnecting next }
  | disconnected (hr : s.poller = .disconnecting .notifying) :
      Transition cfg s .proceed { s with
        poller := if cfg.reconnect then .attempt 0 else .next
        history := .closed .ioClientDisconnect s.epoch :: s.history }
  | nextAttempt (attempts : UInt8) (hr : s.poller = .attempt attempts) :
      Transition cfg s .proceed { s with poller := nextAttempt cfg attempts }
  | wakeUp (attempts : UInt8) (hr : s.poller = .sleeping attempts) :
      Transition cfg s .proceed { s with
        poller := .connecting attempts, history := .calledDoReconnect :: s.history }
  | connected (attempts : UInt8) (hr : s.poller = .connecting attempts) :
      Transition cfg s (.connectRaw true) { s with
        epoch := s.epoch + 1
        poller := .installing
        history := .connected (s.epoch + 1) :: s.history }
  | connectFailed (attempts : UInt8) (hr : s.poller = .connecting attempts) :
      Transition cfg s (.connectRaw false) { s with poller := .attempt attempts }
  | install (hr : s.poller = .installing) (hu : s.user = none) :
      Transition cfg s .proceed { s with
        connected := true
        engineConnected := true
        poller := .next
        history := .installed :: s.history }
  | callDisconnect (hu : s.user = none) :
      Transition cfg s .disconnect { s with
        user := some .sending, history := .userDisconnect s.epoch :: s.history }
  | userDisconnecting (place next : Disconnecting) (s' : Client) (hu : s.user = some place)
      (hs : s.disconnectStep place = (s', some next)) :
      Transition cfg s .user { s' with user := some next }
  | userReturns (hu : s.user = some .notifying) :
      Transition cfg s .user { s with
        user := none, history := .closed .ioClientDisconnect s.epoch :: s.history }

/-- Only the last step of a disconnect calls the close chain. -/
theorem Client.disconnectStep_none {s s' : Client} {place : Disconnecting}
    (h : s.disconnectStep place = (s', none)) : place = .notifying ∧
      s' = { s with history := .closed .ioClientDisconnect s.epoch :: s.history } := by
  cases place with
  | notifying => exact ⟨rfl, (Prod.mk.inj h).1.symm⟩
  | _ => simp [Client.disconnectStep] at h

theorem Transition.of_proceed {cfg : Config} {s s' : Client} (h : s.proceed cfg = some s') :
    Transition cfg s .proceed s' := by
  cases hr : s.poller with
  | next =>
      simp only [Client.proceed, hr] at h
      cases h
      exact .startPoll hr
  | polling header =>
      simp only [Client.proceed, hr] at h
      split at h <;> cases h
      · exact .findsOpen header hr (by assumption)
      · rename_i he
        exact .findsClosed header hr (by simpa using he)
  | deciding result =>
      simp only [Client.proceed, hr] at h
      cases h
      exact .decide result hr
  | disconnecting place =>
      simp only [Client.proceed, hr] at h
      obtain ⟨t, hnext⟩ : ∃ t, s.disconnectStep place = t := ⟨_, rfl⟩
      rw [hnext] at h
      obtain ⟨t, next⟩ := t
      cases next with
      | some next =>
          cases h
          exact .disconnecting place next t hr hnext
      | none =>
          cases h
          obtain ⟨rfl, rfl⟩ := Client.disconnectStep_none hnext
          exact .disconnected hr
  | attempt attempts =>
      simp only [Client.proceed, hr] at h
      cases h
      exact .nextAttempt attempts hr
  | sleeping attempts =>
      simp only [Client.proceed, hr] at h
      cases h
      exact .wakeUp attempts hr
  | installing =>
      simp only [Client.proceed, hr] at h
      split at h
      · rename_i hu
        cases h
        exact .install hr hu
      · simp at h
  -- the other places wait for the network or the user's callbacks
  | _ => simp [Client.proceed, hr] at h

theorem step_cases {cfg : Config} {s s' : Client} {label : Label}
    (h : step cfg s label = some s') : Transition cfg s label s' := by
  unfold step at h
  -- the cases are the branches of `step`, in its order
  split at h
  · exact .of_proceed h
  · rename_i header hr
    cases h
    exact .failPoll _ header (.inl rfl) (.inl hr)
  · rename_i header hr
    cases h
    exact .pollAgain header hr
  · rename_i packetId decoded header hr
    cases h
    exact .receive header packetId decoded hr
  · rename_i ok header hr
    split at h <;> cases h
    · exact .answerPing ok header hr (by assumption)
    · rename_i hfail
      exact .failPoll _ header (.inr ⟨ok, rfl, by simpa using hfail⟩) (.inr hr)
  · rename_i ok packet hr
    cases h
    exact .handle packet ok hr
  · rename_i ok attempts hr
    split at h <;> cases h
    · rename_i hok
      subst hok
      exact .connected attempts hr
    · rename_i hok
      obtain rfl : ok = false := by simpa using hok
      exact .connectFailed attempts hr
  · rename_i hu
    cases h
    exact .callDisconnect hu
  · rename_i place hu
    obtain ⟨t, hnext⟩ : ∃ t, s.disconnectStep place = t := ⟨_, rfl⟩
    rw [hnext] at h
    obtain ⟨t, next⟩ := t
    cases h
    cases next with
    | some next => exact .userDisconnecting place next t hu hnext
    | none =>
        obtain ⟨rfl, rfl⟩ := Client.disconnectStep_none hnext
        exact .userReturns hu
  · simp at h

end TfSocketio.Socketio.Sync
