/-
# Socketio.Reader — the reader task of the asynchronous client.

`poll_stream` spawns one task that reads packets, decides what the end of the stream means, and
reconnects.  `Reader` is where that task stands: one constructor for each await point, and one for
the top of the attempts loop.  A step takes it from one await point to the next; what the network or
the user's callback answers there is in the label.

`history` records what the task has done so far, latest first.  `Transition` says, once, everything
a step can do; the results about the reader are proved from it.
-/
import TfSocketio.Lib.Lts
import TfSocketio.Socketio.Builder
import TfSocketio.Socketio.Socket

namespace TfSocketio.Socketio.Async

open Text (Str)

/-! ## The state of a client -/

inductive DisconnectReason where
  /-- There is no known reason for the disconnect; likely a network error (the default). -/
  | unknown
  /-- The user disconnected manually. -/
  | manual
  /-- The server disconnected. -/
  | server
  deriving DecidableEq, Repr

/-- The inner socket: its own flag and generator, and the flag and the transport slot of the
engine.io socket. -/
@[ext]
structure InnerSocket where
  connected : Bool
  /-- The generator may have more packets to yield; after its end or an error it yields `None`. -/
  streaming : Bool
  engineConnected : Bool
  transport : Bool
  deriving DecidableEq, Repr

/-- A socket that `inner_create` has built and nobody has connected yet. -/
def InnerSocket.created : InnerSocket where
  connected := false
  streaming := true
  engineConnected := false
  transport := true

/-- `Socket::send` goes on to the transport; otherwise it returns `IllegalActionBeforeOpen`. -/
def InnerSocket.sends (socket : InnerSocket) : Bool := socket.engineConnected && socket.connected

theorem InnerSocket.send_of_not_sends {socket : InnerSocket} (h : socket.sends = false)
    {engineClient : EngineClient} (he : engineClient.connected = socket.engineConnected)
    (packet : Packet) : ((Socketio.Socket.mk engineClient socket.connected).send packet).1 =
      .error .illegalActionBeforeOpen := by
  unfold InnerSocket.sends at h
  unfold Socketio.Socket.send
  rw [← he] at h
  simp [h]

/-- What a dispatch task does. -/
inductive Task where
  | connect
  | close (reason : CloseReason) (epoch : Nat)
  | error
  | connectError
  | ack
  | binaryEvent
  | event
  deriving DecidableEq, Repr

/-- The notifications of a dying session, and the `Connect` callback, survive the end of the
stream. -/
def Task.terminal : Task → Bool
  | .connect => true
  | .close _ _ => true
  | .error => true
  | .connectError => false
  | .ack => false
  | .binaryEvent => false
  | .event => false

/-- An entry of `dispatch_tasks`. -/
structure DispatchTask where
  task : Task
  finished : Bool
  deriving DecidableEq, Repr

/-- Where the reader task stands.  `attempts` is the counter of the attempts loop. -/
inductive Reader where
  /-- At `client_clone.as_stream().await`. -/
  | asStream
  /-- At `stream.next().await`. -/
  | reading
  /-- A packet was read; at the guard `disconnect_reason.read().await`. -/
  | received (packet : Packet)
  /-- An error was read; at the guard. -/
  | receivedError
  /-- At `disconnect_reason.write().await` of a `Connect` or `Disconnect` packet. -/
  | handling (packet : Packet)
  /-- The stream has ended; at `disconnect_reason.read().await`. -/
  | streamEnded
  /-- At the top of the attempts loop. -/
  | attempt (attempts : UInt8)
  /-- In `reconnect`, about to take `on_reconnect` out of the builder. -/
  | takeOnReconnect (attempts : UInt8)
  /-- At `callback().await`. -/
  | onReconnect (attempts : UInt8)
  /-- About to apply the settings and put the callback back. -/
  | applySettings (attempts : UInt8) (taken : Bool)
  /-- At `inner_create().await`. -/
  | create (attempts : UInt8)
  /-- At `self.socket.write().await`. -/
  | install (attempts : UInt8)
  /-- At `self.socket.read().await` of `connect`. -/
  | connect (attempts : UInt8)
  /-- The engine.io socket is emitting its first pong. -/
  | connecting (attempts : UInt8)
  /-- About to send the CONNECT packet. -/
  | sendConnect (attempts : UInt8)
  /-- The attempt has failed; at `sleep(delay).await`. -/
  | backoff (attempts : UInt8)
  | exited
  | cancelled
  | panicked

/-- The task will take no further step. -/
def Reader.finished : Reader → Bool
  | .exited => true
  | .cancelled => true
  | .panicked => true
  | _ => false

/-- The task holds the stream, whose drop aborts the dispatch tasks that are not terminal. -/
def Reader.holdsStream : Reader → Bool
  | .reading => true
  | .received _ => true
  | .receivedError => true
  | .handling _ => true
  | _ => false

/-- The counter of the attempt in progress, from the call of `reconnect` to the end of the
backoff. -/
def Reader.reconnecting : Reader → Option UInt8
  | .takeOnReconnect attempts => some attempts
  | .onReconnect attempts => some attempts
  | .applySettings attempts _ => some attempts
  | .create attempts => some attempts
  | .install attempts => some attempts
  | .connect attempts => some attempts
  | .connecting attempts => some attempts
  | .sendConnect attempts => some attempts
  | .backoff attempts => some attempts
  | _ => none

theorem Reader.holdsStream_of_finished {r : Reader} (h : r.finished = true) :
    r.holdsStream = false := by
  cases r <;> simp_all [Reader.finished, Reader.holdsStream]

theorem Reader.reconnecting_of_finished {r : Reader} (h : r.finished = true) :
    r.reconnecting = none := by
  cases r <;> simp_all [Reader.finished, Reader.reconnecting]

/-- Something the reader has done. -/
inductive Occurrence where
  | received (epoch : Nat) (packet : Packet)
  | spawned (task : Task)
  /-- The reader has seen the end of the stream, and decided what it means (or died of it). -/
  | sessionEnded (epoch : Nat)
  | calledReconnect
  | calledOnReconnect
  | installed
  /-- A `connect` has completed: a session begins. -/
  | connected (epoch : Nat)
  /-- A round of attempts used up its maximum. -/
  | gaveUp
  | overflowed

@[ext]
structure Client where
  reason : DisconnectReason
  epoch : Nat
  socket : InnerSocket
  /-- Whether `on_reconnect` is registered in the builder. -/
  onReconnect : Bool
  dispatch : List DispatchTask
  reader : Reader
  history : List Occurrence

/-- A client whose first `connect` has completed, and whose reader has just been spawned. -/
def Client.init (onReconnect : Bool) : Client where
  reason := .unknown
  epoch := 1
  socket := { connected := true, streaming := true, engineConnected := true, transport := true }
  onReconnect
  dispatch := []
  reader := .asStream
  history := [.connected 1]

/-! ## What the reader does to it -/

/-- Spawns a dispatch task; handles of finished tasks are pruned. -/
def Client.spawnDispatch (s : Client) (task : Task) : Client :=
  { s with
    dispatch := s.dispatch.filter (fun t => !t.finished) ++ [⟨task, false⟩]
    history := .spawned task :: s.history }

/-- Aborts dispatch tasks, keeping terminal ones unless `includeTerminal` is set. -/
def Client.abortDispatch (s : Client) (includeTerminal : Bool) : Client :=
  { s with dispatch := s.dispatch.filter fun t => !includeTerminal && t.task.terminal }

/-- The task spawned for a packet that does not touch `disconnect_reason`. -/
def dispatchTask (packetType : PacketId) : Option Task :=
  match packetType with
  | .ack => some .ack
  | .binaryAck => some .ack
  | .binaryEvent => some .binaryEvent
  | .connectError => some .connectError
  | .event => some .event
  | .connect => none
  | .disconnect => none

/-- `handle_socketio_packet` up to its first await. -/
def Client.dispatchPacket (cfg : Config) (s : Client) (packet : Packet) : Client :=
  if packet.nsp = cfg.nsp then
    match dispatchTask packet.packetType with
    | some task => { s.spawnDispatch task with reader := .reading }
    | none => { s with reader := .handling packet }
  else { s with reader := .reading }

/-- `handle_socketio_packet` for a `Connect` or a `Disconnect`, under the write lock. -/
def Client.handlePacket (s : Client) (packet : Packet) : Client :=
  if packet.packetType = .disconnect then
    let s := ({ s with reason := .server } : Client).abortDispatch false
    { s.spawnDispatch (.close .ioServerDisconnect s.epoch) with reader := .reading }
  else
    let s : Client := { s with reason := .unknown }
    { s.spawnDispatch .connect with reader := .reading }

@[simp] theorem Client.handlePacket_epoch (s : Client) (packet : Packet) :
    (s.handlePacket packet).epoch = s.epoch := by
  unfold Client.handlePacket
  split <;> rfl

@[simp] theorem Client.handlePacket_reader (s : Client) (packet : Packet) :
    (s.handlePacket packet).reader = .reading := by
  unfold Client.handlePacket
  split <;> rfl

@[simp] theorem Client.handlePacket_reason (s : Client) (packet : Packet) :
    (s.handlePacket packet).reason =
      if packet.packetType = .disconnect then .server else .unknown := by
  unfold Client.handlePacket
  split <;> rfl

@[simp] theorem Client.handlePacket_history (s : Client) (packet : Packet) :
    (s.handlePacket packet).history =
      if packet.packetType = .disconnect then
        .spawned (.close .ioServerDisconnect s.epoch) :: s.history
      else .spawned .connect :: s.history := by
  unfold Client.handlePacket
  split <;> rfl

/-- The stream is over: both its last poll and its drop abort what is not terminal. -/
def Client.endStream (s : Client) : Client :=
  { (s.abortDispatch false).abortDispatch false with reader := .streamEnded }

/-- The generator has yielded its last packet. -/
def Client.exhaust (s : Client) : Client :=
  { s with socket := { s.socket with streaming := false } }

/-- Whether the end of the stream leads to a reconnect. -/
def shouldReconnect (cfg : Config) : DisconnectReason → Bool
  | .unknown => cfg.reconnect
  | .manual => false
  | .server => cfg.reconnectOnDisconnect

/-- What follows the end of the stream. -/
def Client.afterStream (cfg : Config) (s : Client) : Client :=
  let s : Client := { s with history := .sessionEnded s.epoch :: s.history }
  let s := if s.reason = .unknown then s.spawnDispatch (.close .transportClose s.epoch) else s
  { s with reader := if shouldReconnect cfg s.reason then .attempt 0 else .exited }

@[simp] theorem Client.afterStream_epoch (cfg : Config) (s : Client) :
    (s.afterStream cfg).epoch = s.epoch := by
  by_cases hu : s.reason = .unknown <;> simp [Client.afterStream, Client.spawnDispatch, hu]

@[simp] theorem Client.afterStream_reason (cfg : Config) (s : Client) :
    (s.afterStream cfg).reason = s.reason := by
  by_cases hu : s.reason = .unknown <;> simp [Client.afterStream, Client.spawnDispatch, hu]

theorem Client.afterStream_reader (cfg : Config) (s : Client) :
    (s.afterStream cfg).reader = if shouldReconnect cfg s.reason then .attempt 0 else .exited := by
  by_cases hu : s.reason = .unknown <;> simp [Client.afterStream, Client.spawnDispatch, hu]

theorem Client.afterStream_history (cfg : Config) (s : Client) : (s.afterStream cfg).history =
    if s.reason = .unknown then
      .spawned (.close .transportClose s.epoch) :: .sessionEnded s.epoch :: s.history
    else .sessionEnded s.epoch :: s.history := by
  by_cases hu : s.reason = .unknown <;> simp [Client.afterStream, Client.spawnDispatch, hu]

/-- One turn of the attempts loop, up to the call of `reconnect`. -/
def Client.nextAttempt (cfg : Config) (s : Client) (attempts : UInt8) : Client :=
  match cfg.maxReconnectAttempts with
  | none => { s with reader := .takeOnReconnect attempts, history := .calledReconnect :: s.history }
  | some max =>
      let s : Client :=
        if attempts = 255 then { s with history := .overflowed :: s.history } else s
      if attempts = 255 ∧ cfg.overflowChecks then { s with reader := .panicked }
      else if max < attempts + 1 then
        -- the `break` leaves the inner loop only
        { s with reader := .asStream, history := .gaveUp :: s.history }
      else
        { s with
          reader := .takeOnReconnect (attempts + 1), history := .calledReconnect :: s.history }

/-- A turn of the attempts loop leaves the reason and the dispatch tasks alone. -/
theorem Client.nextAttempt_same (cfg : Config) (s : Client) (attempts : UInt8) :
    (s.nextAttempt cfg attempts).reason = s.reason ∧
      (s.nextAttempt cfg attempts).dispatch = s.dispatch := by
  unfold Client.nextAttempt
  split
  · exact ⟨rfl, rfl⟩
  · dsimp only
    split
    · split <;> exact ⟨rfl, rfl⟩
    · split
      · split <;> exact ⟨rfl, rfl⟩
      · split <;> exact ⟨rfl, rfl⟩

/-- The end of a network step of `reconnect`: on to the next one, or to the backoff. -/
def Client.networkResult (s : Client) (ok : Bool) : Option Client :=
  match s.reader with
  | .create attempts =>
      some { s with reader := if ok then .install attempts else .backoff attempts }
  | .connecting attempts =>
      if ok then
        some { s with
          socket := { s.socket with connected := true }, reader := .sendConnect attempts }
      else some { s with reader := .backoff attempts }
  | .sendConnect attempts =>
      if ok && s.socket.sends then
        some { s with
          epoch := s.epoch + 1
          reader := .asStream
          history := .connected (s.epoch + 1) :: s.history }
      else some { s with reader := .backoff attempts }
  | _ => none

/-- The reader goes on from an await point that only other tasks can delay. -/
def Client.proceed (cfg : Config) (s : Client) : Option Client :=
  match s.reader with
  | .asStream => some { s with reader := .reading }
  | .received packet =>
      -- after a manual disconnect the packet is dropped and the stream ends
      if s.reason = .manual then some s.endStream else some (s.dispatchPacket cfg packet)
  | .receivedError =>
      if s.reason = .manual then some s.endStream
      else some { s.spawnDispatch .error with reader := .reading }
  | .handling packet => some (s.handlePacket packet)
  | .streamEnded => some (s.afterStream cfg)
  | .attempt attempts => some (s.nextAttempt cfg attempts)
  | .takeOnReconnect attempts =>
      if s.onReconnect then
        some { s with
          onReconnect := false
          reader := .onReconnect attempts
          history := .calledOnReconnect :: s.history }
      else some { s with reader := .applySettings attempts false }
  | .onReconnect attempts => some { s with reader := .applySettings attempts true }
  | .applySettings attempts taken =>
      some { s with onReconnect := s.onReconnect || taken, reader := .create attempts }
  | .install attempts =>
      some { s with
        socket := .created
        reader := .connect attempts
        history := .installed :: s.history }
  | .connect attempts =>
      -- a retired transport cannot be reopened
      if s.socket.transport then
        some { s with
          socket := { s.socket with engineConnected := true }, reader := .connecting attempts }
      else some { s with reader := .backoff attempts }
  | .backoff attempts => some { s with reader := .attempt attempts }
  | _ => none

/-! ## The steps -/

inductive ReaderLabel where
  | proceed
  /-- The stream yields a packet. -/
  | packet (packet : Packet)
  /-- The stream yields an error. -/
  | error
  | streamEnd
  /-- Engine.io ends between the attachments of a packet: the reader unwraps `None`. -/
  | streamPanic
  /-- The engine.io stream has processed a Close packet. -/
  | engineClose
  /-- The engine.io stream has missed a ping and closed the engine.io socket. -/
  | pingTimeout
  /-- The network step of `reconnect` in progress ends. -/
  | result (ok : Bool)
  | taskFinished (index : Nat)

def readerStep (cfg : Config) (s : Client) (label : ReaderLabel) : Option Client :=
  match label, s.reader, s.socket.streaming with
  | .proceed, _, _ => s.proceed cfg
  | .packet packet, .reading, true =>
      some { s with
        socket := { s.socket with connected := handleSocketioPacket s.socket.connected packet }
        reader := .received packet
        history := .received s.epoch packet :: s.history }
  | .error, .reading, true => some { s.exhaust with reader := .receivedError }
  | .streamEnd, .reading, _ => some s.exhaust.endStream
  | .streamPanic, .reading, true =>
      some { s.exhaust.abortDispatch false with
        reader := .panicked, history := .sessionEnded s.epoch :: s.history }
  | .engineClose, .reading, true =>
      some { s with socket := { s.socket with engineConnected := false } }
  | .pingTimeout, .reading, true =>
      some { s with socket := { s.socket with engineConnected := false, transport := false } }
  | .result ok, _, _ => s.networkResult ok
  | .taskFinished index, _, _ =>
      some { s with dispatch := s.dispatch.modify index fun t => { t with finished := true } }
  | _, _, _ => none

/-- The steps inside the engine.io stream that only clear flags. -/
def InnerSocket.closed (socket : InnerSocket) (keepTransport : Bool) : InnerSocket :=
  { socket with engineConnected := false, transport := socket.transport && keepTransport }

/-- **Everything a step of the reader can do.** -/
inductive Transition (cfg : Config) (s : Client) : ReaderLabel → Client → Prop
  | openStream (hr : s.reader = .asStream) :
      Transition cfg s .proceed { s with reader := .reading }
  | readPacket (packet : Packet) (hr : s.reader = .reading) (hs : s.socket.streaming = true) :
      Transition cfg s (.packet packet) { s with
        socket := { s.socket with connected := handleSocketioPacket s.socket.connected packet }
        reader := .received packet
        history := .received s.epoch packet :: s.history }
  | readError (hr : s.reader = .reading) (hs : s.socket.streaming = true) :
      Transition cfg s .error { s.exhaust with reader := .receivedError }
  | closeEngine (label : ReaderLabel) (keepTransport : Bool)
      (hl : label = .engineClose ∨ label = .pingTimeout) (hr : s.reader = .reading)
      (hs : s.socket.streaming = true) :
      Transition cfg s label { s with socket := s.socket.closed keepTransport }
  | endStream (hr : s.reader = .reading) : Transition cfg s .streamEnd s.exhaust.endStream
  | stopStream (hr : s.reader.holdsStream = true) (hm : s.reason = .manual) :
      Transition cfg s .proceed s.endStream
  | panicStream (hr : s.reader = .reading) (hs : s.socket.streaming = true) :
      Transition cfg s .streamPanic { s.exhaust.abortDispatch false with
        reader := .panicked, history := .sessionEnded s.epoch :: s.history }
  | dispatch (packet : Packet) (hr : s.reader = .received packet) (hm : s.reason ≠ .manual) :
      Transition cfg s .proceed (s.dispatchPacket cfg packet)
  | spawnError (hr : s.reader = .receivedError) (hm : s.reason ≠ .manual) :
      Transition cfg s .proceed { s.spawnDispatch .error with reader := .reading }
  | handle (packet : Packet) (hr : s.reader = .handling packet) :
      Transition cfg s .proceed (s.handlePacket packet)
  | afterStream (hr : s.reader = .streamEnded) : Transition cfg s .proceed (s.afterStream cfg)
  | nextAttempt (attempts : UInt8) (hr : s.reader = .attempt attempts) :
      Transition cfg s .proceed (s.nextAttempt cfg attempts)
  | callOnReconnect (attempts : UInt8) (hr : s.reader = .takeOnReconnect attempts) :
      Transition cfg s .proceed { s with
        onReconnect := false
        reader := .onReconnect attempts
        history := .calledOnReconnect :: s.history }
  | reconnecting (label : ReaderLabel) (next : Reader) (onReconnect : Bool) (socket : InnerSocket)
      (attempts : UInt8) (hl : label = .proceed ∨ ∃ ok, label = .result ok)
      (hr : s.reader.reconnecting = some attempts) (hn : next.reconnecting = some attempts) :
      Transition cfg s label { s with onReconnect, socket, reader := next }
  | install (attempts : UInt8) (hr : s.reader = .install attempts) :
      Transition cfg s .proceed { s with
        socket := .created
        reader := .connect attempts
        history := .installed :: s.history }
  | reconnected (attempts : UInt8) (hr : s.reader = .sendConnect attempts) :
      Transition cfg s (.result true) { s with
        epoch := s.epoch + 1
        reader := .asStream
        history := .connected (s.epoch + 1) :: s.history }
  | tryAgain (attempts : UInt8) (hr : s.reader = .backoff attempts) :
      Transition cfg s .proceed { s with reader := .attempt attempts }
  | taskFinished (index : Nat) :
      Transition cfg s (.taskFinished index) { s with
        dispatch := s.dispatch.modify index fun t => { t with finished := true } }

theorem Transition.of_proceed {cfg : Config} {s s' : Client} (h : s.proceed cfg = some s') :
    Transition cfg s .proceed s' := by
  cases hr : s.reader with
  | asStream =>
      simp only [Client.proceed, hr] at h
      cases h
      exact .openStream hr
  | received packet =>
      simp only [Client.proceed, hr] at h
      split at h <;> cases h
      · exact .stopStream (by rw [hr]; rfl) (by assumption)
      · exact .dispatch packet hr (by assumption)
  | receivedError =>
      simp only [Client.proceed, hr] at h
      split at h <;> cases h
      · exact .stopStream (by rw [hr]; rfl) (by assumption)
      · exact .spawnError hr (by assumption)
  | handling packet =>
      simp only [Client.proceed, hr] at h
      cases h
      exact .handle packet hr
  | streamEnded =>
      simp only [Client.proceed, hr] at h
      cases h
      exact .afterStream hr
  | attempt attempts =>
      simp only [Client.proceed, hr] at h
      cases h
      exact .nextAttempt attempts hr
  | takeOnReconnect attempts =>
      simp only [Client.proceed, hr] at h
      split at h <;> cases h
      · exact .callOnReconnect attempts hr
      · exact .reconnecting _ (.applySettings attempts false) s.onReconnect s.socket attempts
          (.inl rfl) (by rw [hr]; rfl) rfl
  | onReconnect attempts =>
      simp only [Client.proceed, hr] at h
      cases h
      exact .reconnecting _ (.applySettings attempts true) s.onReconnect s.socket attempts
        (.inl rfl) (by rw [hr]; rfl) rfl
  | applySettings attempts taken =>
      simp only [Client.proceed, hr] at h
      cases h
      exact .reconnecting _ (.create attempts) _ s.socket attempts (.inl rfl)
        (by rw [hr]; rfl) rfl
  | install attempts =>
      simp only [Client.proceed, hr] at h
      cases h
      exact .install attempts hr
  | connect attempts =>
      simp only [Client.proceed, hr] at h
      split at h <;> cases h
      · exact .reconnecting _ (.connecting attempts) s.onReconnect _ attempts (.inl rfl)
          (by rw [hr]; rfl) rfl
      · exact .reconnecting _ (.backoff attempts) s.onReconnect s.socket attempts (.inl rfl)
          (by rw [hr]; rfl) rfl
  | backoff attempts =>
      simp only [Client.proceed, hr] at h
      cases h
      exact .tryAgain attempts hr
  -- the other places wait for the network, or for nothing any more
  | _ => simp [Client.proceed, hr] at h

theorem Transition.of_networkResult {cfg : Config} {s s' : Client} {ok : Bool}
    (h : s.networkResult ok = some s') : Transition cfg s (.result ok) s' := by
  cases hr : s.reader with
  | create attempts =>
      simp only [Client.networkResult, hr] at h
      cases h
      exact .reconnecting _ _ s.onReconnect s.socket attempts (.inr ⟨_, rfl⟩)
        (by rw [hr]; rfl) (by cases ok <;> rfl)
  | connecting attempts =>
      simp only [Client.networkResult, hr] at h
      split at h <;> cases h
      · exact .reconnecting _ (.sendConnect attempts) s.onReconnect _ attempts (.inr ⟨_, rfl⟩)
          (by rw [hr]; rfl) rfl
      · exact .reconnecting _ (.backoff attempts) s.onReconnect s.socket attempts (.inr ⟨_, rfl⟩)
          (by rw [hr]; rfl) rfl
  | sendConnect attempts =>
      simp only [Client.networkResult, hr] at h
      split at h <;> cases h
      · -- a session begins only if the send went through
        rename_i hok
        obtain rfl : ok = true := (Bool.and_eq_true_iff.mp hok).1
        exact .reconnected attempts hr
      · exact .reconnecting _ (.backoff attempts) s.onReconnect s.socket attempts (.inr ⟨_, rfl⟩)
          (by rw [hr]; rfl) rfl
  | _ => simp [Client.networkResult, hr] at h

theorem readerStep_cases {cfg : Config} {s s' : Client} {label : ReaderLabel}
    (h : readerStep cfg s label = some s') : Transition cfg s label s' := by
  unfold readerStep at h
  -- the cases are the branches of `readerStep`, in its order
  split at h
  · exact .of_proceed h
  · rename_i packet hr hs
    cases h
    exact .readPacket packet hr hs
  · rename_i hr hs
    cases h
    exact .readError hr hs
  · rename_i hr
    cases h
    exact .endStream hr
  · rename_i hr hs
    cases h
    exact .panicStream hr hs
  · rename_i hr hs
    cases h
    have hclose : Transition cfg s .engineClose { s with socket := s.socket.closed true } :=
      .closeEngine _ true (.inl rfl) hr hs
    simpa [InnerSocket.closed] using hclose
  · rename_i hr hs
    cases h
    have hclose : Transition cfg s .pingTimeout { s with socket := s.socket.closed false } :=
      .closeEngine _ false (.inr rfl) hr hs
    simpa [InnerSocket.closed] using hclose
  · exact .of_networkResult h
  · cases h
    exact .taskFinished _
  · simp at h

end TfSocketio.Socketio.Async
