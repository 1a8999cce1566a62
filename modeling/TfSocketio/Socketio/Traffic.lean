/-
# Socketio.Traffic — which user code a client calls, and what its sends return.

A connected client reads packets and runs a handler for each packet of its own namespace.  The
synchronous client runs it before it reads on, the asynchronous one in a task of its own; either
way the handler is a `Thread`, a list of pieces of work with points between them where something
else may happen: another thread goes on, a packet is read, user code sends, the connection ends or
begins anew.

Those who take part are kept apart only as far as it matters for what is called and what is
returned.  The mutexes of the synchronous client delay or block its threads and let nothing happen
that cannot happen here; where its user calls it back, the steps of the call are steps like any
others.  Of a teardown of the asynchronous client, the steps are that it is announced, that the
reader is stopped, that the socket is disconnected, and that what still runs is aborted.
-/
import TfSocketio.Socketio.Dispatch
import TfSocketio.Socketio.Reader

namespace TfSocketio.Socketio

open Text (Str)

/-! ## The work of a handler -/

/-- A piece of work of a handler. -/
inductive Work (json : SerdeJson) where
  /-- Take the entries an ack matches out of the outstanding ones. -/
  | takeAcks (packet : Packet)
  /-- Look whether an entry that was taken out is still in time. -/
  | check (ack : Ack) (packet : Packet)
  /-- Look for the callback of `on_close_with_session`. -/
  | takeClose (reason : CloseReason) (epoch : Nat)
  /-- Put that callback back. -/
  | putClose
  | invoke (invocation : Invocation json)

/-- Whether the task of a handler survives the end of its session. -/
def Handler.terminal : Handler → Bool
  | .connect => true
  | .disconnect => true
  | _ => false

section Work

variable {json : SerdeJson} (reader : FromStr json) (registrations : Registrations)

/-- `callback`. -/
def callbackWork (event : Event) (payload : Payload json) (ackId : Option Int) :
    List (Work json) :=
  (callback registrations.toCallbacks event payload ackId).map fun call => .invoke (.callback call)

/-- The close chain (`callback_close`): `on(Event::Close)`, then `on_close_with_session`. -/
def closeWork (reason : CloseReason) (epoch : Nat) : List (Work json) :=
  callbackWork registrations .close (.ofString reader reason.asStr) none ++
    [.takeClose reason epoch]

/-- What a handler does with a packet, in a session with the given epoch. -/
def handlerWork (epoch : Nat) (packet : Packet) : Handler → List (Work json)
  | .ack => [.takeAcks packet]
  | .binaryEvent =>
      (handleBinaryEvent registrations.toCallbacks packet).map fun call => .invoke (.callback call)
  | .connect => callbackWork registrations .connect (.ofString reader []) none
  | .disconnect => closeWork reader registrations .ioServerDisconnect epoch
  | .connectError =>
      callbackWork registrations .error (.ofString reader (connectErrorText packet)) none
  | .event =>
      match handleEvent reader registrations.toCallbacks packet with
      | .ok calls => calls.map fun call => .invoke (.callback call)
      -- an empty array is the one error `handle_event` returns
      | .error _ =>
          callbackWork registrations .error (.ofString reader incompletePacketText) none

/-- What an ack hands to an entry that is still in time. -/
def ackWork (ack : Ack) (packet : Packet) : List (Work json) :=
  (ackPayloads reader packet).map fun payload => .invoke (.ack ack payload)

end Work

/-! ## The state -/

/-- What is left of a handler, or of another call that invokes user code. -/
structure Thread (json : SerdeJson) where
  work : List (Work json)
  /-- The next packet is read only when it is done. -/
  inline : Bool
  /-- It survives the end of its session. -/
  terminal : Bool

/-- `abort_dispatch`, for one thread. -/
def Thread.abort {json : SerdeJson} (includeTerminal : Bool) (thread : Thread json) : Thread json :=
  if includeTerminal || !thread.terminal then { thread with work := [] } else thread

/-- What the client does between two handlers. -/
inductive Stage where
  | reading
  /-- The stream of the asynchronous client is over, and its reader may reconnect. -/
  | reconnecting
  /-- The reader of the asynchronous client is no more. -/
  | stopped
  deriving DecidableEq, Repr

structure Traffic (json : SerdeJson) where
  client : RawClient
  epoch : Nat
  /-- `disconnect_reason` of the asynchronous client. -/
  reason : Async.DisconnectReason
  stage : Stage
  /-- The callback of `on_close_with_session` is in its place. -/
  closeCallback : Bool
  threads : List (Thread json)
  /-- How many callbacks `emit_with_ack` has registered. -/
  registered : Nat
  /-- The invocations of user code so far. -/
  calls : List (Invocation json)
  /-- What `emit`, `ack` and `emit_with_ack` have returned so far. -/
  outcomes : List (Except Error Unit)

/-- A callback is registered wherever one can be. -/
def Registrations.all : Registrations := ⟨⟨fun _ => true, true⟩, true⟩

/-- What is about to fail of what a client sends next. -/
def RawClient.failing (client : RawClient) (failures : List (Option Engineio.Error)) : RawClient :=
  { client with socket := { client.socket with
    engineClient := { client.socket.engineClient with failures } } }

namespace Traffic

/-- A client in its first session. -/
def init (json : SerdeJson) (registrations : Registrations) (nsp : Str) : Traffic json where
  client := { nsp, socket := Socket.opened [], outstandingAcks := [] }
  epoch := 1
  reason := .unknown
  stage := .reading
  closeCallback := registrations.onCloseWithSession
  threads := []
  registered := 0
  calls := []
  outcomes := []

inductive Label (json : SerdeJson) where
  /-- The socket returns a packet. -/
  | packet (packet : Packet)
  /-- The socket returns an error, which is displayed as the text. -/
  | pollError (text : Str)
  /-- The stream of the asynchronous client ends. -/
  | streamEnd
  /-- A thread goes on, at some time. -/
  | work (i : Nat) (now : Nat)
  | emit (event : Event) (data : Payload json) (failures : List (Option Engineio.Error))
  | ack (data : Payload json) (ackId : Option Int) (failures : List (Option Engineio.Error))
  | emitWithAck (event : Event) (data : Payload json) (timeout : Nat) (id : Fin 999) (now : Nat)
      (failures : List (Option Engineio.Error))
  /-- The engine.io connection is closed. -/
  | engineClosed
  /-- A teardown of the asynchronous client sets the reason. -/
  | announce
  /-- A teardown of the asynchronous client stops the reader. -/
  | stopReader
  /-- The socket is disconnected by the user, or before a reconnect of the synchronous client. -/
  | disconnect (failures : List (Option Engineio.Error))
  /-- A teardown of the asynchronous client aborts what still runs. -/
  | abortTasks
  /-- The asynchronous client has a new socket, which is about to be connected or just was. -/
  | install (engineConnected connected : Bool)
  /-- A reconnect has succeeded. -/
  | session
  /-- A round of attempts has given up, and the asynchronous client reads on from the stream. -/
  | giveUp

/-! ## The steps -/

section Step

variable {json : SerdeJson} (flavour : Flavour) (reader : FromStr json)
  (registrations : Registrations)

def spawn (s : Traffic json) (work : List (Work json)) (inline terminal : Bool) : Traffic json :=
  { s with threads := s.threads ++ [⟨work, inline, terminal⟩] }

/-- `abort_dispatch`. -/
def abort (s : Traffic json) (includeTerminal : Bool) : Traffic json :=
  { s with threads := s.threads.map (Thread.abort includeTerminal) }

/-- A packet is read only when everything that runs inline is done. -/
def canRead (s : Traffic json) : Bool :=
  s.stage = .reading && s.threads.all fun thread => !thread.inline || thread.work.isEmpty

/-- The stream is dropped: what runs and is not terminal is aborted. -/
def quit (s : Traffic json) (stage : Stage) : Traffic json := { s with stage }.abort false

/-- An item that the asynchronous client reads after a teardown is announced ends the stream. -/
def quits (s : Traffic json) : Bool := flavour = .async && s.reason = .manual

/-- What a packet of the own namespace does before its handler starts. -/
def enterHandler (s : Traffic json) (handler : Handler) : Traffic json :=
  match flavour, handler with
  | .async, .connect => { s with reason := .unknown }
  -- what still runs belongs to a dead session
  | .async, .disconnect => { s with reason := .server }.abort false
  | _, _ => s

/-- `handle_socketio_packet` of the client. -/
def handlePacket (s : Traffic json) (packet : Packet) : Traffic json :=
  match handlerOf s.client.nsp packet with
  | some handler =>
      (s.enterHandler flavour handler).spawn
        (handlerWork reader registrations s.epoch packet handler) (flavour = .sync) handler.terminal
  | none => s

def setConnected (s : Traffic json) (connected : Bool) : Traffic json :=
  { s with client := { s.client with socket := { s.client.socket with connected } } }

/-- A packet is read.  The socket sets its flag, whatever the packet's namespace. -/
def readPacket (s : Traffic json) (packet : Packet) : Traffic json :=
  let s := s.setConnected (handleSocketioPacket s.client.socket.connected packet)
  if s.quits flavour then s.quit .stopped else s.handlePacket flavour reader registrations packet

/-- An error is read. -/
def readError (s : Traffic json) (text : Str) : Traffic json :=
  if s.quits flavour then s.quit .stopped
  else
    s.spawn (callbackWork registrations .error (.ofString reader text) none) (flavour = .sync) true

/-- The stream of the asynchronous client is over. -/
def endStream (s : Traffic json) : Traffic json :=
  match s.reason with
  | .unknown =>
      (s.quit .reconnecting).spawn (closeWork reader registrations .transportClose s.epoch) false
        true
  | .manual => s.quit .stopped
  | .server => s.quit .reconnecting

/-- Does a piece of work.  What it leads to is done next. -/
def perform (s : Traffic json) (now : Nat) : Work json → List (Work json) × Traffic json
  | .takeAcks packet =>
      match packet.id with
      | none => ([], s)
      | some id =>
          let (matched, outstanding) := takeMatching flavour id s.client.outstandingAcks
          (matched.map fun ack => .check ack packet,
            { s with client := { s.client with outstandingAcks := outstanding } })
  | .check ack packet => (if ack.inTime now then ackWork reader ack packet else [], s)
  | .takeClose reason epoch =>
      if s.closeCallback then
        match flavour with
        | .sync =>
            ([.invoke (.closeWithSession reason epoch), .putClose],
              { s with closeCallback := false })
        | .async => ([.invoke (.closeWithSession reason epoch)], s)
      else ([], s)
  | .putClose => ([], { s with closeCallback := true })
  | .invoke invocation => ([], { s with calls := s.calls ++ [invocation] })

/-- A thread goes on. -/
def proceed (s : Traffic json) (i now : Nat) : Option (Traffic json) :=
  match s.threads[i]? with
  | none => none
  | some thread =>
      match thread.work with
      | [] => none
      | work :: rest =>
          let (next, s) := s.perform flavour reader now work
          some { s with threads := s.threads.set i { thread with work := next ++ rest } }

/-- User code sends, and sees what comes of it. -/
def send (s : Traffic json) (failures : List (Option Engineio.Error))
    (operation : RawClient → Except Error Unit × RawClient) : Traffic json :=
  let (result, client) := operation (s.client.failing failures)
  { s with client, outcomes := s.outcomes ++ [result] }

def step (s : Traffic json) : Label json → Option (Traffic json)
  | .packet packet =>
      if s.canRead then some (s.readPacket flavour reader registrations packet) else none
  | .pollError text =>
      if s.canRead then some (s.readError flavour reader registrations text) else none
  | .streamEnd =>
      if flavour = .async ∧ s.stage = .reading then some (s.endStream reader registrations)
      else none
  | .work i now => s.proceed flavour reader i now
  | .emit event data failures => some (s.send failures fun client => client.emit event data)
  | .ack data ackId failures => some (s.send failures fun client => client.ack data ackId)
  | .emitWithAck event data timeout id now failures =>
      some { s.send failures fun client =>
          client.emitWithAck event data timeout s.registered id now with
        registered := s.registered + 1 }
  | .engineClosed =>
      some { s with client := { s.client with socket := { s.client.socket with
        engineClient := { s.client.socket.engineClient with connected := false } } } }
  | .announce => if flavour = .async then some { s with reason := .manual } else none
  | .stopReader =>
      if flavour = .async then
        -- dropping the reader drops the stream, if it holds one
        if s.stage = .reading then some (s.quit .stopped) else some { s with stage := .stopped }
      else none
  | .disconnect failures =>
      let s := { s with client := (s.client.failing failures).disconnect }
      match flavour with
      | .sync =>
          some (s.spawn (closeWork reader registrations .ioClientDisconnect s.epoch) false true)
      | .async => some s
  | .abortTasks => if flavour = .async then some (s.abort true) else none
  | .install engineConnected connected =>
      if s.stage = .reconnecting then
        some { s with client := { s.client with socket :=
          { Socket.opened [] with
            engineClient := { (Socket.opened []).engineClient with connected := engineConnected }
            connected } } }
      else none
  | .session =>
      match flavour with
      -- a fresh `RawClient`, with its own list, takes over
      | .sync =>
          if s.canRead then
            some { s with
              client := { s.client with socket := Socket.opened [], outstandingAcks := [] }
              epoch := s.epoch + 1 }
          else none
      | .async =>
          if s.stage = .reconnecting then some { s with epoch := s.epoch + 1, stage := .reading }
          else none
  | .giveUp =>
      if flavour = .async ∧ s.stage = .reconnecting then some { s with stage := .reading }
      else none

/-! ## What a step touches -/

theorem enterHandler_frame (s : Traffic json) (handler : Handler) :
    ∃ reason threads, s.enterHandler flavour handler = { s with reason, threads } := by
  cases flavour with
  | sync => exact ⟨s.reason, s.threads, rfl⟩
  | async =>
      cases handler with
      | connect => exact ⟨.unknown, s.threads, rfl⟩
      | disconnect => exact ⟨.server, _, rfl⟩
      | ack => exact ⟨s.reason, s.threads, rfl⟩
      | binaryEvent => exact ⟨s.reason, s.threads, rfl⟩
      | connectError => exact ⟨s.reason, s.threads, rfl⟩
      | event => exact ⟨s.reason, s.threads, rfl⟩

theorem handlePacket_frame (s : Traffic json) (packet : Packet) :
    ∃ reason threads, s.handlePacket flavour reader registrations packet =
      { s with reason, threads } := by
  rw [handlePacket]
  split
  · rename_i handler _
    obtain ⟨reason, threads, henter⟩ := enterHandler_frame flavour s handler
    rw [henter]
    exact ⟨reason, _, rfl⟩
  · exact ⟨s.reason, s.threads, rfl⟩

theorem readPacket_frame (s : Traffic json) (packet : Packet) :
    ∃ reason stage threads, s.readPacket flavour reader registrations packet =
      { s.setConnected (handleSocketioPacket s.client.socket.connected packet) with
        reason, stage, threads } := by
  rw [readPacket]
  split
  · exact ⟨s.reason, .stopped, _, rfl⟩
  · obtain ⟨reason, threads, hhandle⟩ := handlePacket_frame flavour reader registrations
      (s.setConnected (handleSocketioPacket s.client.socket.connected packet)) packet
    exact ⟨reason, s.stage, threads, hhandle⟩

theorem readError_frame (s : Traffic json) (text : Str) :
    ∃ stage threads, s.readError flavour reader registrations text =
      { s with stage, threads } := by
  rw [readError]
  split
  · exact ⟨.stopped, _, rfl⟩
  · exact ⟨s.stage, _, rfl⟩

theorem endStream_frame (s : Traffic json) :
    ∃ stage threads, s.endStream reader registrations = { s with stage, threads } := by
  rw [endStream]
  split
  · exact ⟨.reconnecting, _, rfl⟩
  · exact ⟨.stopped, _, rfl⟩
  · exact ⟨.reconnecting, _, rfl⟩

theorem perform_frame (s : Traffic json) (now : Nat) (work : Work json) :
    ∃ outstandingAcks closeCallback calls, (s.perform flavour reader now work).2 = { s with
      client := { s.client with outstandingAcks }, closeCallback, calls } := by
  cases work with
  | takeAcks packet =>
      simp only [perform]
      split
      · exact ⟨s.client.outstandingAcks, s.closeCallback, s.calls, rfl⟩
      · exact ⟨_, s.closeCallback, s.calls, rfl⟩
  | check ack packet => exact ⟨s.client.outstandingAcks, s.closeCallback, s.calls, rfl⟩
  | takeClose reason epoch =>
      simp only [perform]
      split
      · cases flavour with
        | sync => exact ⟨s.client.outstandingAcks, false, s.calls, rfl⟩
        | async => exact ⟨s.client.outstandingAcks, s.closeCallback, s.calls, rfl⟩
      · exact ⟨s.client.outstandingAcks, s.closeCallback, s.calls, rfl⟩
  | putClose => exact ⟨s.client.outstandingAcks, true, s.calls, rfl⟩
  | invoke invocation => exact ⟨s.client.outstandingAcks, s.closeCallback, _, rfl⟩

/-- A thread that goes on does the first piece of its work. -/
theorem proceed_eq_some {s s' : Traffic json} {i now : Nat} :
    s.proceed flavour reader i now = some s' ↔
      ∃ thread work rest, s.threads[i]? = some thread ∧ thread.work = work :: rest ∧
        s' = { (s.perform flavour reader now work).2 with
          threads := s.threads.set i
            { thread with work := (s.perform flavour reader now work).1 ++ rest } } := by
  have hthreads : ∀ work, (s.perform flavour reader now work).2.threads = s.threads := by
    intro work
    obtain ⟨outstandingAcks, closeCallback, calls, hframe⟩ :=
      perform_frame flavour reader s now work
    rw [hframe]
  rw [proceed]
  cases hi : s.threads[i]? with
  | none => simp
  | some thread =>
      obtain ⟨work, inline, terminal⟩ := thread
      cases work with
      | nil =>
          simp only [reduceCtorEq, false_iff]
          rintro ⟨other, work, rest, hother, hsome, -⟩
          obtain rfl := Option.some.inj hother
          simp at hsome
      | cons work rest =>
          simp only [Option.some.injEq, hthreads]
          constructor
          · intro h
            exact ⟨_, work, rest, rfl, rfl, h.symm⟩
          · rintro ⟨other, work', rest', rfl, hsome, h⟩
            obtain ⟨rfl, rfl⟩ := List.cons.inj hsome
            exact h.symm

/-- **Everything a step can do.** -/
inductive Transition (s : Traffic json) : Label json → Traffic json → Prop
  | packet (packet : Packet) (hread : s.canRead = true) :
      Transition s (.packet packet) (s.readPacket flavour reader registrations packet)
  | pollError (text : Str) (hread : s.canRead = true) :
      Transition s (.pollError text) (s.readError flavour reader registrations text)
  | streamEnd (hasync : flavour = .async) (hreading : s.stage = .reading) :
      Transition s .streamEnd (s.endStream reader registrations)
  | work (i now : Nat) (thread : Thread json) (work : Work json) (rest : List (Work json))
      (hi : s.threads[i]? = some thread) (hwork : thread.work = work :: rest) :
      Transition s (.work i now) { (s.perform flavour reader now work).2 with
        threads := s.threads.set i
          { thread with work := (s.perform flavour reader now work).1 ++ rest } }
  | emit (event : Event) (data : Payload json) (failures : List (Option Engineio.Error)) :
      Transition s (.emit event data failures)
        (s.send failures fun client => client.emit event data)
  | ack (data : Payload json) (ackId : Option Int) (failures : List (Option Engineio.Error)) :
      Transition s (.ack data ackId failures) (s.send failures fun client => client.ack data ackId)
  | emitWithAck (event : Event) (data : Payload json) (timeout : Nat) (id : Fin 999) (now : Nat)
      (failures : List (Option Engineio.Error)) :
      Transition s (.emitWithAck event data timeout id now failures)
        { s.send failures fun client =>
            client.emitWithAck event data timeout s.registered id now with
          registered := s.registered + 1 }
  | engineClosed :
      Transition s .engineClosed { s with client := { s.client with socket := { s.client.socket with
        engineClient := { s.client.socket.engineClient with connected := false } } } }
  | announce (hasync : flavour = .async) : Transition s .announce { s with reason := .manual }
  | stopReader (hasync : flavour = .async) (hreading : s.stage = .reading) :
      Transition s .stopReader (s.quit .stopped)
  | stopIdle (hasync : flavour = .async) (hidle : s.stage ≠ .reading) :
      Transition s .stopReader { s with stage := .stopped }
  | disconnectSync (failures : List (Option Engineio.Error)) (hsync : flavour = .sync) :
      Transition s (.disconnect failures)
        ({ s with client := (s.client.failing failures).disconnect }.spawn
          (closeWork reader registrations .ioClientDisconnect s.epoch) false true)
  | disconnectAsync (failures : List (Option Engineio.Error)) (hasync : flavour = .async) :
      Transition s (.disconnect failures)
        { s with client := (s.client.failing failures).disconnect }
  | abortTasks (hasync : flavour = .async) : Transition s .abortTasks (s.abort true)
  | install (engineConnected connected : Bool) (hreconnecting : s.stage = .reconnecting) :
      Transition s (.install engineConnected connected)
        { s with client := { s.client with socket :=
          { Socket.opened [] with
            engineClient := { (Socket.opened []).engineClient with connected := engineConnected }
            connected } } }
  | sessionSync (hsync : flavour = .sync) (hread : s.canRead = true) :
      Transition s .session { s with
        client := { s.client with socket := Socket.opened [], outstandingAcks := [] }
        epoch := s.epoch + 1 }
  | sessionAsync (hasync : flavour = .async) (hreconnecting : s.stage = .reconnecting) :
      Transition s .session { s with epoch := s.epoch + 1, stage := .reading }
  | giveUp (hasync : flavour = .async) (hreconnecting : s.stage = .reconnecting) :
      Transition s .giveUp { s with stage := .reading }

variable {flavour reader registrations}

theorem step_cases {s s' : Traffic json} {label : Label json}
    (h : s.step flavour reader registrations label = some s') :
    s.Transition flavour reader registrations label s' := by
  cases label with
  | packet packet =>
      obtain ⟨hread, hs⟩ := Option.ite_none_right_eq_some.mp h
      obtain rfl := Option.some.inj hs
      exact .packet packet hread
  | pollError text =>
      obtain ⟨hread, hs⟩ := Option.ite_none_right_eq_some.mp h
      obtain rfl := Option.some.inj hs
      exact .pollError text hread
  | streamEnd =>
      obtain ⟨hstream, hs⟩ := Option.ite_none_right_eq_some.mp h
      obtain rfl := Option.some.inj hs
      exact .streamEnd hstream.1 hstream.2
  | work i now =>
      obtain ⟨thread, work, rest, hi, hwork, rfl⟩ := (proceed_eq_some flavour reader).mp h
      exact .work i now thread work rest hi hwork
  | emit event data failures =>
      cases h
      exact .emit event data failures
  | ack data ackId failures =>
      cases h
      exact .ack data ackId failures
  | emitWithAck event data timeout id now failures =>
      cases h
      exact .emitWithAck event data timeout id now failures
  | engineClosed =>
      cases h
      exact .engineClosed
  | announce =>
      obtain ⟨hasync, hs⟩ := Option.ite_none_right_eq_some.mp h
      obtain rfl := Option.some.inj hs
      exact .announce hasync
  | stopReader =>
      obtain ⟨hasync, hs⟩ := Option.ite_none_right_eq_some.mp h
      split at hs
      · rename_i hreading
        obtain rfl := Option.some.inj hs
        exact .stopReader hasync hreading
      · rename_i hidle
        obtain rfl := Option.some.inj hs
        exact .stopIdle hasync hidle
  | disconnect failures =>
      cases flavour with
      | sync =>
          cases h
          exact .disconnectSync failures rfl
      | async =>
          cases h
          exact .disconnectAsync failures rfl
  | abortTasks =>
      obtain ⟨hasync, hs⟩ := Option.ite_none_right_eq_some.mp h
      obtain rfl := Option.some.inj hs
      exact .abortTasks hasync
  | install engineConnected connected =>
      obtain ⟨hreconnecting, hs⟩ := Option.ite_none_right_eq_some.mp h
      obtain rfl := Option.some.inj hs
      exact .install engineConnected connected hreconnecting
  | session =>
      cases flavour with
      | sync =>
          obtain ⟨hread, hs⟩ := Option.ite_none_right_eq_some.mp h
          obtain rfl := Option.some.inj hs
          exact .sessionSync rfl hread
      | async =>
          obtain ⟨hreconnecting, hs⟩ := Option.ite_none_right_eq_some.mp h
          obtain rfl := Option.some.inj hs
          exact .sessionAsync rfl hreconnecting
  | giveUp =>
      obtain ⟨hover, hs⟩ := Option.ite_none_right_eq_some.mp h
      obtain rfl := Option.some.inj hs
      exact .giveUp hover.1 hover.2

end Step

end Traffic

end TfSocketio.Socketio
