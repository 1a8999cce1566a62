/-
# Socketio.FailedConnect — what a connect leaves behind that fails.

Sending looks at two flags, that of the engine.io socket and that of the socket.io socket, so
`connect` sets each before the packet that opens its layer: the engine.io flag before the first
pong, the socket.io flag before the CONNECT packet.  Nothing takes a flag back when that packet
fails.

The asynchronous engine.io socket also has its transport in a slot, and refuses to connect if it was
given up; `EngineClient.connect_alone` says that the steps it takes by itself are the call below.
-/
import TfSocketio.Engineio.Retirement
import TfSocketio.Socketio.TwoRuns
import TfSocketio.Socketio.Operations

namespace TfSocketio.Socketio

open Engineio.Async (AsyncSocket pongPacket)
open Text (Str)

/-! ## The calls -/

/-- Opens the engine.io connection.  `transport` says whether the transport is in the slot of the
asynchronous socket; the blocking one has no slot. -/
def EngineClient.connect (flavour : Flavour) (transport : Bool) (client : EngineClient) :
    Except Engineio.Error Unit × EngineClient :=
  match flavour with
  | .sync => { client with connected := true }.emit pongPacket
  | .async =>
      if transport then { client with connected := true }.emit pongPacket
      -- a retired transport cannot be reopened through a surviving clone
      else (.error .illegalActionBeforeOpen, client)

/-- Connects the underlying engine.io client; the opening packet comes later. -/
def Socket.connect (flavour : Flavour) (transport : Bool) (s : Socket) :
    Except Error Unit × Socket :=
  match s.engineClient.connect flavour transport with
  | (.ok (), engineClient) => (.ok (), { engineClient, connected := true })
  | (.error e, engineClient) =>
      (.error (.incompleteResponseFromEngineIo e), { s with engineClient })

/-- What `connect` reads and writes of a client. -/
structure OpeningClient (json : SerdeJson) where
  client : RawClient
  auth : Option json.Value
  sessionEpoch : Nat

variable {json : SerdeJson}

/-- The opening packet. -/
def OpeningClient.openPacket (c : OpeningClient json) : Packet :=
  .opening json c.client.nsp c.auth

/-- Connects the client to a server (`connect` of `RawClient` and of the asynchronous `Client`). -/
def OpeningClient.connect (flavour : Flavour) (transport : Bool) (c : OpeningClient json) :
    Except Error Unit × OpeningClient json :=
  match c.client.socket.connect flavour transport with
  | (.error e, socket) => (.error e, { c with client := { c.client with socket } })
  | (.ok (), socket) =>
      match socket.send c.openPacket with
      | (.error e, socket) => (.error e, { c with client := { c.client with socket } })
      | (.ok (), socket) =>
          (.ok (), { c with
            client := { c.client with socket }
            sessionEpoch := c.sessionEpoch + 1 })

/-- **A failed connect leaves the sockets unconnected.**  If the engine.io `connect` fails, its flag
is clear and it rejects emits; if the opening packet fails, the socket.io socket rejects sends. -/
structure LeavesUnconnected (flavour : Flavour) (transport : Bool) (c : OpeningClient json) :
    Prop where
  engine : ∀ e engineClient,
    c.client.socket.engineClient.connect flavour transport = (.error e, engineClient) →
    engineClient.connected = false ∧
      ∀ packet, (engineClient.emit packet).1 = .error .illegalActionBeforeOpen
  socket : ∀ socket e c', c.client.socket.connect flavour transport = (.ok (), socket) →
    c.connect flavour transport = (.error e, c') →
    ∀ packet, (c'.client.socket.send packet).1 = .error .illegalActionBeforeOpen

/-! ## What becomes of the flags -/

section Flags

variable {client : EngineClient} {flavour : Flavour} {transport : Bool}

theorem EngineClient.emit_of_not_connected (h : client.connected = false)
    (packet : Engineio.Packet) :
    client.emit packet = (.error .illegalActionBeforeOpen, client) := by
  simp [EngineClient.emit, h]

/-- A connected socket that fails to send blames the transport. -/
theorem Socket.send_of_connected {s : Socket} (he : s.engineClient.connected = true)
    (hs : s.connected = true) (packet : Packet) :
    (s.send packet).1 ≠ .error .illegalActionBeforeOpen := by
  unfold Socket.send
  rw [he, hs]
  rcases s.engineClient.emitAll packet.enginePackets with ⟨_ | _, engineClient⟩
  · simp
  · simp

theorem EngineClient.connect_retired (client : EngineClient) :
    client.connect .async false = (.error .illegalActionBeforeOpen, client) := rfl

theorem EngineClient.connect_open (h : ¬ (flavour = .async ∧ transport = false)) :
    client.connect flavour transport = { client with connected := true }.emit pongPacket := by
  cases flavour with
  | sync => rfl
  | async =>
      have hfull : transport = true := by simpa using h
      rw [EngineClient.connect, if_pos hfull]

theorem EngineClient.connect_ok (h : ¬ (flavour = .async ∧ transport = false))
    (hf : client.failures.head?.join = none) :
    client.connect flavour transport = (.ok (), { client with
      connected := true
      failures := client.failures.tail
      emitted := client.emitted ++ [pongPacket] }) := by
  rw [EngineClient.connect_open h]
  exact @EngineClient.emit_of_success { client with connected := true } rfl hf pongPacket

/-- If the first pong goes out, both flags are set and the CONNECT packet is next. -/
theorem Socket.connect_ok {s : Socket} (h : ¬ (flavour = .async ∧ transport = false))
    (hf : s.engineClient.failures.head?.join = none) : ∃ socket : Socket,
    s.connect flavour transport = (.ok (), socket) ∧ socket.flags = ⟨true, true⟩ ∧
      socket.engineClient.failures = s.engineClient.failures.tail := by
  have hengine := EngineClient.connect_ok h hf
  exact ⟨_, by rw [Socket.connect, hengine], rfl, rfl⟩

end Flags

section Connect

variable {flavour : Flavour} {transport : Bool} {c : OpeningClient json}

/-- The CONNECT packet is one engine.io packet. -/
theorem OpeningClient.openPacket_frames (c : OpeningClient json) :
    c.openPacket.enginePackets.length = 1 := rfl

/-- A pong that fails leaves the engine.io flag set. -/
theorem LeavesUnconnected.pong (h : LeavesUnconnected flavour transport c)
    (hopen : ¬ (flavour = .async ∧ transport = false)) :
    c.client.socket.engineClient.failures.head?.join = none := by
  cases hf : c.client.socket.engineClient.failures.head?.join with
  | none => rfl
  | some e =>
      have hemit := @EngineClient.emit_of_failure
        { c.client.socket.engineClient with connected := true } e rfl hf pongPacket
      obtain ⟨hclear, -⟩ := h.engine e _ (by rw [EngineClient.connect_open hopen, hemit])
      cases hclear

/-- A CONNECT packet that fails leaves both flags set. -/
theorem LeavesUnconnected.openPacket (h : LeavesUnconnected flavour transport c)
    (hopen : ¬ (flavour = .async ∧ transport = false)) :
    ∀ failure ∈ c.client.socket.engineClient.failures.tail.take 1, failure = none := by
  obtain ⟨socket, hconnect, hflags, hfailures⟩ := Socket.connect_ok hopen (h.pong hopen)
  rw [← hfailures, ← c.openPacket_frames]
  suffices hok : (socket.send c.openPacket).1 = .ok () from
    ((Socket.send_ok_iff socket c.openPacket).mp hok).2.2
  rcases hresult : socket.send c.openPacket with ⟨e | ⟨⟩, socket'⟩
  · -- the flags are still those of a connected socket, so the next send is not rejected
    have hsame := Socket.send_flags socket c.openPacket
    rw [hresult, hflags] at hsame
    have hfailed : c.connect flavour transport =
        (.error e, { c with client := { c.client with socket := socket' } }) := by
      rw [OpeningClient.connect, hconnect]
      simp only [hresult]
    have hrejects := h.socket socket e _ hconnect hfailed c.openPacket
    exact absurd hrejects
      (Socket.send_of_connected (congrArg Flags.engineConnected hsame)
        (congrArg Flags.connected hsame) c.openPacket)
  · rfl

/-- **When a connect that fails leaves the sockets unconnected.**  The asynchronous client has given
up its transport, or neither the first pong nor the CONNECT packet fails. -/
theorem leavesUnconnected_iff (hc : c.client.socket.engineClient.connected = false) :
    LeavesUnconnected flavour transport c ↔
      flavour = .async ∧ transport = false ∨
        ∀ failure ∈ c.client.socket.engineClient.failures.take 2, failure = none := by
  constructor
  · intro h
    by_cases hopen : flavour = .async ∧ transport = false
    · exact .inl hopen
    · have hpong := h.pong hopen
      have hpacket := h.openPacket hopen
      refine .inr ?_
      rcases hfailures : c.client.socket.engineClient.failures with _ | ⟨failure, failures⟩
      · simp
      · rw [hfailures] at hpong hpacket
        obtain rfl : failure = none := by simpa using hpong
        simpa using hpacket
  · intro h
    by_cases hopen : flavour = .async ∧ transport = false
    · obtain ⟨rfl, rfl⟩ := hopen
      refine ⟨?_, ?_⟩
      · intro e engineClient hconnect
        obtain rfl := (Prod.mk.inj hconnect).2
        refine ⟨hc, fun packet => ?_⟩
        rw [EngineClient.emit_of_not_connected hc]
      · intro socket e c' hconnect
        simp [Socket.connect, EngineClient.connect_retired] at hconnect
    · have hsuccess := h.resolve_left hopen
      have hpong : c.client.socket.engineClient.failures.head?.join = none := by
        rcases hfailures : c.client.socket.engineClient.failures with _ | ⟨failure, failures⟩
        · rfl
        · obtain rfl : failure = none := hsuccess failure (by simp [hfailures])
          rfl
      obtain ⟨socket, hconnect, hflags, hfailures⟩ := Socket.connect_ok hopen hpong
      have hsend : (socket.send c.openPacket).1 = .ok () := by
        refine (Socket.send_ok_iff socket c.openPacket).mpr
          ⟨congrArg Flags.engineConnected hflags, congrArg Flags.connected hflags, ?_⟩
        rw [hfailures, c.openPacket_frames]
        intro failure hfailure
        refine hsuccess failure ?_
        rcases hlist : c.client.socket.engineClient.failures with _ | ⟨first, failures⟩
        · simp [hlist] at hfailure
        · rw [hlist] at hfailure
          exact List.mem_cons_of_mem _ (by simpa using hfailure)
      refine ⟨?_, ?_⟩
      · intro e engineClient hfailed
        rw [EngineClient.connect_ok hopen hpong] at hfailed
        simp at hfailed
      · intro socket' e c' hconnect' hfailed
        rcases hresult : socket.send c.openPacket with ⟨e' | ⟨⟩, socket''⟩
        · rw [hresult] at hsend
          simp at hsend
        · simp [OpeningClient.connect, hconnect, hresult] at hfailed

end Connect

/-- A client that nobody has connected yet. -/
def unopened (failures : List (Option Engineio.Error)) : OpeningClient .integers where
  client := {
    nsp := ['/']
    socket := { engineClient := ⟨false, failures, [], []⟩, connected := false }
    outstandingAcks := [] }
  auth := none
  sessionEpoch := 0

/-- The pong and the CONNECT packet go out; what fails comes later. -/
theorem leavesUnconnected_later :
    LeavesUnconnected .async true (unopened [none, none, some .incompleteIo]) :=
  (@leavesUnconnected_iff _ .async true (unopened [none, none, some .incompleteIo]) rfl).mpr
    (.inr (by decide))

/-- The first pong fails: the flag of the engine.io socket stays set. -/
theorem not_leavesUnconnected :
    ¬ ∀ (flavour : Flavour) (transport : Bool) (c : OpeningClient .integers),
      c.client.socket.engineClient.connected = false →
      LeavesUnconnected flavour transport c := by
  intro h
  obtain ⟨hclear, -⟩ :=
    (h .sync true (unopened [some .incompleteIo]) rfl).engine .incompleteIo _ rfl
  cases hclear

/-! ## The asynchronous socket among its clones -/

/-- The steps of a task that connects while no other task takes one: the same answer, and the same
flag. -/
theorem EngineClient.connect_alone {s : AsyncSocket} (hs : s.Invariant) {i : Nat}
    (hi : s.tasks i = .idle) (hlock : s.sendLock = none) {client : EngineClient}
    (hc : client.connected = s.connected) :
    ∃ s', Lts.run AsyncSocket.step s
        (if s.transport then
          [.connect i, .poll i true, .sent i (client.connect .async true).1]
        else [.connect i]) = some s' ∧
      s'.connected = (client.connect .async s.transport).2.connected ∧
      s'.outcomes = s.outcomes ++
        [⟨.connect, (client.connect .async s.transport).1, !s.transport⟩] := by
  cases htransport : s.transport with
  | false =>
      have hstep : AsyncSocket.step s (.connect i) = some (s.refuse i .connect) := by
        simp [AsyncSocket.step, hi, htransport]
      refine ⟨s.refuse i .connect, ?_, hc.symm, ?_⟩
      · simp [Lts.run, hstep]
      · simp [AsyncSocket.refuse, AsyncSocket.finish, EngineClient.connect_retired, htransport]
  | true =>
      have hopen : s.closing = false := by
        have hslot := hs.slot
        rw [htransport] at hslot
        simpa using hslot
      have hflag : (client.connect .async true).2.connected = true := by
        rw [EngineClient.connect_open (by simp), EngineClient.emit_connected]
      generalize (client.connect .async true).1 = result
      -- the flag is set, then the pong is handed on, then the transport answers
      let published : AsyncSocket := { s.goto i (.pinging .connect) with connected := true }
      let handed := published.hand i (.emitting .connect) pongPacket
      have hconnect : s.step (.connect i) = some published := by
        simp [AsyncSocket.step, hi, htransport, published]
      have hpoll : published.step (.poll i true) = some handed := by
        simp [AsyncSocket.step, AsyncSocket.emit, AsyncSocket.pollEmit, AsyncSocket.goto,
          published, handed, htransport, hopen, hlock]
      have hsent : handed.step (.sent i result) = some (handed.finish i .connect result) := by
        simp [AsyncSocket.step, AsyncSocket.hand, AsyncSocket.goto, published, handed, hopen]
      refine ⟨handed.finish i .connect result, ?_, hflag.symm, ?_⟩
      · simp only [if_true, Lts.run, hconnect, hpoll, hsent, Option.bind_some]
      · simp [AsyncSocket.finish, AsyncSocket.hand, AsyncSocket.goto, AsyncSocket.release,
          published, handed, htransport]

end TfSocketio.Socketio
