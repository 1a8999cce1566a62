/-
# Socketio.Operations — emit, ack and emit_with_ack.

The operations of `RawClient` and of the asynchronous `Client` are the same functions: each builds a
packet for the client's namespace and hands it to `Socket::send`.  `emit_with_ack` registers its
callback first, under an id it has drawn, and does not take it back when the send fails.

`Socket.send_ok_iff` says when a send goes through; `emitWithAck_outstandingAcks` what the call
leaves registered, whatever becomes of the send.
-/
import TfSocketio.Socketio.Acks
import TfSocketio.Socketio.Callers

namespace TfSocketio.Socketio

open Text (Str)

/-! ## When a send goes through -/

/-- Emits go through as far as nothing is in their way. -/
theorem EngineClient.emitAll_ok_iff (client : EngineClient) (hc : client.connected = true)
    (packets : List Engineio.Packet) :
    (client.emitAll packets).1 = .ok () ↔
      ∀ failure ∈ client.failures.take packets.length, failure = none := by
  induction packets generalizing client with
  | nil => simp [EngineClient.emitAll]
  | cons packet packets ih =>
      rw [EngineClient.emitAll]
      cases hf : client.failures.head?.join with
      | none =>
          rw [EngineClient.emit_of_success hc hf]
          simp only [ih { client with
            failures := client.failures.tail, emitted := client.emitted ++ [packet] } hc]
          rcases hfailures : client.failures with _ | ⟨failure, failures⟩
          · simp
          · obtain rfl : failure = none := by simpa [hfailures] using hf
            simp
      | some e =>
          rw [EngineClient.emit_of_failure hc hf]
          have hmem : some e ∈ client.failures.take (packets.length + 1) := by
            rcases hfailures : client.failures with _ | ⟨failure, failures⟩
            · simp [hfailures] at hf
            · obtain rfl : failure = some e := by simpa [hfailures] using hf
              simp
          constructor
          · intro h
            simp at h
          · intro h
            exact absurd (h (some e) hmem) (by simp)

/-- A send goes through exactly when both flags are set and none of its emits fails. -/
theorem Socket.send_ok_iff (s : Socket) (packet : Packet) :
    (s.send packet).1 = .ok () ↔ s.engineClient.connected = true ∧ s.connected = true ∧
      ∀ failure ∈ s.engineClient.failures.take packet.enginePackets.length, failure = none := by
  rw [Socket.send]
  cases hc : s.engineClient.connected with
  | false => simp
  | true =>
      cases hs : s.connected with
      | false => simp
      | true =>
          rw [← EngineClient.emitAll_ok_iff s.engineClient hc, Bool.and_self, if_pos rfl]
          rcases hemit : s.engineClient.emitAll packet.enginePackets with ⟨⟨e⟩ | ⟨⟩, engineClient⟩
          · simp
          · simp

/-! ## The operations -/

/-- `Socket::disconnect`, with the close packet of the engine.io client, whatever comes of it. -/
def Socket.disconnect (s : Socket) : Socket where
  engineClient :=
    if s.engineClient.connected then
      { (s.engineClient.emit ⟨.close, []⟩).2 with connected := false }
    else s.engineClient
  connected := false

/-- What the operations read and write of a client. -/
structure RawClient where
  nsp : Str
  socket : Socket
  outstandingAcks : List Ack

namespace RawClient

variable {json : SerdeJson} (c : RawClient)

/-- Hands a packet to the socket. -/
def send (packet : Packet) : Except Error Unit × RawClient :=
  let (result, socket) := c.socket.send packet
  (result, { c with socket })

/-- Sends an event to the server (`emit`). -/
def emit (event : Event) (data : Payload json) : Except Error Unit × RawClient :=
  match Packet.newFromPayload json data event c.nsp none with
  | .ok socketPacket => c.send socketPacket
  | .error e => (.error e, c)

/-- Acknowledges a request (`ack` has no id, `ack_with_id` has the caller's). -/
def ack (data : Payload json) (ackId : Option Int) : Except Error Unit × RawClient :=
  match Packet.ackFromPayload json data c.nsp ackId with
  | .ok socketPacket => c.send socketPacket
  | .error e => (.error e, c)

/-- Sends an event and registers the callback for its answer (`emit_with_ack`).  The id is drawn
from `0..999`, and the callback is known by its serial number. -/
def emitWithAck (event : Event) (data : Payload json) (timeout : Nat) (callback : Nat)
    (id : Fin 999) (now : Nat) : Except Error Unit × RawClient :=
  match Packet.newFromPayload json data event c.nsp (some id.val) with
  | .error e => (.error e, c)
  | .ok socketPacket =>
      let ack : Ack := ⟨callback, id.val, now, timeout⟩
      -- the entry is pushed before the send, and the `?` after the send leaves it there
      let c := { c with outstandingAcks := c.outstandingAcks ++ [ack] }
      c.send socketPacket

/-- Sends the disconnect packet, whatever comes of it, and disconnects the socket (`disconnect`, up
to its close chain). -/
def disconnect : RawClient :=
  let (_, c) := c.send (Packet.disconnect c.nsp)
  { c with socket := c.socket.disconnect }

end RawClient

/-! ## What emit_with_ack leaves behind -/

/-- How many engine.io packets an event with this payload is sent as. -/
def Payload.frames {json : SerdeJson} : Payload json → Nat
  | .binary _ _ => 2
  | .text _ _ => 1
  | .string _ _ => 1

/-- The packet of an event, made of as many engine.io packets as its payload needs. -/
theorem Packet.newFromPayload_frames {json : SerdeJson} (payload : Payload json) (event : Event)
    (nsp : Str) (id : Option Int) :
    ∃ packet, Packet.newFromPayload json payload event nsp id = .ok packet ∧
      packet.enginePackets.length = payload.frames := by
  cases payload with
  | binary data ackId => exact ⟨_, rfl, rfl⟩
  | text data ackId => exact ⟨_, rfl, rfl⟩
  | string data ackId => exact ⟨_, rfl, rfl⟩

namespace RawClient

variable {json : SerdeJson} (c : RawClient) (event : Event) (data : Payload json)
  (timeout callback : Nat) (id : Fin 999) (now : Nat)

/-- The callback is registered, whatever becomes of the send. -/
theorem emitWithAck_outstandingAcks :
    (c.emitWithAck event data timeout callback id now).2.outstandingAcks =
      c.outstandingAcks ++ [⟨callback, id.val, now, timeout⟩] := by
  obtain ⟨packet, hpacket, -⟩ := Packet.newFromPayload_frames data event c.nsp (some id.val)
  rw [emitWithAck, hpacket]
  rfl

theorem emitWithAck_ok_iff :
    (c.emitWithAck event data timeout callback id now).1 = .ok () ↔
      c.socket.engineClient.connected = true ∧ c.socket.connected = true ∧
        ∀ failure ∈ c.socket.engineClient.failures.take data.frames, failure = none := by
  obtain ⟨packet, hpacket, hframes⟩ := Packet.newFromPayload_frames data event c.nsp (some id.val)
  rw [emitWithAck, hpacket, ← hframes]
  exact Socket.send_ok_iff c.socket packet

/-- **When a failed request leaves no trace.**  The property that a request which fails leaves the
outstanding acks as they were holds exactly of the calls whose send goes through: those on a
connected socket none of whose emits fails. -/
theorem emitWithAck_traceless_iff :
    ((c.emitWithAck event data timeout callback id now).1 ≠ .ok () →
        (c.emitWithAck event data timeout callback id now).2.outstandingAcks = c.outstandingAcks) ↔
      c.socket.engineClient.connected = true ∧ c.socket.connected = true ∧
        ∀ failure ∈ c.socket.engineClient.failures.take data.frames, failure = none := by
  rw [emitWithAck_outstandingAcks, ← c.emitWithAck_ok_iff event data timeout callback id now]
  constructor
  · intro h
    by_contra hfailed
    have hlength := congrArg List.length (h hfailed)
    simp at hlength
  · intro hok hfailed
    exact absurd hok hfailed

/-- A client whose namespace is not connected yet, and the same client later on. -/
def beforeOpen : RawClient where
  nsp := ['/']
  socket := { Socket.opened [] with connected := false }
  outstandingAcks := []

/-- A payload without values. -/
def empty : Payload .integers := .text [] none

/-- A request fails before the namespace is connected.  Another one later draws the same id and goes
through, and the answer of the server to it invokes the callback of the failed one. -/
theorem emitWithAck_leaves_trace :
    ∃ failed later answer,
      beforeOpen.emitWithAck (.custom "a".toList) empty 10 0 7 0 =
        (.error .illegalActionBeforeOpen, failed) ∧
      failed.outstandingAcks ≠ beforeOpen.outstandingAcks ∧
      { failed with socket := Socket.opened [] }.emitWithAck (.custom "b".toList) empty 10 1 7 1 =
        (.ok (), later) ∧
      Packet.ackFromPayload .integers empty ['/'] (some 7) = .ok answer ∧
      (handleAck .sync answer 2 later.outstandingAcks).1 = [⟨0, 7, 0, 10⟩] := by
  refine ⟨_, _, _, rfl, ?_, rfl, rfl, ?_⟩
  · simp [beforeOpen]
  · rfl

end RawClient

/-! ## The operations that send -/

/-- An operation that sends one packet, made of the namespace, and adds entries to the outstanding
acks. -/
def Sends (operation : RawClient → Except Error Unit × RawClient) (packet : Str → Packet)
    (entries : List Ack) : Prop :=
  ∀ client, operation client = ((client.socket.send (packet client.nsp)).1,
    { client with
      socket := (client.socket.send (packet client.nsp)).2
      outstandingAcks := client.outstandingAcks ++ entries })

section Operations

variable {json : SerdeJson} (event : Event) (data : Payload json)

theorem RawClient.sends_emit :
    ∃ packet, Sends (fun client => client.emit event data) packet [] := by
  choose packet hpacket using fun nsp => Packet.newFromPayload_frames data event nsp none
  refine ⟨packet, fun client => ?_⟩
  simp only [RawClient.emit, (hpacket client.nsp).1, List.append_nil]
  rfl

theorem RawClient.sends_ack (ackId : Option Int) :
    ∃ packet, Sends (fun client => client.ack data ackId) packet [] := by
  have hack : ∀ nsp, ∃ packet, Packet.ackFromPayload json data nsp ackId = .ok packet := by
    intro nsp
    cases data with
    | binary bytes ackId => exact ⟨_, rfl⟩
    | text values ackId => exact ⟨_, rfl⟩
    | string text ackId => exact ⟨_, rfl⟩
  choose packet hpacket using hack
  refine ⟨packet, fun client => ?_⟩
  simp only [RawClient.ack, hpacket client.nsp, List.append_nil]
  rfl

theorem RawClient.sends_emitWithAck (timeout callback : Nat) (id : Fin 999) (now : Nat) :
    ∃ packet, Sends (fun client => client.emitWithAck event data timeout callback id now) packet
      [⟨callback, id.val, now, timeout⟩] := by
  choose packet hpacket using
    fun nsp => Packet.newFromPayload_frames data event nsp (some (id.val : Int))
  refine ⟨packet, fun client => ?_⟩
  simp only [RawClient.emitWithAck, (hpacket client.nsp).1]
  rfl

end Operations

end TfSocketio.Socketio
