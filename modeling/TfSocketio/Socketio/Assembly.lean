/-
# Socketio.Assembly — binary messages put together, by the blocking socket and by the stream.

A binary message is a header and the attachments it announces, each in an engine.io packet of its
own.  Both sockets read the header in an outer loop and the attachments in an inner one.  The outer
loops skip the engine.io packets that carry no socket.io data; the inner ones reject them with an
error of their own, `InvalidAttachmentPacketType`.

The inner loops are written against different sources.  Where the input ends, the blocking one gets
`Ok(None)` and returns `IncompletePacket`; the stream's unwraps the missing item and panics.
`assembleAlike_iff` says that this is the only difference.  Elsewhere the stream is the blocking
socket, so `unchanged_iff` settles for both what heartbeats do to a sequence of packets.
-/
import TfSocketio.Engineio.Socket
import TfSocketio.Socketio.Socket

namespace TfSocketio.Socketio

open Engineio (Bytes)

/-! ## The input of both sockets -/

/-- What comes out of the engine.io client next. -/
inductive Arrival where
  | packet (packet : Engineio.Packet)
  | error (error : Engineio.Error)
  /-- The client is closed, or its stream has ended. -/
  | ended
  deriving DecidableEq, Repr

/-- The arrival as `engine_client.poll()` returns it. -/
def Arrival.polled : Arrival → Except Engineio.Error (Option Engineio.Packet)
  | .packet arrived => .ok (some arrived)
  | .error e => .error e
  | .ended => .ok none

/-- The arrival as an item of the client's stream. -/
def Arrival.streamed : Arrival → Option (Except Engineio.Error Engineio.Packet)
  | .packet arrived => some (.ok arrived)
  | .error e => some (.error e)
  | .ended => none

/-! ## The stream -/

namespace Async

/-- What the successive `next` calls on the engine.io client return. -/
abbrev Incoming := List (Option (Except Engineio.Error Engineio.Packet))

/-- The outcome of awaiting a read: what a blocking read can return, or a panic. -/
inductive Streamed (α : Type) where
  | returned (outcome : Polled α)
  | panicked
  deriving DecidableEq, Repr

def Streamed.map {α β : Type} (f : α → β) : Streamed α → Streamed β
  | .returned outcome => .returned (outcome.map f)
  | .panicked => .panicked

/-- The attachment loop of `Socket::handle_engineio_packet`. -/
def collectAttachments : Nat → Incoming → Streamed (List Bytes) × Incoming
  | 0, incoming => (.returned (.ok []), incoming)
  | _ + 1, [] => (.returned .pending, [])
  -- `client.next().await.unwrap()`
  | _ + 1, none :: incoming => (.panicked, incoming)
  | _ + 1, some (.error e) :: incoming =>
      (.returned (.error (.incompleteResponseFromEngineIo e)), incoming)
  | attachmentsLeft + 1, some (.ok packet) :: incoming =>
      if isMessage packet then
        let (attachments, incoming) := collectAttachments attachmentsLeft incoming
        (attachments.map (packet.data :: ·), incoming)
      else (.returned (.error (.invalidAttachmentPacketType packet.packetId.toU8)), incoming)

/-- Decodes an engine.io packet and collects the attachments it announces. -/
def handleEngineioPacket (json : SerdeJson) (packet : Engineio.Packet) (incoming : Incoming) :
    Streamed Packet × Incoming :=
  match Packet.tryFrom json packet.data with
  | .error e => (.returned (.error e), incoming)
  | .ok socketPacket =>
      if 0 < socketPacket.attachmentCount then
        let (attachments, incoming) :=
          collectAttachments socketPacket.attachmentCount.toNat incoming
        (attachments.map fun attachments => { socketPacket with attachments := some attachments },
          incoming)
      else (.returned (.ok socketPacket), incoming)

/-- The loop of `Socket::stream` up to its next item. -/
def nextIncoming (json : SerdeJson) : Incoming → Streamed Packet × Incoming
  | [] => (.returned .pending, [])
  | none :: incoming => (.returned .none, incoming)
  | some (.error e) :: incoming =>
      (.returned (.error (.incompleteResponseFromEngineIo e)), incoming)
  | some (.ok packet) :: incoming =>
      if isMessage packet then handleEngineioPacket json packet incoming
      else nextIncoming json incoming

/-- The part of the `Socket` that its stream reads and writes. -/
structure Socket where
  incoming : Incoming
  connected : Bool

/-- The next item of the socket's stream. -/
def Socket.next (json : SerdeJson) (s : Socket) : Streamed Packet × Socket :=
  let (result, incoming) := nextIncoming json s.incoming
  match result with
  | .returned (.ok packet) =>
      (.returned (.ok packet), ⟨incoming, handleSocketioPacket s.connected packet⟩)
  | result => (result, ⟨incoming, s.connected⟩)

/-- What a consumer sees of up to `n` items: the packets, and what ends them. -/
def Socket.received (json : SerdeJson) : Nat → Socket → List (Streamed Packet)
  | 0, _ => []
  | n + 1, s =>
      match s.next json with
      | (.returned (.ok packet), s') => .returned (.ok packet) :: Socket.received json n s'
      | (result, _) => [result]

/-- A connected socket with something to read. -/
def Socket.opened (incoming : Incoming) : Socket := ⟨incoming, true⟩

end Async

/-- What a caller sees in up to `n` successive polls: the packets, and what ends them. -/
def Socket.received (json : SerdeJson) : Nat → Socket → List (Polled Packet)
  | 0, _ => []
  | n + 1, s =>
      match s.poll json with
      | (.ok packet, s') => .ok packet :: Socket.received json n s'
      | (result, _) => [result]

/-! ## Where the two differ -/

/-- The input ends with fewer than `n` attachments read, and nothing has stopped the loop before. -/
def EndsInside : Nat → List Arrival → Prop
  | 0, _ => False
  | _ + 1, [] => False
  | _ + 1, .error _ :: _ => False
  | _ + 1, .ended :: _ => True
  | n + 1, .packet packet :: arrivals => isMessage packet ∧ EndsInside n arrivals

instance : (n : Nat) → (arrivals : List Arrival) → Decidable (EndsInside n arrivals)
  | 0, _ => isFalse id
  | _ + 1, [] => isFalse id
  | _ + 1, .error _ :: _ => isFalse id
  | _ + 1, .ended :: _ => isTrue trivial
  | n + 1, .packet packet :: arrivals =>
      have : Decidable (EndsInside n arrivals) := instDecidableEndsInside n arrivals
      inferInstanceAs (Decidable (isMessage packet ∧ EndsInside n arrivals))

/-- The first `n` arrivals are messages, and these are their payloads. -/
structure Collected (n : Nat) (arrivals : List Arrival) (attachments : List Bytes) : Prop where
  messages : ∃ packets rest, arrivals = List.map Arrival.packet packets ++ rest ∧
    (∀ packet ∈ packets, isMessage packet) ∧ packets.map Engineio.Packet.data = attachments
  count : attachments.length = n

/-- The two assemblers return the same from a header and the arrivals behind it, no panic, and a
packet they return has the announced number of payloads, in the order of their arrival. -/
structure AssembleAlike (json : SerdeJson) (header : Engineio.Packet) (socketPacket : Packet)
    (arrivals : List Arrival) : Prop where
  same : (Async.handleEngineioPacket json header (arrivals.map Arrival.streamed)).1 =
    .returned (handleEngineioPacket json header (arrivals.map Arrival.polled)).1
  payloads : ∀ packet,
    (handleEngineioPacket json header (arrivals.map Arrival.polled)).1 = .ok packet →
      ∃ attachments, Collected socketPacket.attachmentCount.toNat arrivals attachments ∧
        packet = if 0 < socketPacket.attachmentCount
          then { socketPacket with attachments := some attachments } else socketPacket

section Collect

/-- Where the input goes on, the stream's loop is the blocking one, and leaves the same input. -/
theorem collectAttachments_streamed {n : Nat} {arrivals : List Arrival}
    (h : ¬ EndsInside n arrivals) :
    ∃ (outcome : Polled (List Bytes)) (rest : List Arrival), rest <:+ arrivals ∧
      collectAttachments n (arrivals.map Arrival.polled) = (outcome, rest.map Arrival.polled) ∧
        Async.collectAttachments n (arrivals.map Arrival.streamed) =
          (.returned outcome, rest.map Arrival.streamed) := by
  induction n generalizing arrivals with
  | zero => exact ⟨.ok [], arrivals, List.suffix_rfl, rfl, rfl⟩
  | succ n ih =>
      rcases arrivals with _ | ⟨packet | e | _, rest⟩
      · exact ⟨.pending, [], List.suffix_rfl, rfl, rfl⟩
      · by_cases hm : isMessage packet = true
        · have hrest : ¬ EndsInside n rest := fun hends => h ⟨hm, hends⟩
          obtain ⟨outcome, left, hleft, hsync, hasync⟩ := ih hrest
          refine ⟨outcome.map (packet.data :: ·), left, hleft.trans (List.suffix_cons _ _), ?_, ?_⟩
          · simp [collectAttachments, Arrival.polled, hm, hsync]
          · simp [Async.collectAttachments, Arrival.streamed, hm, hasync, Async.Streamed.map]
        · refine ⟨.error (.invalidAttachmentPacketType packet.packetId.toU8), rest,
            List.suffix_cons _ _, ?_, ?_⟩
          · simp [collectAttachments, Arrival.polled, hm]
          · simp [Async.collectAttachments, Arrival.streamed, hm]
      · exact ⟨.error (.incompleteResponseFromEngineIo e), rest, List.suffix_cons _ _, rfl, rfl⟩
      · exact absurd trivial h

/-- Where the input ends inside a message, the stream's loop panics. -/
theorem collectAttachments_panics {n : Nat} {arrivals : List Arrival} (h : EndsInside n arrivals) :
    (Async.collectAttachments n (arrivals.map Arrival.streamed)).1 = .panicked := by
  induction n generalizing arrivals with
  | zero => exact absurd h id
  | succ n ih =>
      rcases arrivals with _ | ⟨packet | e | _, rest⟩
      · exact absurd h id
      · simp [Async.collectAttachments, Arrival.streamed, h.1, ih h.2, Async.Streamed.map]
      · exact absurd h id
      · rfl

/-- What the blocking loop returns are the payloads of the next `n` arrivals. -/
theorem collected_of_ok {n : Nat} {arrivals : List Arrival} {attachments : List Bytes}
    (h : (collectAttachments n (arrivals.map Arrival.polled)).1 = .ok attachments) :
    Collected n arrivals attachments := by
  induction n generalizing arrivals attachments with
  | zero =>
      obtain rfl : [] = attachments := by simpa [collectAttachments] using h
      exact ⟨⟨[], arrivals, rfl, by simp, rfl⟩, rfl⟩
  | succ n ih =>
      rcases arrivals with _ | ⟨packet | e | _, rest⟩
      · simp [collectAttachments] at h
      · by_cases hm : isMessage packet = true
        · simp only [List.map_cons, Arrival.polled, collectAttachments, hm, if_true] at h
          cases hrest : (collectAttachments n (rest.map Arrival.polled)).1 with
          | ok attachments' =>
              rw [hrest] at h
              obtain rfl : packet.data :: attachments' = attachments := by simpa using h
              obtain ⟨⟨packets, left, rfl, hpackets, rfl⟩, hcount⟩ := ih hrest
              refine ⟨⟨packet :: packets, left, rfl, ?_, rfl⟩, by simpa using hcount⟩
              simpa [hm] using hpackets
          | none => simp [hrest, Polled.map] at h
          | error e => simp [hrest, Polled.map] at h
          | pending => simp [hrest, Polled.map] at h
        · simp [collectAttachments, Arrival.polled, hm] at h
      · simp [collectAttachments, Arrival.polled] at h
      · simp [collectAttachments, Arrival.polled] at h

end Collect

theorem toNat_eq_zero {n : UInt8} (h : ¬ 0 < n) : n.toNat = 0 := by
  rw [UInt8.lt_iff_toNat_lt] at h
  simpa using h

section Assemble

variable {json : SerdeJson} {header : Engineio.Packet} {socketPacket : Packet}
  {arrivals : List Arrival}

/-- Where the input goes on, the stream assembles a message as the blocking socket does. -/
theorem handleEngineioPacket_streamed
    (h : ∀ socketPacket, Packet.tryFrom json header.data = .ok socketPacket →
      ¬ EndsInside socketPacket.attachmentCount.toNat arrivals) :
    ∃ (outcome : Polled Packet) (rest : List Arrival), rest <:+ arrivals ∧
      handleEngineioPacket json header (arrivals.map Arrival.polled) =
        (outcome, rest.map Arrival.polled) ∧
      Async.handleEngineioPacket json header (arrivals.map Arrival.streamed) =
        (.returned outcome, rest.map Arrival.streamed) := by
  cases hdecode : Packet.tryFrom json header.data with
  | error e =>
      refine ⟨.error e, arrivals, List.suffix_rfl, ?_, ?_⟩
      · simp [handleEngineioPacket, hdecode]
      · simp [Async.handleEngineioPacket, hdecode]
  | ok socketPacket =>
      by_cases hcount : 0 < socketPacket.attachmentCount
      · obtain ⟨outcome, rest, hrest, hsync, hasync⟩ :=
          collectAttachments_streamed (h socketPacket hdecode)
        refine ⟨outcome.map fun attachments =>
          { socketPacket with attachments := some attachments }, rest, hrest, ?_, ?_⟩
        · simp [handleEngineioPacket, hdecode, hcount, hsync]
        · simp [Async.handleEngineioPacket, hdecode, hcount, hasync, Async.Streamed.map]
      · refine ⟨.ok socketPacket, arrivals, List.suffix_rfl, ?_, ?_⟩
        · simp [handleEngineioPacket, hdecode, hcount]
        · simp [Async.handleEngineioPacket, hdecode, hcount]

/-- Where the input ends inside a message, the stream panics. -/
theorem handleEngineioPacket_panics (hdecode : Packet.tryFrom json header.data = .ok socketPacket)
    (h : EndsInside socketPacket.attachmentCount.toNat arrivals) :
    (Async.handleEngineioPacket json header (arrivals.map Arrival.streamed)).1 = .panicked := by
  have hcount : 0 < socketPacket.attachmentCount := by
    by_contra hzero
    rw [toNat_eq_zero hzero] at h
    exact h
  simp [Async.handleEngineioPacket, hdecode, hcount, collectAttachments_panics h,
    Async.Streamed.map]

/-- A packet the blocking socket returns holds the payloads of the arrivals behind its header. -/
theorem handleEngineioPacket_payloads {packet : Packet}
    (hdecode : Packet.tryFrom json header.data = .ok socketPacket)
    (h : (handleEngineioPacket json header (arrivals.map Arrival.polled)).1 = .ok packet) :
    ∃ attachments, Collected socketPacket.attachmentCount.toNat arrivals attachments ∧
      packet = if 0 < socketPacket.attachmentCount
        then { socketPacket with attachments := some attachments } else socketPacket := by
  by_cases hcount : 0 < socketPacket.attachmentCount
  · simp only [handleEngineioPacket, hdecode, hcount, if_true] at h ⊢
    cases hcollect : (collectAttachments socketPacket.attachmentCount.toNat
        (arrivals.map Arrival.polled)).1 with
    | ok attachments =>
        rw [hcollect] at h
        obtain rfl : { socketPacket with attachments := some attachments } = packet := by
          simpa using h
        exact ⟨attachments, collected_of_ok hcollect, rfl⟩
    | none => simp [hcollect, Polled.map] at h
    | error e => simp [hcollect, Polled.map] at h
    | pending => simp [hcollect, Polled.map] at h
  · obtain rfl : socketPacket = packet := by
      simpa [handleEngineioPacket, hdecode, hcount] using h
    have hzero := toNat_eq_zero hcount
    refine ⟨[], ⟨⟨[], arrivals, rfl, by simp, rfl⟩, by rw [hzero]; rfl⟩, ?_⟩
    rw [if_neg hcount]

/-- **The assemblers agree, and do not panic, exactly where the input does not end between a header
and its last attachment.** -/
theorem assembleAlike_iff (hdecode : Packet.tryFrom json header.data = .ok socketPacket)
    (arrivals : List Arrival) :
    AssembleAlike json header socketPacket arrivals ↔
      ¬ EndsInside socketPacket.attachmentCount.toNat arrivals := by
  constructor
  · intro h hends
    have hpanic := handleEngineioPacket_panics hdecode hends
    rw [h.same] at hpanic
    simp at hpanic
  · intro hends
    have hopen : ∀ packet, Packet.tryFrom json header.data = .ok packet →
        ¬ EndsInside packet.attachmentCount.toNat arrivals := by
      intro packet hpacket
      obtain rfl : socketPacket = packet := by simpa [hdecode] using hpacket
      exact hends
    obtain ⟨outcome, rest, -, hsync, hasync⟩ := handleEngineioPacket_streamed hopen
    refine ⟨by rw [hsync, hasync], ?_⟩
    intro packet hpacket
    exact handleEngineioPacket_payloads hdecode hpacket

end Assemble

/-- The engine.io packet of a binary event `a` that announces one attachment. -/
def attachmentHeader : Engineio.Packet :=
  ⟨.message, Packet.toBytes ⟨.binaryEvent, ['/'], some "\"a\"".toList, none, 1, some [[]]⟩⟩

theorem tryFrom_attachmentHeader : Packet.tryFrom .integers attachmentHeader.data =
    .ok ⟨.binaryEvent, ['/'], some "\"a\"".toList, none, 1, none⟩ := by
  have hn : IsNamespace ['/'] := ⟨rfl, by decide⟩
  have hid : IsAckId none := by intro i hi; cases hi
  exact (Packet.Readable.of_binaryEvent rfl hn hid "a".toList).tryFrom_toBytes

/-- A header and its attachment. -/
theorem assembleAlike_whole :
    AssembleAlike .integers attachmentHeader
      ⟨.binaryEvent, ['/'], some "\"a\"".toList, none, 1, none⟩ [.packet ⟨.messageBinary, [7]⟩] :=
  (assembleAlike_iff tryFrom_attachmentHeader _).mpr (by decide)

/-- The connection is lost behind a header: the stream panics where the blocking socket returns
`IncompletePacket`. -/
theorem not_assembleAlike_ended :
    ¬ ∀ (json : SerdeJson) (header : Engineio.Packet) (socketPacket : Packet)
      (arrivals : List Arrival), Packet.tryFrom json header.data = .ok socketPacket →
        AssembleAlike json header socketPacket arrivals := by
  intro hall
  have halike := hall .integers attachmentHeader _ [.ended] tryFrom_attachmentHeader
  have hends : EndsInside 1 [.ended] := trivial
  have hpanic := handleEngineioPacket_panics tryFrom_attachmentHeader hends
  rw [halike.same] at hpanic
  simp at hpanic

/-! ## Heartbeats -/

/-- The engine.io packets of the heartbeat. -/
def isHeartbeat (packet : Engineio.Packet) : Bool :=
  packet.packetId = .ping || packet.packetId = .noop

/-- The second sequence is the first with heartbeat packets inserted. -/
inductive Inserted : List Engineio.Packet → List Engineio.Packet → Prop
  | nil : Inserted [] []
  | keep (packet : Engineio.Packet) {packets packets' : List Engineio.Packet}
      (h : Inserted packets packets') : Inserted (packet :: packets) (packet :: packets')
  | heartbeat {packet : Engineio.Packet} (hbeat : isHeartbeat packet)
      {packets packets' : List Engineio.Packet} (h : Inserted packets packets') :
      Inserted packets (packet :: packets')

/-- Where a socket stands between two engine.io packets. -/
inductive Place where
  | header
  | collecting (socketPacket : Packet) (attachmentsLeft : Nat) (attachments : List Bytes)

/-- One engine.io packet read at a place: what comes out, and the place behind it. -/
def Place.read (json : SerdeJson) (place : Place) (packet : Engineio.Packet) :
    Except Error (Option Packet × Place) :=
  match place with
  | .header =>
      if isMessage packet then
        (Packet.tryFrom json packet.data).map fun socketPacket =>
          if 0 < socketPacket.attachmentCount then
            (none, .collecting socketPacket socketPacket.attachmentCount.toNat [])
          else (some socketPacket, .header)
      else .ok (none, .header)
  | .collecting socketPacket attachmentsLeft attachments =>
      if isMessage packet then
        if attachmentsLeft ≤ 1 then
          .ok (some { socketPacket with attachments := some (attachments ++ [packet.data]) },
            .header)
        else
          .ok (none,
            .collecting socketPacket (attachmentsLeft - 1) (attachments ++ [packet.data]))
      else .error (.invalidAttachmentPacketType packet.packetId.toU8)

/-- What comes out of a sequence of engine.io packets, one packet after the other: the meaning of
both sockets. -/
def scan (json : SerdeJson) (place : Place) : List Engineio.Packet → List (Polled Packet)
  | [] => [.pending]
  | packet :: packets =>
      match place.read json packet with
      | .error e => [.error e]
      | .ok (none, place) => scan json place packets
      | .ok (some socketPacket, place) => .ok socketPacket :: scan json place packets

/-- A heartbeat stands between a header and its last attachment. -/
def HeartbeatInside (json : SerdeJson) (place : Place) : List Engineio.Packet → Prop
  | [] => False
  | packet :: packets =>
      match place.read json packet with
      | .error _ => place ≠ .header ∧ isHeartbeat packet
      | .ok (_, place) => HeartbeatInside json place packets

section Scan

variable {json : SerdeJson}

theorem not_isMessage_of_isHeartbeat {packet : Engineio.Packet} (h : isHeartbeat packet) :
    isMessage packet = false := by
  obtain ⟨packetId, data⟩ := packet
  cases packetId <;> first | rfl | simp [isHeartbeat] at h

/-- Between messages a heartbeat is skipped. -/
theorem Place.read_heartbeat_header {packet : Engineio.Packet} (h : isHeartbeat packet) :
    Place.header.read json packet = .ok (none, .header) := by
  simp [Place.read, not_isMessage_of_isHeartbeat h]

/-- Inside a message it is an error. -/
theorem Place.read_heartbeat_collecting {packet : Engineio.Packet} (h : isHeartbeat packet)
    (socketPacket : Packet) (n : Nat) (attachments : List Bytes) :
    (Place.collecting socketPacket n attachments).read json packet =
      .error (.invalidAttachmentPacketType packet.packetId.toU8) := by
  simp [Place.read, not_isMessage_of_isHeartbeat h]

theorem heartbeatInside_of_ok {place place' : Place} {packet : Engineio.Packet}
    {out : Option Packet} (h : place.read json packet = .ok (out, place'))
    (packets : List Engineio.Packet) :
    HeartbeatInside json place (packet :: packets) ↔ HeartbeatInside json place' packets := by
  simp [HeartbeatInside, h]

/-- Heartbeats between messages change nothing. -/
theorem scan_inserted {packets packets' : List Engineio.Packet} (h : Inserted packets packets')
    {place : Place} (hout : ¬ HeartbeatInside json place packets') :
    scan json place packets' = scan json place packets := by
  induction h generalizing place with
  | nil => rfl
  | @keep packet packets packets' h ih =>
      cases hread : place.read json packet with
      | error e => simp [scan, hread]
      | ok next =>
          obtain ⟨out, place'⟩ := next
          rw [heartbeatInside_of_ok hread] at hout
          cases out <;> simp [scan, hread, ih hout]
  | @heartbeat packet hbeat packets packets' h ih =>
      cases place with
      | header =>
          have hread : Place.header.read json packet = _ := Place.read_heartbeat_header hbeat
          rw [heartbeatInside_of_ok hread] at hout
          simp [scan, hread, ih hout]
      | collecting socketPacket n attachments =>
          have hread : (Place.collecting socketPacket n attachments).read json packet = _ :=
            Place.read_heartbeat_collecting hbeat socketPacket n attachments
          have hinside : HeartbeatInside json (.collecting socketPacket n attachments)
              (packet :: packets') := by
            simp [HeartbeatInside, hread, hbeat]
          exact absurd hinside hout

/-- A heartbeat inside a message stops the socket: it is no attachment. -/
theorem scan_heartbeatInside {packets : List Engineio.Packet} {place : Place}
    (h : HeartbeatInside json place packets) :
    ∃ packetId, .error (.invalidAttachmentPacketType packetId) ∈ scan json place packets := by
  induction packets generalizing place with
  | nil => exact absurd h id
  | cons packet packets ih =>
      cases hread : place.read json packet with
      | error e =>
          simp only [HeartbeatInside, hread] at h
          obtain ⟨hplace, hbeat⟩ := h
          cases place with
          | header => exact absurd rfl hplace
          | collecting socketPacket n attachments =>
              rw [Place.read_heartbeat_collecting hbeat] at hread
              obtain rfl := Except.error.inj hread
              exact ⟨packet.packetId.toU8, by simp [scan, Place.read_heartbeat_collecting hbeat]⟩
      | ok next =>
          obtain ⟨out, place'⟩ := next
          obtain ⟨packetId, he⟩ := ih ((heartbeatInside_of_ok hread packets).mp h)
          cases out with
          | none => exact ⟨packetId, by simpa [scan, hread] using he⟩
          | some socketPacket => exact ⟨packetId, by simp [scan, hread, he]⟩

/-- The attachment loop is the machine inside a message. -/
theorem collectAttachments_scan (socketPacket : Packet) (n : Nat) (attachments : List Bytes)
    (packets : List Engineio.Packet) :
    (∃ more packets',
      collectAttachments (n + 1) (arriving packets) = (.ok more, arriving packets') ∧
      scan json (.collecting socketPacket (n + 1) attachments) packets =
        .ok { socketPacket with attachments := some (attachments ++ more) } ::
          scan json .header packets') ∨
    ∃ (result : Polled (List Bytes)) (rest : Incoming), (∀ more, result ≠ .ok more) ∧
      collectAttachments (n + 1) (arriving packets) = (result, rest) ∧
      ∀ f, scan json (.collecting socketPacket (n + 1) attachments) packets = [result.map f] := by
  induction packets generalizing n attachments with
  | nil => exact .inr ⟨.pending, [], by simp, rfl, fun _ => rfl⟩
  | cons packet packets ih =>
      by_cases hm : isMessage packet = true
      · cases n with
        | zero =>
            -- the last attachment: the message is complete
            refine .inl ⟨[packet.data], packets, ?_, ?_⟩
            · simp [collectAttachments, hm]
            · simp [scan, Place.read, hm]
        | succ n =>
            have hscan : scan json (.collecting socketPacket (n + 2) attachments)
                  (packet :: packets) =
                scan json (.collecting socketPacket (n + 1) (attachments ++ [packet.data]))
                  packets := by
              simp [scan, Place.read, hm]
            have hloop : collectAttachments (n + 2) (arriving (packet :: packets)) =
                ((collectAttachments (n + 1) (arriving packets)).1.map (packet.data :: ·),
                  (collectAttachments (n + 1) (arriving packets)).2) := by
              simp [collectAttachments, hm]
            rcases ih n (attachments ++ [packet.data]) with
              ⟨more, packets', hcollect, hrest⟩ | ⟨result, rest, hne, hcollect, hrest⟩
            · refine .inl ⟨packet.data :: more, packets', ?_, ?_⟩
              · rw [hloop, hcollect]
                rfl
              · rw [hscan, hrest, List.append_assoc]
                rfl
            · refine .inr ⟨result.map (packet.data :: ·), rest, ?_, ?_, ?_⟩
              · intro more
                cases result <;> simp_all [Polled.map]
              · rw [hloop, hcollect]
              · intro f
                rw [hscan, hrest fun more => f (packet.data :: more)]
                cases result <;> rfl
      · refine .inr ⟨.error (.invalidAttachmentPacketType packet.packetId.toU8), arriving packets,
          by simp, ?_, ?_⟩
        · simp [collectAttachments, hm]
        · intro f
          simp [scan, Place.read, hm, Polled.map]

/-- A message packet is handled as the machine reads it, with the attachments it announces. -/
theorem handleEngineioPacket_scan {packet : Engineio.Packet} (hm : isMessage packet = true)
    (packets : List Engineio.Packet) :
    (∃ socketPacket packets',
      handleEngineioPacket json packet (arriving packets) =
          (.ok socketPacket, arriving packets') ∧
        scan json .header (packet :: packets) = .ok socketPacket :: scan json .header packets') ∨
    ∃ (result : Polled Packet) (rest : Incoming), (∀ socketPacket, result ≠ .ok socketPacket) ∧
      handleEngineioPacket json packet (arriving packets) = (result, rest) ∧
        scan json .header (packet :: packets) = [result] := by
  cases hdecode : Packet.tryFrom json packet.data with
  | error e =>
      refine .inr ⟨.error e, arriving packets, by simp, ?_, ?_⟩
      · simp [handleEngineioPacket, hdecode]
      · simp [scan, Place.read, hm, hdecode, Except.map]
  | ok socketPacket =>
      by_cases hcount : 0 < socketPacket.attachmentCount
      · obtain ⟨n, hn⟩ : ∃ n, socketPacket.attachmentCount.toNat = n + 1 :=
          Nat.exists_eq_succ_of_ne_zero (UInt8.lt_iff_toNat_lt.mp hcount).ne'
        have hscan : scan json .header (packet :: packets) =
            scan json (.collecting socketPacket (n + 1) []) packets := by
          simp [scan, Place.read, hm, hdecode, Except.map, hcount, hn]
        rw [hscan]
        rcases @collectAttachments_scan json socketPacket n [] packets with
          ⟨more, packets', hcollect, hrest⟩ | ⟨result, rest, hne, hcollect, hrest⟩
        · refine .inl ⟨_, packets', ?_, hrest⟩
          simp [handleEngineioPacket, hdecode, hcount, hn, hcollect]
        · refine .inr ⟨_, rest, ?_, ?_,
            hrest fun attachments => { socketPacket with attachments := some attachments }⟩
          · cases result <;> simp_all [Polled.map]
          · simp [handleEngineioPacket, hdecode, hcount, hn, hcollect]
      · refine .inl ⟨socketPacket, packets, ?_, ?_⟩
        · simp [handleEngineioPacket, hdecode, hcount]
        · simp [scan, Place.read, hm, hdecode, Except.map, hcount]

/-- One poll is the machine up to its next packet. -/
theorem pollIncoming_scan (packets : List Engineio.Packet) :
    (∃ socketPacket packets',
      pollIncoming json (arriving packets) = (.ok socketPacket, arriving packets') ∧
        scan json .header packets = .ok socketPacket :: scan json .header packets') ∨
    ∃ (result : Polled Packet) (rest : Incoming), (∀ socketPacket, result ≠ .ok socketPacket) ∧
      pollIncoming json (arriving packets) = (result, rest) ∧
        scan json .header packets = [result] := by
  induction packets with
  | nil => exact .inr ⟨.pending, [], by simp, rfl, rfl⟩
  | cons packet packets ih =>
      by_cases hm : isMessage packet = true
      · have hpoll : pollIncoming json (arriving (packet :: packets)) =
            handleEngineioPacket json packet (arriving packets) := by
          simp [pollIncoming, hm]
        rw [hpoll]
        exact handleEngineioPacket_scan hm packets
      · -- skipped on both sides
        have hpoll : pollIncoming json (arriving (packet :: packets)) =
            pollIncoming json (arriving packets) := by
          simp [pollIncoming, hm]
        have hscan : scan json .header (packet :: packets) = scan json .header packets := by
          simp [scan, Place.read, hm]
        rw [hpoll, hscan]
        exact ih

/-- **The blocking socket computes `scan`.** -/
theorem Socket.received_eq (n : Nat) (s : Socket) (packets : List Engineio.Packet)
    (hs : s.engineClient.incoming = arriving packets) :
    Socket.received json n s = (scan json .header packets).take n := by
  induction n generalizing s packets with
  | zero => simp [Socket.received]
  | succ n ih =>
      rcases @pollIncoming_scan json packets with
        ⟨socketPacket, packets', hpoll, hscan⟩ | ⟨result, rest, hne, hpoll, hscan⟩
      · have hrest := ih
          { engineClient := { s.engineClient with incoming := arriving packets' }
            connected := handleSocketioPacket s.connected socketPacket } packets' rfl
        simp [Socket.received, Socket.poll, hs, hpoll, hscan, hrest]
      · cases result with
        | ok socketPacket => exact absurd rfl (hne socketPacket)
        | none => simp [Socket.received, Socket.poll, hs, hpoll, hscan]
        | error e => simp [Socket.received, Socket.poll, hs, hpoll, hscan]
        | pending => simp [Socket.received, Socket.poll, hs, hpoll, hscan]

/-- An input that does not end does not end inside a message. -/
theorem not_endsInside {n : Nat} {arrivals : List Arrival} (h : .ended ∉ arrivals) :
    ¬ EndsInside n arrivals := by
  induction n generalizing arrivals with
  | zero => exact id
  | succ n ih =>
      rcases arrivals with _ | ⟨packet | e | _, rest⟩
      · exact id
      · intro hends
        exact ih (fun hmem => h (List.mem_cons_of_mem _ hmem)) hends.2
      · exact id
      · exact absurd List.mem_cons_self h

/-- On an input that does not end, one item of the stream is one poll. -/
theorem nextIncoming_streamed {arrivals : List Arrival} (h : .ended ∉ arrivals) :
    ∃ (outcome : Polled Packet) (rest : List Arrival), rest <:+ arrivals ∧
      pollIncoming json (arrivals.map Arrival.polled) = (outcome, rest.map Arrival.polled) ∧
      Async.nextIncoming json (arrivals.map Arrival.streamed) =
        (.returned outcome, rest.map Arrival.streamed) := by
  induction arrivals with
  | nil => exact ⟨.pending, [], List.suffix_rfl, rfl, rfl⟩
  | cons arrival arrivals ih =>
      have hopen : .ended ∉ arrivals := fun hmem => h (List.mem_cons_of_mem _ hmem)
      rcases arrival with packet | e | _
      · by_cases hm : isMessage packet = true
        · obtain ⟨outcome, rest, hrest, hsync, hasync⟩ :=
            @handleEngineioPacket_streamed json packet arrivals fun _ _ => not_endsInside hopen
          refine ⟨outcome, rest, hrest.trans (List.suffix_cons _ _), ?_, ?_⟩
          · simp [pollIncoming, Arrival.polled, hm, hsync]
          · simp [Async.nextIncoming, Arrival.streamed, hm, hasync]
        · obtain ⟨outcome, rest, hrest, hsync, hasync⟩ := ih hopen
          refine ⟨outcome, rest, hrest.trans (List.suffix_cons _ _), ?_, ?_⟩
          · simp [pollIncoming, Arrival.polled, hm, hsync]
          · simp [Async.nextIncoming, Arrival.streamed, hm, hasync]
      · exact ⟨.error (.incompleteResponseFromEngineIo e), arrivals, List.suffix_cons _ _, rfl, rfl⟩
      · exact absurd List.mem_cons_self h

/-- **On an input that does not end, the stream is the blocking socket.** -/
theorem received_streamed (n : Nat) (s : Socket) (c : Bool) (arrivals : List Arrival)
    (hs : s.engineClient.incoming = arrivals.map Arrival.polled) (h : .ended ∉ arrivals) :
    Async.Socket.received json n ⟨arrivals.map Arrival.streamed, c⟩ =
      (Socket.received json n s).map .returned := by
  induction n generalizing s c arrivals with
  | zero => rfl
  | succ n ih =>
      obtain ⟨outcome, rest, hrest, hsync, hasync⟩ := @nextIncoming_streamed json arrivals h
      cases outcome with
      | ok packet =>
          have hopen : .ended ∉ rest := fun hmem => h (hrest.subset hmem)
          have hmore := ih
            { engineClient := { s.engineClient with incoming := rest.map Arrival.polled }
              connected := handleSocketioPacket s.connected packet }
            (handleSocketioPacket c packet) rest rfl hopen
          simp [Async.Socket.received, Async.Socket.next, Socket.received, Socket.poll, hs, hsync,
            hasync, hmore]
      | none =>
          simp [Async.Socket.received, Async.Socket.next, Socket.received, Socket.poll, hs, hsync,
            hasync]
      | error e =>
          simp [Async.Socket.received, Async.Socket.next, Socket.received, Socket.poll, hs, hsync,
            hasync]
      | pending =>
          simp [Async.Socket.received, Async.Socket.next, Socket.received, Socket.poll, hs, hsync,
            hasync]

end Scan

/-- What the blocking socket makes of a sequence of engine.io packets, in up to `n` polls. -/
def polledFrom (json : SerdeJson) (n : Nat) (packets : List Engineio.Packet) :
    List (Polled Packet) :=
  Socket.received json n (Socket.opened (packets.map fun packet => .ok (some packet)))

/-- What the stream makes of it, in up to `n` items. -/
def streamedFrom (json : SerdeJson) (n : Nat) (packets : List Engineio.Packet) :
    List (Async.Streamed Packet) :=
  Async.Socket.received json n (Async.Socket.opened (packets.map fun packet => some (.ok packet)))

section Heartbeat

variable {json : SerdeJson}

theorem polledFrom_eq (n : Nat) (packets : List Engineio.Packet) :
    polledFrom json n packets = (scan json .header packets).take n :=
  Socket.received_eq n _ packets rfl

theorem streamedFrom_eq (n : Nat) (packets : List Engineio.Packet) :
    streamedFrom json n packets = ((scan json .header packets).take n).map .returned := by
  have hopen : .ended ∉ packets.map Arrival.packet := by simp
  have hsync : (Socket.opened (arriving packets)).engineClient.incoming =
      (packets.map Arrival.packet).map Arrival.polled := by
    rw [List.map_map]
    rfl
  have hasync : Async.Socket.opened (packets.map fun packet => some (.ok packet)) =
      ⟨(packets.map Arrival.packet).map Arrival.streamed, true⟩ := by
    rw [List.map_map]
    rfl
  rw [streamedFrom, hasync, received_streamed n _ true _ hsync hopen,
    ← polledFrom_eq n packets]
  rfl

/-- Whoever sees the outcomes of `scan`, under names of its own, sees a change exactly when a
heartbeat stands inside a message. -/
theorem unchanged_of_scan {β : Type} {name : Polled Packet → β} (hname : name.Injective)
    {seen : Nat → List Engineio.Packet → List β}
    (hseen : ∀ n packets, seen n packets = ((scan json .header packets).take n).map name)
    {packets packets' : List Engineio.Packet} (h : Inserted packets packets')
    (hclean : ∀ n e, name (.error e) ∉ seen n packets) :
    (∀ n, seen n packets' = seen n packets) ↔ ¬ HeartbeatInside json .header packets' := by
  constructor
  · intro hsame hinside
    have hscan : scan json .header packets' = scan json .header packets := by
      apply Engineio.eq_of_take_eq
      intro n
      have hn := hsame n
      rw [hseen, hseen] at hn
      exact List.map_injective_iff.mpr hname hn
    obtain ⟨packetId, he⟩ := scan_heartbeatInside hinside
    rw [hscan] at he
    -- all of the meaning is seen in as many polls as it is long
    have hall := hclean (scan json .header packets).length (.invalidAttachmentPacketType packetId)
    rw [hseen, List.take_length] at hall
    exact hall (List.mem_map_of_mem he)
  · intro hout n
    rw [hseen, hseen, scan_inserted h hout]

/-- **Heartbeats.**  A sequence of engine.io packets that a socket reads without an error, and the
same with heartbeats inserted: the socket makes the same of both, error-free and packet for packet,
exactly when no heartbeat stands between a header and its last attachment.  Where one does, both
sockets reject it as an attachment. -/
theorem unchanged_iff {packets packets' : List Engineio.Packet} (h : Inserted packets packets') :
    ((∀ n e, .error e ∉ polledFrom json n packets) →
      ((∀ n, polledFrom json n packets' = polledFrom json n packets) ↔
        ¬ HeartbeatInside json .header packets')) ∧
    ((∀ n e, .returned (.error e) ∉ streamedFrom json n packets) →
      ((∀ n, streamedFrom json n packets' = streamedFrom json n packets) ↔
        ¬ HeartbeatInside json .header packets')) ∧
    (HeartbeatInside json .header packets' → ∃ n packetId,
      .error (.invalidAttachmentPacketType packetId) ∈ polledFrom json n packets' ∧
        .returned (.error (.invalidAttachmentPacketType packetId)) ∈
          streamedFrom json n packets') := by
  refine ⟨?_, ?_, ?_⟩
  · intro hclean
    have hseen : ∀ n packets,
        polledFrom json n packets = ((scan json .header packets).take n).map id := by
      intro n packets
      rw [List.map_id, polledFrom_eq]
    exact unchanged_of_scan Function.injective_id hseen h hclean
  · intro hclean
    have hreturned : Function.Injective (@Async.Streamed.returned Packet) := by
      intro outcome outcome' heq
      simpa using heq
    exact unchanged_of_scan hreturned streamedFrom_eq h hclean
  · intro hinside
    obtain ⟨packetId, he⟩ := scan_heartbeatInside hinside
    refine ⟨(scan json .header packets').length, packetId, ?_, ?_⟩
    · rwa [polledFrom_eq, List.take_length]
    · rw [streamedFrom_eq, List.take_length]
      exact List.mem_map_of_mem he

end Heartbeat

section Example

/-- What the attachment header announces. -/
def announced : Packet := ⟨.binaryEvent, ['/'], some "\"a\"".toList, none, 1, none⟩

theorem read_attachmentHeader :
    Place.header.read .integers attachmentHeader = .ok (none, .collecting announced 1 []) := by
  have hm : isMessage attachmentHeader = true := rfl
  have hcount : (0 : UInt8) < 1 := by decide
  rw [Place.read, if_pos hm, tryFrom_attachmentHeader, Except.map, if_pos hcount]
  rfl

theorem scan_attachment :
    scan .integers .header [attachmentHeader, ⟨.messageBinary, [7]⟩] =
      [.ok { announced with attachments := some [[7]] }, .pending] := by
  rw [scan, read_attachmentHeader]
  rfl

theorem not_error_scan_attachment (e : Error) :
    .error e ∉ scan .integers .header [attachmentHeader, ⟨.messageBinary, [7]⟩] := by
  simp [scan_attachment]

/-- A heartbeat in front of the header and one behind the attachment. -/
theorem unchanged_outside :
    (∀ n, polledFrom .integers n
        [⟨.ping, []⟩, attachmentHeader, ⟨.messageBinary, [7]⟩, ⟨.noop, []⟩] =
      polledFrom .integers n [attachmentHeader, ⟨.messageBinary, [7]⟩]) ∧
    ∀ n, streamedFrom .integers n
        [⟨.ping, []⟩, attachmentHeader, ⟨.messageBinary, [7]⟩, ⟨.noop, []⟩] =
      streamedFrom .integers n [attachmentHeader, ⟨.messageBinary, [7]⟩] := by
  have hinserted : Inserted [attachmentHeader, ⟨.messageBinary, [7]⟩]
      [⟨.ping, []⟩, attachmentHeader, ⟨.messageBinary, [7]⟩, ⟨.noop, []⟩] :=
    .heartbeat rfl (.keep _ (.keep _ (.heartbeat rfl .nil)))
  have hout : ¬ HeartbeatInside .integers .header
      [⟨.ping, []⟩, attachmentHeader, ⟨.messageBinary, [7]⟩, ⟨.noop, []⟩] := by
    have hping : Place.header.read .integers ⟨.ping, []⟩ = .ok (none, .header) := rfl
    rw [heartbeatInside_of_ok hping, heartbeatInside_of_ok read_attachmentHeader]
    exact id
  constructor
  · refine ((unchanged_iff hinserted).1 ?_).mpr hout
    intro n e he
    rw [polledFrom_eq] at he
    exact not_error_scan_attachment e (List.mem_of_mem_take he)
  · refine ((unchanged_iff hinserted).2.1 ?_).mpr hout
    intro n e he
    rw [streamedFrom_eq] at he
    obtain ⟨outcome, hmem, heq⟩ := List.mem_map.mp he
    obtain rfl : outcome = .error e := by simpa using heq
    exact not_error_scan_attachment e (List.mem_of_mem_take hmem)

/-- A heartbeat between the header and the attachment makes an error of the event. -/
theorem not_unchanged_inside :
    ¬ ∀ (json : SerdeJson) (packets packets' : List Engineio.Packet), Inserted packets packets' →
      ((∀ n e, .error e ∉ polledFrom json n packets) →
        ∀ n, polledFrom json n packets' = polledFrom json n packets) ∧
      ((∀ n e, .returned (.error e) ∉ streamedFrom json n packets) →
        ∀ n, streamedFrom json n packets' = streamedFrom json n packets) := by
  intro hall
  have hinserted : Inserted [attachmentHeader, ⟨.messageBinary, [7]⟩]
      [attachmentHeader, ⟨.ping, []⟩, ⟨.messageBinary, [7]⟩] :=
    .keep _ (.heartbeat rfl (.keep _ .nil))
  have hsame := (hall .integers _ _ hinserted).1 (fun n e he => by
    rw [polledFrom_eq] at he
    exact not_error_scan_attachment e (List.mem_of_mem_take he)) 1
  rw [polledFrom_eq, polledFrom_eq, scan_attachment, scan, read_attachmentHeader] at hsame
  have hbroken : scan .integers (.collecting announced 1 [])
      [⟨.ping, []⟩, ⟨.messageBinary, [7]⟩] = [.error (.invalidAttachmentPacketType 2)] := rfl
  simp [hbroken] at hsame

end Example

end TfSocketio.Socketio
