/-
# Socketio.Socket — sending packets over engine.io and reading them back.

`Socket.send` makes one engine.io emit for the text of a packet and one for each attachment;
`Socket.poll` reads one text and then as many attachments as it announces.  `polls_sendAll` is the
round trip over a whole connection: what one side sends, packet after packet, is what the other side
polls, and nothing is left over.
-/
import TfSocketio.Socketio.Codec

namespace TfSocketio.Socketio

open Engineio (Bytes)
open Text (Str)

/-! ## The engine.io client below -/

/-- What the successive polls of the engine.io client return. -/
abbrev Incoming := List (Except Engineio.Error (Option Engineio.Packet))

/-- The engine.io client as the socket sees it: whether it is connected, what its next emits fail
with (an exhausted list means success), what it has sent, and what it will return. -/
structure EngineClient where
  connected : Bool
  failures : List (Option Engineio.Error)
  emitted : List Engineio.Packet
  incoming : Incoming

/-- Sends one engine.io packet. -/
def EngineClient.emit (client : EngineClient) (packet : Engineio.Packet) :
    Except Engineio.Error Unit × EngineClient :=
  if client.connected then
    match client.failures with
    | some e :: failures => (.error e, { client with failures })
    | none :: failures =>
        (.ok (), { client with failures, emitted := client.emitted ++ [packet] })
    | [] => (.ok (), { client with emitted := client.emitted ++ [packet] })
  else (.error .illegalActionBeforeOpen, client)

/-- Sends engine.io packets in order, up to the first failure. -/
def EngineClient.emitAll (client : EngineClient) :
    List Engineio.Packet → Except Engineio.Error Unit × EngineClient
  | [] => (.ok (), client)
  | packet :: packets =>
      match client.emit packet with
      | (.ok (), client) => client.emitAll packets
      | (.error e, client) => (.error e, client)

/-! ## Sending -/

/-- Handles communication in the `socket.io` protocol. -/
structure Socket where
  engineClient : EngineClient
  connected : Bool

/-- The engine.io packets that carry a packet: its text, then its attachments. -/
def Packet.enginePackets (packet : Packet) : List Engineio.Packet :=
  ⟨.message, packet.toBytes⟩ ::
    (packet.attachments.getD []).map fun attachment => ⟨.messageBinary, attachment⟩

/-- Sends a `socket.io` packet to the server using the `engine.io` client. -/
def Socket.send (s : Socket) (packet : Packet) : Except Error Unit × Socket :=
  if s.engineClient.connected && s.connected then
    match s.engineClient.emitAll packet.enginePackets with
    | (.ok (), engineClient) => (.ok (), { s with engineClient })
    | (.error e, engineClient) =>
        (.error (.incompleteResponseFromEngineIo e), { s with engineClient })
  else (.error .illegalActionBeforeOpen, s)

/-- Sends packets one after the other, whatever becomes of each. -/
def Socket.sendAll (s : Socket) : List Packet → List (Except Error Unit) × Socket
  | [] => ([], s)
  | packet :: packets =>
      let (result, s) := s.send packet
      let (results, s) := s.sendAll packets
      (result :: results, s)

/-! ## Polling -/

/-- The outcome of a blocking read. -/
inductive Polled (α : Type) where
  | ok (value : α)
  | none
  | error (error : Error)
  /-- The engine.io client has nothing to return: the call blocks. -/
  | pending
  deriving DecidableEq, Repr

def Polled.map {α β : Type} (f : α → β) : Polled α → Polled β
  | .ok value => .ok (f value)
  | .none => .none
  | .error e => .error e
  | .pending => .pending

@[simp] theorem Polled.map_ok {α β : Type} (f : α → β) (value : α) :
    (Polled.ok value).map f = .ok (f value) := rfl

/-- The engine.io packets that carry socket.io data. -/
def isMessage (packet : Engineio.Packet) : Bool :=
  packet.packetId = .message || packet.packetId = .messageBinary

/-- The attachment loop of `Socket::handle_engineio_packet`. -/
def collectAttachments : Nat → Incoming → Polled (List Bytes) × Incoming
  | 0, incoming => (.ok [], incoming)
  | _ + 1, [] => (.pending, [])
  | _ + 1, .error e :: incoming => (.error (.incompleteResponseFromEngineIo e), incoming)
  -- engine.io closed before the attachments were complete
  | _ + 1, .ok none :: incoming => (.error .incompletePacket, incoming)
  | attachmentsLeft + 1, .ok (some packet) :: incoming =>
      if isMessage packet then
        let (attachments, incoming) := collectAttachments attachmentsLeft incoming
        (attachments.map (packet.data :: ·), incoming)
      else (.error (.invalidAttachmentPacketType packet.packetId.toU8), incoming)

/-- Decodes an engine.io packet and collects the attachments it announces. -/
def handleEngineioPacket (json : SerdeJson) (packet : Engineio.Packet) (incoming : Incoming) :
    Polled Packet × Incoming :=
  match Packet.tryFrom json packet.data with
  | .error e => (.error e, incoming)
  | .ok socketPacket =>
      if 0 < socketPacket.attachmentCount then
        let (attachments, incoming) :=
          collectAttachments socketPacket.attachmentCount.toNat incoming
        (attachments.map fun attachments => { socketPacket with attachments := some attachments },
          incoming)
      else (.ok socketPacket, incoming)

/-- Handles the connection/disconnection. -/
def handleSocketioPacket (connected : Bool) (socketPacket : Packet) : Bool :=
  match socketPacket.packetType with
  | .connect => true
  | .connectError => false
  | .disconnect => false
  | _ => connected

/-- The loop of `Socket::poll`: engine.io packets that carry no socket.io data are skipped. -/
def pollIncoming (json : SerdeJson) : Incoming → Polled Packet × Incoming
  | [] => (.pending, [])
  | .error e :: incoming => (.error (.incompleteResponseFromEngineIo e), incoming)
  | .ok none :: incoming => (.none, incoming)
  | .ok (some packet) :: incoming =>
      if isMessage packet then handleEngineioPacket json packet incoming
      else pollIncoming json incoming

/-- Polls for the next packet. -/
def Socket.poll (json : SerdeJson) (s : Socket) : Polled Packet × Socket :=
  let (result, incoming) := pollIncoming json s.engineClient.incoming
  let s := { s with engineClient := { s.engineClient with incoming } }
  match result with
  | .ok packet => (.ok packet, { s with connected := handleSocketioPacket s.connected packet })
  | result => (result, s)

/-- The outcomes of `n` successive polls. -/
def Socket.polls (json : SerdeJson) : Nat → Socket → List (Polled Packet) × Socket
  | 0, s => ([], s)
  | n + 1, s =>
      let (result, s) := s.poll json
      let (results, s) := Socket.polls json n s
      (result :: results, s)

/-! ## What a send leaves on the wire -/

/-- Without failures every packet goes out. -/
theorem EngineClient.emitAll_of_no_failures (client : EngineClient) (hc : client.connected = true)
    (hf : client.failures = []) (packets : List Engineio.Packet) :
    client.emitAll packets = (.ok (), { client with emitted := client.emitted ++ packets }) := by
  induction packets generalizing client with
  | nil => simp [EngineClient.emitAll]
  | cons packet packets ih =>
      have hemit : client.emit packet =
          (.ok (), { client with emitted := client.emitted ++ [packet] }) := by
        simp [EngineClient.emit, hc, hf]
      have hrest := ih { client with emitted := client.emitted ++ [packet] } hc hf
      simp only [EngineClient.emitAll, hemit, hrest, List.append_assoc, List.singleton_append]

/-- A connected socket with something to read, whose emits all succeed. -/
def Socket.opened (incoming : Incoming) : Socket where
  engineClient := { connected := true, failures := [], emitted := [], incoming }
  connected := true

/-- Sends over a working connection succeed, and put every packet's engine.io packets on the wire,
in order. -/
theorem Socket.sendAll_of_no_failures (s : Socket) (he : s.engineClient.connected = true)
    (hf : s.engineClient.failures = []) (hc : s.connected = true) (packets : List Packet) :
    s.sendAll packets =
      (packets.map fun _ => .ok (), { s with
        engineClient := { s.engineClient with
          emitted := s.engineClient.emitted ++ packets.flatMap Packet.enginePackets } }) := by
  induction packets generalizing s with
  | nil => simp [Socket.sendAll]
  | cons packet packets ih =>
      have hemit := EngineClient.emitAll_of_no_failures s.engineClient he hf packet.enginePackets
      have hsend : s.send packet = (.ok (), { s with
          engineClient := { s.engineClient with
            emitted := s.engineClient.emitted ++ packet.enginePackets } }) := by
        simp [Socket.send, he, hc, hemit]
      have hrest := ih { s with
        engineClient := { s.engineClient with
          emitted := s.engineClient.emitted ++ packet.enginePackets } } he hf hc
      simp [Socket.sendAll, hsend, hrest]

/-- The engine.io packets on the wire after sending packets over a fresh connection. -/
def Socket.wire (packets : List Packet) : List Engineio.Packet :=
  ((Socket.opened []).sendAll packets).2.engineClient.emitted

theorem Socket.wire_eq (packets : List Packet) :
    Socket.wire packets = packets.flatMap Packet.enginePackets := by
  rw [Socket.wire, Socket.sendAll_of_no_failures _ rfl rfl rfl]
  simp [Socket.opened]

/-! ## What a poll makes of it -/

/-- Engine.io packets as the client below returns them. -/
def arriving (packets : List Engineio.Packet) : Incoming :=
  packets.map fun packet => .ok (some packet)

@[simp] theorem arriving_nil : arriving [] = [] := rfl

@[simp] theorem arriving_cons (packet : Engineio.Packet) (packets : List Engineio.Packet) :
    arriving (packet :: packets) = .ok (some packet) :: arriving packets := rfl

@[simp] theorem arriving_append (packets packets' : List Engineio.Packet) :
    arriving (packets ++ packets') = arriving packets ++ arriving packets' := List.map_append

/-- The attachment loop takes exactly the attachments that follow. -/
theorem collectAttachments_arriving (attachments : List Bytes) (rest : Incoming) :
    collectAttachments attachments.length
        (arriving (attachments.map fun data => ⟨.messageBinary, data⟩) ++ rest) =
      (.ok attachments, rest) := by
  induction attachments with
  | nil => rfl
  | cons data attachments ih =>
      simp only [List.map_cons, arriving_cons, List.cons_append, List.length_cons,
        collectAttachments, ih]
      rfl

/-- One poll reads back one built packet, and nothing of what follows. -/
theorem pollIncoming_enginePackets {json : SerdeJson} {packet : Packet} (h : Built json packet)
    (rest : Incoming) :
    pollIncoming json (arriving packet.enginePackets ++ rest) = (.ok packet, rest) := by
  have hdecode := h.readable.tryFrom_toBytes
  have hattachments := h.attachments
  obtain ⟨packetType, nsp, data, id, attachmentCount, attachments⟩ := packet
  rcases hattachments with ⟨hcount, hnone⟩ | ⟨binData, hcount, hsome⟩
  · obtain rfl : attachmentCount = 0 := hcount
    obtain rfl : attachments = none := hnone
    simp [Packet.enginePackets, pollIncoming, isMessage, handleEngineioPacket, hdecode]
  · obtain rfl : attachmentCount = 1 := hcount
    obtain rfl : attachments = some [binData] := hsome
    have hcollect : collectAttachments 1 (.ok (some ⟨.messageBinary, binData⟩) :: rest) =
        (.ok [binData], rest) := collectAttachments_arriving [binData] rest
    have hpos : (0 : UInt8) < 1 := by decide
    have hone : (1 : UInt8).toNat = 1 := rfl
    simp [Packet.enginePackets, pollIncoming, isMessage, handleEngineioPacket, hdecode, hpos, hone,
      hcollect]

/-- Polls over the engine.io packets of built packets return those packets. -/
theorem Socket.polls_enginePackets {json : SerdeJson} {packets : List Packet}
    (h : ∀ packet ∈ packets, Built json packet) (s : Socket) (rest : Incoming)
    (hs : s.engineClient.incoming = arriving (packets.flatMap Packet.enginePackets) ++ rest) :
    (Socket.polls json packets.length s).1 = packets.map .ok ∧
      (Socket.polls json packets.length s).2.engineClient.incoming = rest := by
  induction packets generalizing s with
  | nil => exact ⟨rfl, by simpa [Socket.polls] using hs⟩
  | cons packet packets ih =>
      obtain ⟨hpacket, hpackets⟩ := List.forall_mem_cons.mp h
      have hincoming : s.engineClient.incoming = arriving packet.enginePackets ++
          (arriving (packets.flatMap Packet.enginePackets) ++ rest) := by
        rw [hs]
        simp
      have hpoll := pollIncoming_enginePackets hpacket
        (arriving (packets.flatMap Packet.enginePackets) ++ rest)
      have hrest := ih hpackets
        { engineClient := { s.engineClient with
            incoming := arriving (packets.flatMap Packet.enginePackets) ++ rest }
          connected := handleSocketioPacket s.connected packet } rfl
      simp only [List.length_cons, Socket.polls, Socket.poll, hincoming, hpoll, List.map_cons]
      exact ⟨congrArg _ hrest.1, hrest.2⟩

/-! ## The round trip of a connection -/

/-- **Stream round trip.**  The packets a client builds, sent one after the other, are polled by the
other side in the same order with all their fields, and the polls consume exactly the engine.io
packets they were sent as. -/
theorem Socket.polls_sendAll {json : SerdeJson} {packets : List Packet}
    (h : ∀ packet ∈ packets, Built json packet) (s : Socket) (rest : Incoming)
    (hs : s.engineClient.incoming = arriving (Socket.wire packets) ++ rest) :
    (Socket.polls json packets.length s).1 = packets.map .ok ∧
      (Socket.polls json packets.length s).2.engineClient.incoming = rest := by
  rw [Socket.wire_eq] at hs
  exact Socket.polls_enginePackets h s rest hs

/-- A binary event whose name is the text of a placeholder. -/
def placeholderEvent : Packet where
  packetType := .binaryEvent
  nsp := "/chat".toList
  data := some (SerdeJson.integers.toString (.string (placeholder 0)))
  id := none
  attachmentCount := 1
  attachments := some [[0x1e, 0xff]]

/-- An ack with two values and the largest id. -/
def largestAck : Packet where
  packetType := .ack
  nsp := ['/']
  data := some (SerdeJson.integers.toString (.array [.number (-1 : Int), .string "a,\"b".toList]))
  id := some (2 ^ 31 - 1)
  attachmentCount := 0
  attachments := none

theorem built_placeholderEvent : Built .integers placeholderEvent :=
  have hn : IsNamespace "/chat".toList := ⟨rfl, by decide⟩
  have hid : IsAckId none := by intro i hi; cases hi
  have h : Packet.newFromPayload .integers (.binary [0x1e, 0xff] none) (.custom (placeholder 0))
      "/chat".toList none = .ok placeholderEvent := rfl
  .event (.binary [0x1e, 0xff] none) hn hid h

theorem built_largestAck : Built .integers largestAck :=
  have hn : IsNamespace ['/'] := ⟨rfl, by decide⟩
  have hid : IsAckId (some (2 ^ 31 - 1)) := by
    intro i hi
    obtain rfl := Option.some.inj hi
    decide
  .ack (.text [.number (-1 : Int), .string "a,\"b".toList] none) hn hid rfl

theorem polls_placeholderEvent_largestAck :
    (Socket.polls .integers 3 (Socket.opened (arriving (Socket.wire
        [placeholderEvent, Packet.disconnect ['/'], largestAck]) ++ [.ok none]))).1 =
      [.ok placeholderEvent, .ok (Packet.disconnect ['/']), .ok largestAck] := by
  have hbuilt : ∀ packet ∈ [placeholderEvent, Packet.disconnect ['/'], largestAck],
      Built .integers packet := by
    simp only [List.forall_mem_cons]
    exact ⟨built_placeholderEvent, .disconnect ⟨rfl, by decide⟩, built_largestAck,
      fun _ h => by cases h⟩
  exact (Socket.polls_sendAll hbuilt (Socket.opened _) [.ok none] rfl).1

end TfSocketio.Socketio
