/-
# Engineio.Transmit — how a packet leaves the client, and what comes out at the other side.

`Socket::emit` hands the transport raw bytes for a binary packet and the encoded packet for any
other.  Long polling posts it as a body of its own, with binary data as base64 behind a `b`; a
websocket sends it as a binary or as a text frame.  Read with the receive path of the crate, a
posted packet comes back as it was, and a binary frame as a `Message` packet (`Packet.carried`).
A body of long polling is taken to reach the stream in one chunk (`deliveries_polling`); what a cut
does is in `chunked_iff_arrivesWhole`.

`arrive_iff` says which packets come out (`Survives`), whatever is sent before and behind them.
-/
import TfSocketio.Lib.Text
import TfSocketio.Engineio.Receive

namespace TfSocketio.Engineio

/-! ## The transports -/

/-- The transports a socket can be built over (`transport::TransportType`). -/
inductive TransportType where
  | polling
  | websocketSecure
  | websocket
  deriving DecidableEq, Repr

/-- What crosses the connection: the body of a POST request or a websocket message. -/
inductive Transmission where
  | post (body : Bytes)
  | message (message : Message)
  deriving DecidableEq, Repr

/-- The body the polling transport posts. -/
def Polling.emit (b64 : Base64Engine) (data : Bytes) (isBinaryAtt : Bool) : Bytes :=
  -- the binary attachment gets `base64` encoded
  if isBinaryAtt then base64Prefix :: b64.encode data else data

/-- The message the websocket transports send, `none` where `from_utf8` fails. -/
def Websocket.emit (data : Bytes) (isBinaryAtt : Bool) : Option Message :=
  if isBinaryAtt then some (.binary data)
  else if (Text.fromUtf8 data).isSome then some (.text data)
  else none

/-- What a transport sends for the data of one packet. -/
def TransportType.emit (b64 : Base64Engine) (transport : TransportType) (data : Bytes)
    (isBinaryAtt : Bool) : Option Transmission :=
  match transport with
  | .polling => some (.post (Polling.emit b64 data isBinaryAtt))
  | .websocketSecure => (Websocket.emit data isBinaryAtt).map .message
  | .websocket => (Websocket.emit data isBinaryAtt).map .message

/-- What a connected socket sends for a packet (`Socket::emit`). -/
def Packet.transmit (b64 : Base64Engine) (transport : TransportType) (packet : Packet) :
    Option Transmission :=
  let isBinary := packet.packetId = .messageBinary
  -- if this is a binary attachment, then send the raw bytes
  let data := if isBinary then packet.data else packet.toBytes b64
  transport.emit b64 data isBinary

/-- The transmission as a receiver's transport returns it: a body as the body of a response, a
message as a message. -/
def Transmission.received : Transmission → Option (Except Error Bytes)
  | .post body => some (.ok body)
  | .message sent => Websocket.received (.ok sent)

/-- What the receiver's transport returns after packets have been sent, the body of each response in
one chunk.  A packet that the sending transport rejects is not on the wire. -/
def deliveries (b64 : Base64Engine) (transport : TransportType) (packets : List Packet) :
    List (Except Error Bytes) :=
  (packets.filterMap (Packet.transmit b64 transport)).filterMap Transmission.received

/-! ## What one packet becomes -/

/-- The packet as it comes out: a binary frame does not say that it was a binary packet. -/
def Packet.carried (transport : TransportType) (packet : Packet) : Packet :=
  if transport ≠ .polling ∧ packet.packetId = .messageBinary then
    { packet with packetId := .message }
  else packet

/-- What the packet needs to come out of a transport.  Over a websocket a text frame is UTF-8, and a
binary frame goes through the payload decoder as a `Message` packet. -/
def Packet.Survives (transport : TransportType) (packet : Packet) : Prop :=
  if transport = .polling then packet.Encodable
  else if packet.packetId = .messageBinary then packet.data ≠ [] ∧ separator ∉ packet.data
  else packet.Encodable ∧ (Text.fromUtf8 packet.data).isSome

instance (transport : TransportType) (packet : Packet) :
    Decidable (packet.Survives transport) :=
  inferInstanceAs (Decidable (if transport = .polling then packet.Encodable
    else if packet.packetId = .messageBinary then packet.data ≠ [] ∧ separator ∉ packet.data
    else packet.Encodable ∧ (Text.fromUtf8 packet.data).isSome))

section Transmit

variable {b64 : Base64Engine}

@[simp] theorem Packet.carried_polling (packet : Packet) : packet.carried .polling = packet := by
  simp [Packet.carried]

/-- A posted body is the packet's own encoding, also where its data is binary. -/
theorem Packet.transmit_polling (packet : Packet) :
    packet.transmit b64 .polling = some (.post (packet.toBytes b64)) := by
  by_cases hid : packet.packetId = .messageBinary
  · have hletter : PacketId.messageBinary.toStringByte = base64Prefix := rfl
    simp [Packet.transmit, TransportType.emit, Polling.emit, Packet.toBytes, hid, hletter]
  · simp [Packet.transmit, TransportType.emit, Polling.emit, hid]

/-- The buffer in which a packet reaches the receiver's decoder. -/
def Packet.buffer (b64 : Base64Engine) (transport : TransportType) (packet : Packet) : Bytes :=
  if transport ≠ .polling ∧ packet.packetId = .messageBinary then
    PacketId.message.toU8 :: packet.data
  else packet.toBytes b64

theorem Packet.buffer_ne_nil (transport : TransportType) (packet : Packet) :
    packet.buffer b64 transport ≠ [] := by
  unfold Packet.buffer Packet.toBytes
  split
  · exact List.cons_ne_nil _ _
  · split <;> exact List.cons_ne_nil _ _

/-- A websocket sends a binary packet always, and another one where its data is UTF-8. -/
theorem Packet.transmit_websocket {transport : TransportType} (h : transport ≠ .polling)
    (packet : Packet) :
    packet.transmit b64 transport =
      if packet.packetId = .messageBinary then some (.message (.binary packet.data))
      else if (Text.fromUtf8 packet.data).isSome then some (.message (.text (packet.toBytes b64)))
      else none := by
  have hws : packet.transmit b64 transport =
      (Websocket.emit (if packet.packetId = .messageBinary then packet.data
        else packet.toBytes b64) (packet.packetId = .messageBinary)).map .message := by
    cases transport
    · exact absurd rfl h
    · rfl
    · rfl
  rw [hws]
  by_cases hid : packet.packetId = .messageBinary
  · simp [Websocket.emit, hid]
  · -- the id byte is an ASCII digit
    have hbyte : packet.packetId.toStringByte.toNat < 128 := by
      cases packet.packetId <;> decide
    have hutf8 := Text.isSome_fromUtf8_cons hbyte packet.data
    by_cases hdata : (Text.fromUtf8 packet.data).isSome = true
    · simp [Websocket.emit, Packet.toBytes, hid, hutf8.mpr hdata, hdata]
    · have hcell : ¬ (Text.fromUtf8 (packet.packetId.toStringByte :: packet.data)).isSome = true :=
        fun hsome => hdata (hutf8.mp hsome)
      simp [Websocket.emit, Packet.toBytes, hid, hcell, hdata]

/-- A packet survives when its carried form is encodable and its transport sends it at all. -/
theorem Packet.survives_iff (transport : TransportType) (packet : Packet) :
    packet.Survives transport ↔
      (packet.carried transport).Encodable ∧ (packet.transmit b64 transport).isSome := by
  by_cases hpolling : transport = .polling
  · subst hpolling
    simp [Packet.Survives, Packet.transmit_polling]
  · rw [Packet.transmit_websocket hpolling, Packet.Survives, Packet.carried, if_neg hpolling]
    by_cases hid : packet.packetId = .messageBinary
    · simp [hpolling, hid, Packet.Encodable, and_comm]
    · by_cases hdata : (Text.fromUtf8 packet.data).isSome = true
      · simp [hid, hdata]
      · simp [hid, hdata]

/-- A transmission is received as the packet's buffer. -/
theorem Packet.received_of_transmit {transport : TransportType} {packet : Packet}
    {transmission : Transmission} (h : packet.transmit b64 transport = some transmission) :
    transmission.received = some (.ok (packet.buffer b64 transport)) := by
  by_cases hpolling : transport = .polling
  · subst hpolling
    rw [Packet.transmit_polling] at h
    obtain rfl := Option.some.inj h
    simp [Transmission.received, Packet.buffer]
  · rw [Packet.transmit_websocket hpolling] at h
    by_cases hid : packet.packetId = .messageBinary
    · rw [if_pos hid] at h
      obtain rfl := Option.some.inj h
      simp [Transmission.received, Websocket.received, Packet.buffer, hpolling, hid]
    · rw [if_neg hid] at h
      obtain ⟨-, hsent⟩ := Option.ite_none_right_eq_some.mp h
      obtain rfl := Option.some.inj hsent
      simp [Transmission.received, Websocket.received, Packet.buffer, hid]

/-- The buffer of a packet whose carried form is encodable decodes to that form alone. -/
theorem Packet.tryFrom_buffer {transport : TransportType} {packet : Packet}
    (h : (packet.carried transport).Encodable) :
    Payload.tryFrom b64 (packet.buffer b64 transport) = .ok [packet.carried transport] := by
  unfold Packet.carried Packet.buffer at *
  split
  · rename_i hbinary
    simp only [hbinary, ne_eq, not_false_eq_true, and_self, if_true] at h
    have hsep : separator ∉ packet.data := h.1 (by simp)
    have hne : packet.data ≠ [] := h.2 rfl
    apply Payload.tryFrom_single
    · have hid : separator ≠ PacketId.message.toU8 := by decide
      simp only [List.mem_cons, not_or]
      exact ⟨hid, hsep⟩
    · have hletter : PacketId.message.toU8 ≠ base64Prefix := by decide
      have hbyte : PacketId.tryFrom PacketId.message.toU8 = .ok .message := rfl
      simp [Packet.tryFrom, hletter, hbyte, hne]
  · rename_i hplain
    rw [if_neg hplain] at h
    exact Payload.tryFrom_single (Packet.separator_notMem_toBytes h) (Packet.tryFrom_toBytes h)

/-! ## What a run of packets becomes -/

@[simp] theorem deliveries_nil (transport : TransportType) : deliveries b64 transport [] = [] := rfl

theorem deliveries_cons_of_accepted {transport : TransportType} {packet : Packet}
    (h : (packet.transmit b64 transport).isSome) (packets : List Packet) :
    deliveries b64 transport (packet :: packets) =
      .ok (packet.buffer b64 transport) :: deliveries b64 transport packets := by
  obtain ⟨transmission, htransmit⟩ := Option.isSome_iff_exists.mp h
  rw [deliveries, List.filterMap_cons_some htransmit,
    List.filterMap_cons_some (Packet.received_of_transmit htransmit)]
  rfl

theorem deliveries_cons_of_rejected {transport : TransportType} {packet : Packet}
    (h : packet.transmit b64 transport = none) (packets : List Packet) :
    deliveries b64 transport (packet :: packets) = deliveries b64 transport packets := by
  rw [deliveries, List.filterMap_cons_none h]
  rfl

theorem deliveries_append (transport : TransportType) (packets packets' : List Packet) :
    deliveries b64 transport (packets ++ packets') =
      deliveries b64 transport packets ++ deliveries b64 transport packets' := by
  simp only [deliveries, List.filterMap_append]

/-- The responses of long polling that posted packets become, each body in one chunk. -/
def responses (b64 : Base64Engine) (packets : List Packet) : List Delivery :=
  packets.map fun packet =>
    ⟨[packet.buffer b64 .polling], by simpa using packet.buffer_ne_nil .polling⟩

/-- Over long polling, the blocking transport and the stream both read what is delivered from these
responses. -/
theorem deliveries_polling (packets : List Packet) :
    Polling.poll (responses b64 packets) = deliveries b64 .polling packets ∧
      Polling.stream (responses b64 packets) = deliveries b64 .polling packets := by
  induction packets with
  | nil => exact ⟨rfl, rfl⟩
  | cons packet packets ih =>
      obtain ⟨hpoll, hstream⟩ := ih
      rw [deliveries_cons_of_accepted (by simp [Packet.transmit_polling]), ← hpoll]
      constructor
      · simp [responses, Polling.poll, Delivery.body]
      · rw [hpoll, ← hstream]
        simp [responses, Polling.stream]

/-- The transports never return an empty buffer for what was sent. -/
theorem deliveries_ne_nil {transport : TransportType} {packets : List Packet} :
    ∀ item ∈ deliveries b64 transport packets, item ≠ .ok [] := by
  induction packets with
  | nil => simp
  | cons packet packets ih =>
      cases hsent : packet.transmit b64 transport with
      | none =>
          rw [deliveries_cons_of_rejected hsent]
          exact ih
      | some transmission =>
          rw [deliveries_cons_of_accepted (by simp [hsent])]
          intro item hitem
          rcases List.mem_cons.mp hitem with rfl | hrest
          · simpa using packet.buffer_ne_nil transport
          · exact ih item hrest

/-- Packets whose carried forms are encodable arrive in those forms, less the rejected ones. -/
theorem decodeBodies_deliveries {transport : TransportType} {packets : List Packet}
    (h : ∀ packet ∈ packets, (packet.carried transport).Encodable)
    (rest : List (Except Error Bytes)) :
    decodeBodies b64 (deliveries b64 transport packets ++ rest) =
      ((packets.filter fun packet => (packet.transmit b64 transport).isSome).map fun packet =>
        .ok (packet.carried transport)) ++ decodeBodies b64 rest := by
  induction packets with
  | nil => rfl
  | cons packet packets ih =>
      obtain ⟨hpacket, hpackets⟩ := List.forall_mem_cons.mp h
      have hrest := ih hpackets
      by_cases hsent : (packet.transmit b64 transport).isSome = true
      · rw [deliveries_cons_of_accepted hsent, List.cons_append,
          decodeBodies_cons_ok (packet.buffer_ne_nil transport) (Packet.tryFrom_buffer hpacket),
          hrest, List.filter_cons, if_pos hsent]
        rfl
      · have hnone : packet.transmit b64 transport = none := by simpa using hsent
        rw [deliveries_cons_of_rejected hnone, hrest, List.filter_cons, if_neg hsent]

/-- Packets that survive arrive in their carried forms. -/
theorem decodeBodies_of_survive {transport : TransportType} {packets : List Packet}
    (h : ∀ packet ∈ packets, packet.Survives transport) (rest : List (Except Error Bytes)) :
    decodeBodies b64 (deliveries b64 transport packets ++ rest) =
      (packets.map fun packet => .ok (packet.carried transport)) ++ decodeBodies b64 rest := by
  have hboth : ∀ packet ∈ packets, (packet.carried transport).Encodable ∧
      (packet.transmit b64 transport).isSome := fun packet hpacket =>
    (packet.survives_iff transport).mp (h packet hpacket)
  have hall : (packets.filter fun packet => (packet.transmit b64 transport).isSome) = packets :=
    List.filter_eq_self.mpr fun packet hpacket => (hboth packet hpacket).2
  rw [decodeBodies_deliveries (fun packet hpacket => (hboth packet hpacket).1) rest, hall]

/-- Whatever a receiver reads is encodable. -/
theorem encodable_of_mem_decodeBodies {incoming : List (Except Error Bytes)} {packet : Packet}
    (h : .ok packet ∈ decodeBodies b64 incoming) : packet.Encodable := by
  induction incoming with
  | nil => simp [decodeBodies] at h
  | cons item incoming ih =>
      rcases item with e | data
      · simp [decodeBodies] at h
      · by_cases hnil : data = []
        · subst hnil
          rw [decodeBodies_nil_cons] at h
          exact ih h
        · cases hdata : Payload.tryFrom b64 data with
          | error e =>
              rw [decodeBodies_cons_error hnil hdata] at h
              simp at h
          | ok packets =>
              rw [decodeBodies_cons_ok hnil hdata, List.mem_append] at h
              rcases h with hhere | hrest
              · obtain ⟨p, hp, heq⟩ := List.mem_map.mp hhere
                obtain rfl := Except.ok.inj heq
                exact Payload.encodable_of_tryFrom hdata p hp
              · exact ih hrest

/-- A buffer behind a message id, if it is accepted at all, opens with a `Message` packet, whose
data ends at the first separator. -/
theorem Payload.message_of_tryFrom {first : UInt8} {data : Bytes} {ps : Payload}
    (hid : PacketId.tryFrom first = .ok .message)
    (h : Payload.tryFrom b64 (first :: data) = .ok ps) :
    ∃ cut rest, ps = ⟨.message, cut⟩ :: rest ∧ separator ∉ cut ∧ cut ≠ [] := by
  have hletter : first ≠ base64Prefix := by
    rintro rfl
    simp [PacketId.tryFrom, base64Prefix] at hid
  have hsep : first ≠ separator := by
    rintro rfl
    simp [PacketId.tryFrom, separator] at hid
  have hencodable := Payload.encodable_of_tryFrom h
  obtain ⟨cut, cells, hcells⟩ := List.exists_cons_of_ne_nil (List.splitOn_ne_nil separator data)
  rw [Payload.tryFrom, Split.splitOn_cons_of_ne hsep hcells] at h
  obtain ⟨p, rest, rfl, hp, -⟩ := mapM_cons_eq_ok h
  obtain rfl : p = ⟨.message, cut⟩ := by
    simp only [Packet.tryFrom, hletter, if_false, hid] at hp
    split at hp
    · simp at hp
    · exact (Except.ok.inj hp).symm
  have hcut : (⟨.message, cut⟩ : Packet).Encodable := hencodable _ List.mem_cons_self
  exact ⟨cut, rest, rfl, hcut.1 (by simp), hcut.2 rfl⟩

/-- The packets arrive: each transport's receiver, blocking or as a stream, reads the carried form
of every packet, in order. -/
structure Arrive (b64 : Base64Engine) (transport : TransportType) (packets : List Packet) :
    Prop where
  poll : ∀ n, Socket.items b64 n (Socket.reading (deliveries b64 transport packets)) =
    (packets.map fun packet => .ok (packet.carried transport)).take n
  stream : Socket.stream b64 (deliveries b64 transport packets) =
    packets.map fun packet => .ok (packet.carried transport)

/-- **Packets arrive over a transport exactly when each of them survives it.** -/
theorem arrive_iff (b64 : Base64Engine) (transport : TransportType) (packets : List Packet) :
    Arrive b64 transport packets ↔ ∀ packet ∈ packets, packet.Survives transport := by
  have hstream : Socket.stream b64 (deliveries b64 transport packets) =
      decodeBodies b64 (deliveries b64 transport packets) := Socket.stream_eq deliveries_ne_nil
  constructor
  · intro h
    have hmeaning := hstream.symm.trans h.stream
    have hencodable : ∀ packet ∈ packets, (packet.carried transport).Encodable := by
      intro packet hpacket
      have hmem : .ok (packet.carried transport) ∈
          decodeBodies b64 (deliveries b64 transport packets) := by
        rw [hmeaning]
        exact List.mem_map.mpr ⟨packet, hpacket, rfl⟩
      exact encodable_of_mem_decodeBodies hmem
    -- every packet on the wire is one packet read, so none is missing
    have hsent := @decodeBodies_deliveries b64 transport packets hencodable []
    rw [List.append_nil, hmeaning] at hsent
    have hlength := congrArg List.length hsent
    simp only [List.length_map, decodeBodies, List.append_nil] at hlength
    have hall := List.length_filter_eq_length_iff.mp hlength.symm
    intro packet hpacket
    exact (@Packet.survives_iff b64 transport packet).mpr
      ⟨hencodable packet hpacket, hall packet hpacket⟩
  · intro h
    have hsent := @decodeBodies_of_survive b64 transport packets h []
    simp only [decodeBodies, List.append_nil] at hsent
    exact ⟨fun n => by rw [Socket.items_reading, hsent], hstream.trans hsent⟩

end Transmit

end TfSocketio.Engineio
