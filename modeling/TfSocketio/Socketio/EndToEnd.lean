/-
# Socketio.EndToEnd — a packet's way through all layers, from one client's send to another's poll.

The layers are those of the other modules: `Socket.send` cuts a packet into engine.io packets,
`Engineio.deliveries` carries those over a transport, the engine.io clients decode what comes out
and answer the heartbeat, and the socket.io sockets put the packets together again.  `polledOver`
and `streamedOver` are the two receiving sides as a whole, over whatever bytes arrive; the bodies of
long polling are taken to reach the stream in one chunk each (`Engineio.deliveries_polling`).

`travels_iff` says which packets survive the way, and `received_grouped` that neither the way a
server groups its engine.io packets into polling bodies nor the heartbeat between them shows above.
-/
import TfSocketio.Engineio.Client
import TfSocketio.Engineio.Transmit
import TfSocketio.Socketio.Assembly
import TfSocketio.Socketio.Framing

namespace TfSocketio.Socketio

open Engineio (Bytes TransportType)
open Text (Str)

/-! ## The receiving side as a whole -/

/-- What a call of the engine.io client hands to the layer above.  A call that waits or panics hands
it nothing. -/
def arrival : Engineio.Report → Option Arrival
  | .packet packet => some (.packet packet)
  | .none => some .ended
  | .error e => some (.error e)
  | .panicked => none
  | .pending => none

/-- The calls of the blocking engine.io client, as many as can return something. -/
def clientTurns (b64 : Engineio.Base64Engine) (incoming : List (Except Engineio.Error Bytes)) :
    List Engineio.Turn :=
  Engineio.turns (Engineio.Client.poll b64) ((Engineio.decodeBodies b64 incoming).length + 1)
    (Engineio.Client.reading incoming [])

/-- The calls of the asynchronous engine.io client, as many as can return something. -/
def streamTurns (b64 : Engineio.Base64Engine) (incoming : List (Except Engineio.Error Bytes)) :
    List Engineio.Turn :=
  Engineio.turns Engineio.Async.Client.next ((Engineio.Socket.stream b64 incoming).length + 1)
    (Engineio.Async.Client.reading b64 incoming [])

/-- What the calls hand to the layer above. -/
def arrivals (turns : List Engineio.Turn) : List Arrival :=
  turns.filterMap fun turn => arrival turn.report

/-- What a user of the blocking client sees in up to `n` polls. -/
def polledOver (b64 : Engineio.Base64Engine) (json : SerdeJson) (n : Nat)
    (incoming : List (Except Engineio.Error Bytes)) : List (Polled Packet) :=
  Socket.received json n
    (Socket.opened ((arrivals (clientTurns b64 incoming)).map Arrival.polled))

/-- What a user of the asynchronous client sees in up to `n` items. -/
def streamedOver (b64 : Engineio.Base64Engine) (json : SerdeJson) (n : Nat)
    (incoming : List (Except Engineio.Error Bytes)) : List (Async.Streamed Packet) :=
  Async.Socket.received json n
    (Async.Socket.opened ((arrivals (streamTurns b64 incoming)).map Arrival.streamed))

section Receiving

variable {b64 : Engineio.Base64Engine} {json : SerdeJson}

theorem react_length (unexpected : Engineio.Report)
    (items : List (Except Engineio.Error Engineio.Packet)) :
    (Engineio.react unexpected items).length ≤ items.length + 1 := by
  induction items with
  | nil => simp [Engineio.react]
  | cons item items ih =>
      rcases item with e | packet
      · simp [Engineio.react]
      · simp only [Engineio.react]
        split
        · simpa using ih
        · simp

theorem clientTurns_eq (incoming : List (Except Engineio.Error Bytes)) :
    clientTurns b64 incoming =
      Engineio.react .panicked (Engineio.decodeBodies b64 incoming) := by
  rw [clientTurns, Engineio.Client.reading, Engineio.Client.turns_eq _ _ rfl]
  show (Engineio.react .panicked (Engineio.decodeBodies b64 incoming)).take _ = _
  exact List.take_of_length_le (react_length _ _)

theorem streamTurns_eq {incoming : List (Except Engineio.Error Bytes)}
    (h : ∀ item ∈ incoming, item ≠ .ok []) :
    streamTurns b64 incoming =
      Engineio.react (.error .invalidPacket) (Engineio.decodeBodies b64 incoming) := by
  rw [streamTurns, Engineio.Async.Client.reading, Engineio.Async.Client.turns_eq,
    Engineio.Socket.stream_eq h]
  exact List.take_of_length_le (react_length _ _)

/-- A message is handed up, whatever comes behind it. -/
theorem arrivals_message {packet : Engineio.Packet} (h : isMessage packet = true)
    (unexpected : Engineio.Report) (items : List (Except Engineio.Error Engineio.Packet)) :
    arrivals (Engineio.react unexpected (.ok packet :: items)) =
      .packet packet :: arrivals (Engineio.react unexpected items) := by
  obtain ⟨packetId, data⟩ := packet
  cases packetId <;> first | rfl | simp [isMessage] at h

/-- So is a packet of the heartbeat, which is answered below. -/
theorem arrivals_heartbeat {packet : Engineio.Packet} (h : isHeartbeat packet = true)
    (unexpected : Engineio.Report) (items : List (Except Engineio.Error Engineio.Packet)) :
    arrivals (Engineio.react unexpected (.ok packet :: items)) =
      .packet packet :: arrivals (Engineio.react unexpected items) := by
  obtain ⟨packetId, data⟩ := packet
  cases packetId <;> first | rfl | simp [isHeartbeat] at h

theorem arrivals_error (unexpected : Engineio.Report) (e : Engineio.Error)
    (items : List (Except Engineio.Error Engineio.Packet)) :
    arrivals (Engineio.react unexpected (.error e :: items)) = [.error e] := rfl

end Receiving

/-! ## A separator does not come out of a text without one -/

theorem mem_of_mem_removeFrom {pattern : Str} {c : Char} {s : Str} {k : Nat}
    (h : c ∈ Text.removeFrom pattern k s) : c ∈ s := by
  induction s generalizing k with
  | nil => simp [Text.removeFrom] at h
  | cons d s ih =>
      cases k with
      | succ k => exact List.mem_cons_of_mem _ (ih h)
      | zero =>
          rw [Text.removeFrom] at h
          split at h
          · exact List.mem_cons_of_mem _ (ih h)
          · rcases List.mem_cons.mp h with rfl | hrest
            · exact List.mem_cons_self
            · exact List.mem_cons_of_mem _ (ih hrest)

theorem mem_of_mem_binaryData {c : Char} {payload data : Str} (h : binaryData payload = some data)
    (hc : c ∈ data) : c ∈ payload := by
  have hinner : c ∈ (if payload.head? = some '[' ∧ payload.getLast? = some ']'
      then payload.tail.dropLast else payload) → c ∈ payload := by
    intro hmem
    split at hmem
    · exact List.mem_of_mem_tail (List.mem_of_mem_dropLast hmem)
    · exact hmem
  unfold binaryData at h
  simp only at h
  generalize (if payload.head? = some '[' ∧ payload.getLast? = some ']'
      then payload.tail.dropLast else payload) = inner at h hinner
  obtain ⟨-, heq⟩ := Option.ite_none_left_eq_some.mp h
  obtain rfl := Option.some.inj heq
  apply hinner
  split at hc
  · exact mem_of_mem_removeFrom (List.mem_of_mem_dropLast hc)
  · exact mem_of_mem_removeFrom hc

/-- What the decoder reads as the data is part of the text. -/
theorem mem_of_decodeIdAndData {json : SerdeJson} {packet packet' : Packet} {payload : Str}
    (h : decodeIdAndData json packet payload = .ok packet') (hdata : packet.data = none)
    {c : Char} :
    packet'.nsp = packet.nsp ∧ (c ∈ packet'.data.getD [] → c ∈ payload) := by
  have hrest : ∀ d, d ∈ (Text.leadingDigits payload).2 → d ∈ payload := by
    intro d hd
    rw [(Text.leadingDigits_spec payload).1]
    exact List.mem_append_right _ hd
  unfold decodeIdAndData at h
  simp only at h
  split at h
  · obtain rfl := Except.ok.inj h
    simp [hdata]
  · split at h
    · simp at h
    · split at h
      · obtain rfl := Except.ok.inj h
        refine ⟨rfl, fun hc => hrest c ?_⟩
        by_cases hbinary : packet.packetType.isBinary = true
        · simp only [hbinary, if_true] at hc
          cases hread : binaryData (Text.leadingDigits payload).2 with
          | none => simp [hread] at hc
          | some data => exact mem_of_mem_binaryData hread (by simpa [hread] using hc)
        · simpa [hbinary] using hc
      · simp at h

theorem mem_of_decodeCount {packetType : PacketId} {payload rest : Str} {n : UInt8}
    (h : decodeCount packetType payload = .ok (n, rest)) {c : Char} (hc : c ∈ rest) :
    c ∈ payload := by
  unfold decodeCount at h
  split at h
  · split at h
    · simp at h
    · rename_i count after hsplit
      split at h
      · obtain ⟨-, rfl⟩ := Prod.mk.inj (Except.ok.inj h)
        rw [(Text.splitOnce_eq_some hsplit).1]
        exact List.mem_append_right _ (List.mem_cons_of_mem _ hc)
      · simp at h
  · obtain ⟨-, rfl⟩ := Prod.mk.inj (Except.ok.inj h)
    exact hc

/-- The namespace is part of the text, unless it is the default one. -/
theorem mem_of_decodeNsp {payload nsp rest : Str} (h : decodeNsp payload = .ok (nsp, rest))
    {c : Char} (hslash : c ≠ '/') (hc : c ∈ nsp ∨ c ∈ rest) : c ∈ payload := by
  unfold decodeNsp at h
  split at h
  · split at h
    · simp at h
    · rename_i before after hsplit
      obtain ⟨rfl, rfl⟩ := Prod.mk.inj (Except.ok.inj h)
      rw [(Text.splitOnce_eq_some hsplit).1]
      rcases hc with hnsp | hrest
      · exact List.mem_append_left _ hnsp
      · exact List.mem_append_right _ (List.mem_cons_of_mem _ hrest)
  · obtain ⟨rfl, rfl⟩ := Prod.mk.inj (Except.ok.inj h)
    rcases hc with hnsp | hrest
    · exact absurd (List.mem_singleton.mp hnsp) hslash
    · exact hrest

/-- A character of the namespace or the data that is read is one of the text. -/
theorem Packet.mem_of_ofText {json : SerdeJson} {text : Str} {packet : Packet}
    (h : Packet.ofText json text = .ok packet) {c : Char} (hslash : c ≠ '/')
    (hc : c ∈ packet.nsp ∨ c ∈ packet.data.getD []) : c ∈ text := by
  cases text with
  | nil => simp [Packet.ofText] at h
  | cons idChar payload =>
      simp only [Packet.ofText, bind, Except.bind] at h
      split at h
      · simp at h
      · split at h
        · simp at h
        · rename_i packetType _ counted hcount
          split at h
          · simp at h
          · rename_i named hnsp
            obtain ⟨hsame, hdata⟩ := mem_of_decodeIdAndData h rfl (c := c)
            have hnamed : c ∈ named.1 ∨ c ∈ named.2 := by
              rcases hc with hin | hin
              · rw [hsame] at hin
                exact .inl hin
              · exact .inr (hdata hin)
            have hin := mem_of_decodeNsp hnsp hslash hnamed
            exact List.mem_cons_of_mem _ (mem_of_decodeCount hcount hin)

/-- A header without the separator byte gives a packet without the separator. -/
theorem Packet.notMem_of_tryFrom {json : SerdeJson} {bytes : Bytes} {packet : Packet}
    (hsep : Engineio.separator ∉ bytes) (h : Packet.tryFrom json bytes = .ok packet) :
    separatorChar ∉ packet.nsp ∧ separatorChar ∉ packet.data.getD [] := by
  unfold Packet.tryFrom at h
  split at h
  · simp at h
  · rename_i text htext
    obtain ⟨s, rfl⟩ := Text.isSome_fromUtf8_iff.mp (by simp [htext] : (Text.fromUtf8 bytes).isSome)
    obtain rfl : s = text := by simpa using htext
    have hnone : separatorChar ∉ s := fun hmem =>
      hsep ((Text.mem_utf8 (c := separatorChar) (by decide) s).mpr hmem)
    have hslash : separatorChar ≠ '/' := by decide
    exact ⟨fun hin => hnone (Packet.mem_of_ofText h hslash (.inl hin)),
      fun hin => hnone (Packet.mem_of_ofText h hslash (.inr hin))⟩

/-! ## What the way asks of a packet -/

/-- What a packet needs to come out of a transport: no separator in its text and, over a websocket,
attachments that are not empty and hold no separator byte. -/
def Packet.Travels (transport : TransportType) (packet : Packet) : Prop :=
  separatorChar ∉ packet.text ∧
    (transport ≠ .polling →
      ∀ data ∈ packet.attachments.getD [], data ≠ [] ∧ Engineio.separator ∉ data)

section Travels

variable {b64 : Engineio.Base64Engine} {json : SerdeJson} {transport : TransportType}

theorem Packet.toBytes_ne_nil (packet : Packet) : packet.toBytes ≠ [] := by
  have hbyte := Text.mem_utf8 (c := packet.packetType.toChar)
    (by cases packet.packetType <;> decide) packet.text
  exact List.ne_nil_of_mem (hbyte.mpr List.mem_cons_self)

theorem Packet.separator_mem_toBytes (packet : Packet) :
    Engineio.separator ∈ packet.toBytes ↔ separatorChar ∈ packet.text :=
  Text.mem_utf8 (c := separatorChar) (by decide) packet.text

/-- The header survives when there is no separator in its text. -/
theorem Packet.header_survives (packet : Packet) :
    (⟨.message, packet.toBytes⟩ : Engineio.Packet).Survives transport ↔
      separatorChar ∉ packet.text := by
  have hencodable : (⟨.message, packet.toBytes⟩ : Engineio.Packet).Encodable ↔
      separatorChar ∉ packet.text := by
    simp [Engineio.Packet.Encodable, packet.separator_mem_toBytes, packet.toBytes_ne_nil]
  have hutf8 : (Text.fromUtf8 packet.toBytes).isSome := Text.isSome_fromUtf8_iff.mpr ⟨_, rfl⟩
  by_cases hpolling : transport = .polling
  · rw [Engineio.Packet.Survives, if_pos hpolling, hencodable]
  · simp [Engineio.Packet.Survives, hpolling, hencodable, hutf8]

/-- A packet travels when each of its engine.io packets survives. -/
theorem Packet.travels_iff (packet : Packet) :
    packet.Travels transport ↔ ∀ p ∈ packet.enginePackets, p.Survives transport := by
  have hattachment : ∀ data : Bytes,
      (⟨.messageBinary, data⟩ : Engineio.Packet).Survives transport ↔
        (transport ≠ .polling → data ≠ [] ∧ Engineio.separator ∉ data) := by
    intro data
    by_cases hpolling : transport = .polling
    · simp [Engineio.Packet.Survives, hpolling, Engineio.Packet.Encodable]
    · simp [Engineio.Packet.Survives, hpolling]
  rw [Packet.enginePackets, List.forall_mem_cons, packet.header_survives, Packet.Travels,
    List.forall_mem_map]
  simp only [hattachment]
  constructor
  · rintro ⟨htext, hdata⟩
    exact ⟨htext, fun data hmem hws => hdata hws data hmem⟩
  · rintro ⟨htext, hdata⟩
    exact ⟨htext, fun hws data hmem => hdata data hmem hws⟩

/-- Of a built packet, the separator in its text is one in its namespace or its data. -/
theorem Built.notMem_text {packet : Packet} (h : Built json packet)
    (hnsp : separatorChar ∉ packet.nsp) (hdata : separatorChar ∉ packet.data.getD []) :
    separatorChar ∉ packet.text := by
  rw [mem_text_iff]
  rintro (hmem | hmem)
  · exact hnsp hmem
  · have hplaceholder := fun num => notMem_of_visible (visible_placeholder num)
    have hne : separatorChar ∉ ['[', ',', ']'] := by decide
    simp only [List.mem_cons, List.not_mem_nil, or_false, not_or] at hne
    obtain ⟨hopen, hcomma, hclose⟩ := hne
    rcases h.attachments with ⟨hcount, hnone⟩ | ⟨data, hcount, hsome⟩
    · exact hdata (by simpa [Packet.dataText, hnone] using hmem)
    · rcases hd : packet.data with _ | eventType
      · simp [Packet.dataText, hsome, hd, hopen, hclose, hplaceholder] at hmem
      · apply hdata
        simpa [Packet.dataText, hsome, hd, hopen, hcomma, hclose, hplaceholder] using hmem

/-- One poll reads a built packet back from its carried engine.io packets. -/
theorem pollIncoming_carried {packet : Packet} (h : Built json packet) (rest : Incoming) :
    pollIncoming json
        (arriving (packet.enginePackets.map (Engineio.Packet.carried transport)) ++ rest) =
      (.ok packet, rest) := by
  have hdecode := h.readable.tryFrom_toBytes
  have hheader : Engineio.Packet.carried transport ⟨.message, packet.toBytes⟩ =
      ⟨.message, packet.toBytes⟩ := by
    simp [Engineio.Packet.carried]
  rcases h.attachments with ⟨hcount, hnone⟩ | ⟨data, hcount, hsome⟩
  · obtain ⟨packetType, nsp, text, id, attachmentCount, attachments⟩ := packet
    obtain rfl : attachmentCount = 0 := hcount
    obtain rfl : attachments = none := hnone
    simp only [Packet.enginePackets, Option.getD_none, List.map_nil, List.map_cons, hheader]
    simp [pollIncoming, isMessage, handleEngineioPacket, hdecode]
  · obtain ⟨packetType, nsp, text, id, attachmentCount, attachments⟩ := packet
    obtain rfl : attachmentCount = 1 := hcount
    obtain rfl : attachments = some [data] := hsome
    obtain ⟨packetId, hid, hmessage⟩ : ∃ packetId,
        Engineio.Packet.carried transport ⟨.messageBinary, data⟩ = ⟨packetId, data⟩ ∧
          isMessage ⟨packetId, data⟩ = true := by
      unfold Engineio.Packet.carried
      split
      · exact ⟨.message, rfl, rfl⟩
      · exact ⟨.messageBinary, rfl, rfl⟩
    have hpos : (0 : UInt8) < 1 := by decide
    have hone : (1 : UInt8).toNat = 1 := rfl
    have hcollect : collectAttachments 1 (.ok (some ⟨packetId, data⟩) :: rest) =
        (.ok [data], rest) := by
      rw [collectAttachments, if_pos hmessage]
      rfl
    simp only [Packet.enginePackets, Option.getD_some, List.map_nil, List.map_cons, hheader, hid]
    simp [pollIncoming, isMessage, handleEngineioPacket, hdecode, hpos, hone, hcollect]

end Travels

/-! ## From the sends of one client to the polls of another -/

/-- What a server puts on the connection: a socket.io packet, or an engine.io packet of the
heartbeat. -/
inductive Item where
  | packet (packet : Packet)
  | heartbeat (packet : Engineio.Packet)

/-- The engine.io packets of an item. -/
def Item.enginePackets : Item → List Engineio.Packet
  | .packet sent => sent.enginePackets
  | .heartbeat beat => [beat]

/-- The socket.io packet of an item. -/
def Item.packet? : Item → Option Packet
  | .packet sent => some sent
  | .heartbeat _ => none

/-- What a server may put there: built packets, and packets of the heartbeat. -/
def Item.Valid (json : SerdeJson) : Item → Prop
  | .packet sent => Built json sent
  | .heartbeat beat => isHeartbeat beat = true

/-- The items as the engine.io client hands them up. -/
def incomingOf (transport : TransportType) (items : List Item) : Incoming :=
  arriving ((items.flatMap Item.enginePackets).map (Engineio.Packet.carried transport))

/-- What a user should see of the items: the packets, in order, and then nothing. -/
def seen (items : List Item) : List (Polled Packet) :=
  (items.filterMap Item.packet?).map Polled.ok ++ [Polled.pending]

section Delivery

variable {b64 : Engineio.Base64Engine} {json : SerdeJson} {transport : TransportType}

theorem carried_heartbeat {beat : Engineio.Packet} (h : isHeartbeat beat = true) :
    beat.carried transport = beat := by
  have hid : beat.packetId ≠ .messageBinary := by
    intro e
    simp [isHeartbeat, e] at h
  simp [Engineio.Packet.carried, hid]

theorem isMessage_enginePackets {packet : Packet} {p : Engineio.Packet}
    (h : p ∈ packet.enginePackets) : isMessage (p.carried transport) = true := by
  rw [Packet.enginePackets, List.mem_cons, List.mem_map] at h
  rcases h with rfl | ⟨data, -, rfl⟩
  · simp [Engineio.Packet.carried, isMessage]
  · unfold Engineio.Packet.carried
    split <;> simp [isMessage]

theorem incomingOf_cons (item : Item) (items : List Item) :
    incomingOf transport (item :: items) =
      arriving (item.enginePackets.map (Engineio.Packet.carried transport)) ++
        incomingOf transport items := by
  rw [incomingOf, List.flatMap_cons, List.map_append, arriving_append]
  rfl

/-- A heartbeat between the packets is skipped. -/
theorem pollIncoming_heartbeat {beat : Engineio.Packet} (h : isHeartbeat beat = true)
    (items : List Item) :
    pollIncoming json (incomingOf transport (.heartbeat beat :: items)) =
      pollIncoming json (incomingOf transport items) := by
  have hskip := not_isMessage_of_isHeartbeat h
  rw [incomingOf_cons]
  simp [Item.enginePackets, carried_heartbeat h, pollIncoming, hskip]

/-- The polls of a socket over the items of a server show their packets, in order. -/
theorem Socket.received_items {items : List Item} (h : ∀ item ∈ items, item.Valid json) (n : Nat)
    (s : Socket) (hs : s.engineClient.incoming = incomingOf transport items) :
    Socket.received json n s = (seen items).take n := by
  induction items generalizing n s with
  | nil =>
      cases n with
      | zero => rfl
      | succ n => simp [Socket.received, Socket.poll, pollIncoming, hs, incomingOf, seen]
  | cons item items ih =>
      obtain ⟨hitem, hitems⟩ := List.forall_mem_cons.mp h
      cases item with
      | heartbeat beat =>
          have hrest := ih hitems n
            { s with engineClient := { s.engineClient with
                incoming := incomingOf transport items } } rfl
          have hskip := @pollIncoming_heartbeat json transport beat hitem items
          rw [show seen (.heartbeat beat :: items) = seen items from rfl, ← hrest]
          cases n with
          | zero => rfl
          | succ n => simp [Socket.received, Socket.poll, hs, hskip]
      | packet sent =>
          cases n with
          | zero => rfl
          | succ n =>
              have hrest := ih hitems n
                { engineClient := { s.engineClient with incoming := incomingOf transport items }
                  connected := handleSocketioPacket s.connected sent } rfl
              have hpoll := @pollIncoming_carried json transport sent hitem
                (incomingOf transport items)
              rw [← Item.enginePackets, ← incomingOf_cons] at hpoll
              simp [Socket.received, Socket.poll, hs, hpoll, hrest, seen, Item.packet?]

/-- Every engine.io packet of the items is handed up. -/
theorem arrivals_handed {packets : List Engineio.Packet}
    (h : ∀ p ∈ packets, isMessage p = true ∨ isHeartbeat p = true) (unexpected : Engineio.Report)
    (rest : List (Except Engineio.Error Engineio.Packet)) :
    arrivals (Engineio.react unexpected (packets.map .ok ++ rest)) =
      packets.map .packet ++ arrivals (Engineio.react unexpected rest) := by
  induction packets with
  | nil => rfl
  | cons p packets ih =>
      obtain ⟨hp, hpackets⟩ := List.forall_mem_cons.mp h
      have hhead : arrivals (Engineio.react unexpected (.ok p :: (packets.map .ok ++ rest))) =
          .packet p :: arrivals (Engineio.react unexpected (packets.map .ok ++ rest)) := by
        rcases hp with hmessage | hbeat
        · exact arrivals_message hmessage unexpected _
        · exact arrivals_heartbeat hbeat unexpected _
      rw [List.map_cons, List.cons_append, hhead, ih hpackets, List.map_cons, List.cons_append]

theorem pongs_cons {p : Engineio.Packet} (h : isMessage p = true ∨ isHeartbeat p = true)
    (unexpected : Engineio.Report) (rest : List (Except Engineio.Error Engineio.Packet)) :
    Engineio.pongs (Engineio.react unexpected (.ok p :: rest)) =
      Engineio.pongs (Engineio.react unexpected rest) + if p.packetId = .ping then 1 else 0 := by
  obtain ⟨packetId, data⟩ := p
  have hid : (packetId = .message ∨ packetId = .messageBinary) ∨
      packetId = .ping ∨ packetId = .noop := by
    simpa [isMessage, isHeartbeat] using h
  rcases hid with (rfl | rfl) | rfl | rfl <;>
    simp [Engineio.react, Engineio.Connection.handle, Engineio.Connection.emit,
      Engineio.Turn.goesOn, Engineio.pongs, Nat.add_comm]

/-- The engine.io client answers each ping with one pong. -/
theorem pongs_handed {packets : List Engineio.Packet}
    (h : ∀ p ∈ packets, isMessage p = true ∨ isHeartbeat p = true) (unexpected : Engineio.Report) :
    Engineio.pongs (Engineio.react unexpected (packets.map .ok)) =
      packets.countP fun p => p.packetId = .ping := by
  induction packets with
  | nil => rfl
  | cons p packets ih =>
      obtain ⟨hp, hpackets⟩ := List.forall_mem_cons.mp h
      rw [List.map_cons, List.countP_cons, pongs_cons hp, ih hpackets]
      simp

theorem handed_of_valid {items : List Item} (h : ∀ item ∈ items, item.Valid json) :
    ∀ p ∈ (items.flatMap Item.enginePackets).map (Engineio.Packet.carried transport),
      isMessage p = true ∨ isHeartbeat p = true := by
  intro p hp
  obtain ⟨q, hq, rfl⟩ := List.mem_map.mp hp
  obtain ⟨item, hitem, hin⟩ := List.mem_flatMap.mp hq
  cases item with
  | packet sent => exact .inl (isMessage_enginePackets hin)
  | heartbeat beat =>
      obtain rfl := List.mem_singleton.mp hin
      have hbeat : isHeartbeat q = true := h _ hitem
      rw [carried_heartbeat hbeat]
      exact .inr hbeat

/-- Whatever brings the engine.io packets of the items, a user of either client sees the packets of
the items, and every ping is answered. -/
theorem over_items {items : List Item} (h : ∀ item ∈ items, item.Valid json)
    {incoming : List (Except Engineio.Error Bytes)} (hnil : ∀ item ∈ incoming, item ≠ .ok [])
    (hdecode : Engineio.decodeBodies b64 incoming =
      ((items.flatMap Item.enginePackets).map (Engineio.Packet.carried transport)).map .ok) :
    (∀ n, polledOver b64 json n incoming = (seen items).take n) ∧
      (∀ n, streamedOver b64 json n incoming = ((seen items).take n).map .returned) ∧
      Engineio.pongs (clientTurns b64 incoming) =
        (((items.flatMap Item.enginePackets).map (Engineio.Packet.carried transport)).countP
          fun p => p.packetId = .ping) ∧
      Engineio.pongs (streamTurns b64 incoming) =
        ((items.flatMap Item.enginePackets).map (Engineio.Packet.carried transport)).countP
          fun p => p.packetId = .ping := by
  have hhanded := @handed_of_valid json transport items h
  have harrivals : ∀ unexpected,
      arrivals (Engineio.react unexpected (Engineio.decodeBodies b64 incoming)) =
        ((items.flatMap Item.enginePackets).map (Engineio.Packet.carried transport)).map
          .packet := by
    intro unexpected
    have hall := arrivals_handed hhanded unexpected []
    rw [List.append_nil] at hall
    rw [hdecode, hall]
    exact List.append_nil _
  have hpolled : ∀ unexpected,
      (arrivals (Engineio.react unexpected (Engineio.decodeBodies b64 incoming))).map
        Arrival.polled = incomingOf transport items := by
    intro unexpected
    rw [harrivals, List.map_map]
    rfl
  refine ⟨?_, ?_, ?_, ?_⟩
  · intro n
    rw [polledOver, clientTurns_eq, hpolled]
    exact Socket.received_items h n (Socket.opened _) rfl
  · intro n
    have hopen : .ended ∉ arrivals (Engineio.react (.error .invalidPacket)
        (Engineio.decodeBodies b64 incoming)) := by
      rw [harrivals]
      simp
    rw [streamedOver, streamTurns_eq hnil, Async.Socket.opened,
      received_streamed n (Socket.opened _) true _ rfl hopen]
    exact congrArg _ (Socket.received_items h n (Socket.opened _) (hpolled _))
  · rw [clientTurns_eq, hdecode]
    exact pongs_handed hhanded _
  · rw [streamTurns_eq hnil, hdecode]
    exact pongs_handed hhanded _

/-! ### Sent by a client -/

/-- The packets reach a user of either client at the other side, in order and with all their fields,
and nothing else does. -/
structure Delivered (b64 : Engineio.Base64Engine) (json : SerdeJson) (transport : TransportType)
    (packets : List Packet) : Prop where
  polled : ∀ n, polledOver b64 json n (Engineio.deliveries b64 transport (Socket.wire packets)) =
    (packets.map Polled.ok ++ [Polled.pending]).take n
  streamed : ∀ n,
    streamedOver b64 json n (Engineio.deliveries b64 transport (Socket.wire packets)) =
      ((packets.map Polled.ok ++ [Polled.pending]).take n).map .returned

theorem pollIncoming_message {header : Engineio.Packet} (h : isMessage header = true)
    (incoming : Incoming) :
    pollIncoming json (.ok (some header) :: incoming) =
      handleEngineioPacket json header incoming := by
  rw [pollIncoming, if_pos h]

theorem handleEngineioPacket_one {header : Engineio.Packet} {socketPacket : Packet}
    (hdecode : Packet.tryFrom json header.data = .ok socketPacket)
    (hcount : socketPacket.attachmentCount = 1) (incoming : Incoming) :
    (handleEngineioPacket json header incoming).1 = (collectAttachments 1 incoming).1.map
      fun attachments => { socketPacket with attachments := some attachments } := by
  have hpos : (0 : UInt8) < 1 := by decide
  have hone : (1 : UInt8).toNat = 1 := rfl
  simp [handleEngineioPacket, hdecode, hcount, hpos, hone]

/-- The header of a packet that comes out as it was holds no separator. -/
theorem header_of_received {packet : Packet} (hbuilt : Built json packet)
    {unexpected : Engineio.Report} {rest : List (Except Engineio.Error Bytes)} {after : Incoming}
    (h : pollIncoming json ((arrivals (Engineio.react unexpected
        (Engineio.decodeBodies b64 (.ok (52 :: packet.toBytes) :: rest)))).map Arrival.polled) =
      (.ok packet, after)) : separatorChar ∉ packet.text := by
  have hid : Engineio.PacketId.tryFrom 52 = .ok .message := rfl
  cases hbody : Engineio.Payload.tryFrom b64 (52 :: packet.toBytes) with
  | error e =>
      rw [Engineio.decodeBodies_cons_error (List.cons_ne_nil _ _) hbody, arrivals_error] at h
      simp [pollIncoming, Arrival.polled] at h
  | ok ps =>
      obtain ⟨cut, more, rfl, hsep, -⟩ := Engineio.Payload.message_of_tryFrom hid hbody
      rw [Engineio.decodeBodies_cons_ok (List.cons_ne_nil _ _) hbody, List.map_cons,
        List.cons_append, arrivals_message rfl] at h
      -- the poll decodes what is in front of the first separator
      have hhandle : (handleEngineioPacket json ⟨.message, cut⟩
          ((arrivals (Engineio.react unexpected
            (more.map .ok ++ Engineio.decodeBodies b64 rest))).map Arrival.polled)).1 =
          .ok packet := by
        rw [List.map_cons, Arrival.polled, pollIncoming_message rfl] at h
        exact congrArg Prod.fst h
      cases hdecode : Packet.tryFrom json cut with
      | error e => simp [handleEngineioPacket, hdecode] at hhandle
      | ok socketPacket =>
          obtain ⟨attachments, -, hpacket⟩ := handleEngineioPacket_payloads hdecode hhandle
          obtain ⟨hnsp, hdata⟩ := Packet.notMem_of_tryFrom hsep hdecode
          apply hbuilt.notMem_text
          · rw [hpacket]
            split <;> exact hnsp
          · rw [hpacket]
            split <;> exact hdata

/-- The attachment of a packet that comes out over a websocket as it was is not empty and holds no
separator. -/
theorem attachment_of_received {header : Engineio.Packet} {packet socketPacket : Packet}
    {data : Bytes} (hmessage : isMessage header = true)
    (hdecode : Packet.tryFrom json header.data = .ok socketPacket)
    (hcount : socketPacket.attachmentCount = 1) (hdata : packet.attachments = some [data])
    {unexpected : Engineio.Report} {rest : List (Except Engineio.Error Bytes)} {after : Incoming}
    (h : pollIncoming json (.ok (some header) :: (arrivals (Engineio.react unexpected
        (Engineio.decodeBodies b64 (.ok (Engineio.PacketId.message.toU8 :: data) :: rest)))).map
          Arrival.polled) = (.ok packet, after)) : data ≠ [] ∧ Engineio.separator ∉ data := by
  have hid : Engineio.PacketId.tryFrom Engineio.PacketId.message.toU8 = .ok .message := rfl
  rw [pollIncoming_message hmessage] at h
  have hcollect := congrArg Prod.fst h
  rw [handleEngineioPacket_one hdecode hcount] at hcollect
  cases hbody : Engineio.Payload.tryFrom b64 (Engineio.PacketId.message.toU8 :: data) with
  | error e =>
      rw [Engineio.decodeBodies_cons_error (List.cons_ne_nil _ _) hbody,
        arrivals_error] at hcollect
      simp [Arrival.polled, collectAttachments, Polled.map] at hcollect
  | ok ps =>
      obtain ⟨cut, more, rfl, hsep, hne⟩ := Engineio.Payload.message_of_tryFrom hid hbody
      rw [Engineio.decodeBodies_cons_ok (List.cons_ne_nil _ _) hbody, List.map_cons,
        List.cons_append, arrivals_message rfl] at hcollect
      obtain rfl : { socketPacket with attachments := some [cut] } = packet := by
        simpa [Arrival.polled, collectAttachments, isMessage] using hcollect
      obtain rfl : cut = data := by simpa using hdata
      exact ⟨hne, hsep⟩

theorem Socket.poll_of_received {packet : Packet} {packets : List (Polled Packet)} {n : Nat}
    {s : Socket} (h : .ok packet :: packets <+: Socket.received json n s) :
    ∃ m s', s.poll json = (.ok packet, s') ∧ packets <+: Socket.received json m s' := by
  cases n with
  | zero => simp [Socket.received] at h
  | succ m =>
      rw [Socket.received] at h
      split at h
      · rename_i polled s' hpoll
        obtain ⟨heq, hrest⟩ := List.cons_prefix_cons.mp h
        obtain rfl := Polled.ok.inj heq
        exact ⟨m, s', hpoll, hrest⟩
      · rename_i result s' hno hpoll
        obtain ⟨heq, -⟩ := List.cons_prefix_cons.mp h
        exact absurd heq.symm (hno packet)

theorem Socket.pollIncoming_of_poll {packet : Packet} {s s' : Socket}
    (h : s.poll json = (.ok packet, s')) :
    pollIncoming json s.engineClient.incoming = (.ok packet, s'.engineClient.incoming) := by
  rcases hpoll : pollIncoming json s.engineClient.incoming with ⟨result, incoming⟩
  rw [Socket.poll, hpoll] at h
  cases result with
  | ok polled =>
      obtain ⟨hpacket, rfl⟩ := Prod.mk.inj h
      rw [hpacket]
  | none => simp at h
  | error e => simp at h
  | pending => simp at h

/-- The header is always sent, as the text of a `Message` packet. -/
theorem deliveries_header (packet : Packet) (more : List Engineio.Packet) :
    Engineio.deliveries b64 transport (⟨.message, packet.toBytes⟩ :: more) =
      .ok (52 :: packet.toBytes) :: Engineio.deliveries b64 transport more := by
  have hutf8 : (Text.fromUtf8 packet.toBytes).isSome := Text.isSome_fromUtf8_iff.mpr ⟨_, rfl⟩
  have haccepted : (Engineio.Packet.transmit b64 transport ⟨.message, packet.toBytes⟩).isSome := by
    by_cases hpolling : transport = .polling
    · simp [hpolling, Engineio.Packet.transmit_polling]
    · simp [Engineio.Packet.transmit_websocket hpolling, hutf8]
  have hbuffer : Engineio.Packet.buffer b64 transport ⟨.message, packet.toBytes⟩ =
      52 :: packet.toBytes := by
    rw [Engineio.Packet.buffer, if_neg (by simp)]
    rfl
  rw [Engineio.deliveries_cons_of_accepted haccepted, hbuffer]

/-- Over a websocket an attachment is received behind a raw id byte. -/
theorem deliveries_attachment (hws : transport ≠ .polling) (data : Bytes)
    (more : List Engineio.Packet) :
    Engineio.deliveries b64 transport (⟨.messageBinary, data⟩ :: more) =
      .ok (Engineio.PacketId.message.toU8 :: data) ::
        Engineio.deliveries b64 transport more := by
  have haccepted : (Engineio.Packet.transmit b64 transport ⟨.messageBinary, data⟩).isSome := by
    simp [Engineio.Packet.transmit_websocket hws]
  have hbuffer : Engineio.Packet.buffer b64 transport ⟨.messageBinary, data⟩ =
      Engineio.PacketId.message.toU8 :: data := by
    rw [Engineio.Packet.buffer, if_pos ⟨hws, rfl⟩]
  rw [Engineio.deliveries_cons_of_accepted haccepted, hbuffer]

/-- A packet that is polled as it was sent travels, whatever is sent behind it. -/
theorem Packet.travels_of_polled {packet : Packet} (hbuilt : Built json packet)
    {unexpected : Engineio.Report} {more : List Engineio.Packet} {after : Incoming}
    (h : pollIncoming json ((arrivals (Engineio.react unexpected (Engineio.decodeBodies b64
        (Engineio.deliveries b64 transport (packet.enginePackets ++ more))))).map
          Arrival.polled) = (.ok packet, after)) : packet.Travels transport := by
  rw [Packet.enginePackets, List.cons_append, deliveries_header] at h
  have htext := header_of_received hbuilt h
  refine ⟨htext, fun hws data hdata => ?_⟩
  rcases hbuilt.attachments with ⟨-, hnone⟩ | ⟨binData, hcount, hsome⟩
  · simp [hnone] at hdata
  · obtain rfl : data = binData := by simpa [hsome] using hdata
    have hframed : Engineio.Payload.tryFrom b64 (52 :: packet.toBytes) =
        .ok [⟨.message, packet.toBytes⟩] := (framedAlone_iff_text b64 packet).mpr htext
    rw [Engineio.decodeBodies_cons_ok (List.cons_ne_nil _ _) hframed, hsome] at h
    simp only [Option.getD_some, List.map_cons, List.map_nil, List.cons_append, List.nil_append,
      deliveries_attachment hws] at h
    rw [arrivals_message rfl, List.map_cons, Arrival.polled] at h
    have hmessage : isMessage ⟨.message, packet.toBytes⟩ = true := rfl
    exact attachment_of_received hmessage hbuilt.readable.tryFrom_toBytes hcount hsome h

/-- A packet that travels is polled, and what is sent behind it is left. -/
theorem pollIncoming_deliveries {packet : Packet} (hbuilt : Built json packet)
    (htravels : packet.Travels transport) (unexpected : Engineio.Report)
    (more : List Engineio.Packet) :
    pollIncoming json ((arrivals (Engineio.react unexpected (Engineio.decodeBodies b64
        (Engineio.deliveries b64 transport (packet.enginePackets ++ more))))).map
          Arrival.polled) =
      (.ok packet, (arrivals (Engineio.react unexpected (Engineio.decodeBodies b64
        (Engineio.deliveries b64 transport more)))).map Arrival.polled) := by
  have hhanded : ∀ p ∈ packet.enginePackets.map (Engineio.Packet.carried transport),
      isMessage p = true ∨ isHeartbeat p = true := by
    intro p hp
    obtain ⟨q, hq, rfl⟩ := List.mem_map.mp hp
    exact .inl (isMessage_enginePackets hq)
  have hdecode := @Engineio.decodeBodies_of_survive b64 transport packet.enginePackets
    ((packet.travels_iff).mp htravels) (Engineio.deliveries b64 transport more)
  have hmap : (packet.enginePackets.map fun p =>
      (Except.ok (p.carried transport) : Except Engineio.Error Engineio.Packet)) =
      (packet.enginePackets.map (Engineio.Packet.carried transport)).map .ok := by
    rw [List.map_map]
    rfl
  rw [Engineio.deliveries_append, hdecode, hmap, arrivals_handed hhanded, List.map_append,
    List.map_map]
  exact pollIncoming_carried hbuilt _

/-- Packets that are polled as they were sent travel. -/
theorem travels_of_received {packets : List Packet} (h : ∀ packet ∈ packets, Built json packet)
    {unexpected : Engineio.Report} {n : Nat} {s : Socket}
    (hs : s.engineClient.incoming = (arrivals (Engineio.react unexpected (Engineio.decodeBodies b64
      (Engineio.deliveries b64 transport (packets.flatMap Packet.enginePackets))))).map
        Arrival.polled)
    (hseen : packets.map Polled.ok <+: Socket.received json n s) :
    ∀ packet ∈ packets, packet.Travels transport := by
  induction packets generalizing n s with
  | nil => simp
  | cons packet packets ih =>
      obtain ⟨hbuilt, hpackets⟩ := List.forall_mem_cons.mp h
      obtain ⟨m, s', hpoll, hrest⟩ := Socket.poll_of_received hseen
      have hincoming := Socket.pollIncoming_of_poll hpoll
      rw [hs, List.flatMap_cons] at hincoming
      have htravels := Packet.travels_of_polled hbuilt hincoming
      have hone := @pollIncoming_deliveries b64 json transport packet hbuilt htravels unexpected
        (packets.flatMap Packet.enginePackets)
      -- what is left behind it is what the other packets bring
      have hleft := (Prod.mk.inj (hincoming.symm.trans hone)).2
      exact List.forall_mem_cons.mpr ⟨htravels, ih hpackets hleft hrest⟩

/-- Packets that travel reach the user at the other side. -/
theorem delivered_of_travels {packets : List Packet} (h : ∀ packet ∈ packets, Built json packet)
    (htravels : ∀ packet ∈ packets, packet.Travels transport) :
    Delivered b64 json transport packets := by
  have hvalid : ∀ item ∈ packets.map Item.packet, item.Valid json := by
    intro item hitem
    obtain ⟨packet, hpacket, rfl⟩ := List.mem_map.mp hitem
    exact h packet hpacket
  have hengine : (packets.map Item.packet).flatMap Item.enginePackets =
      packets.flatMap Packet.enginePackets := by
    rw [List.flatMap_map]
    rfl
  have hseen : seen (packets.map Item.packet) = packets.map Polled.ok ++ [Polled.pending] := by
    rw [seen, List.filterMap_map]
    congr 2
    exact List.filterMap_some
  have hsurvive : ∀ p ∈ packets.flatMap Packet.enginePackets, p.Survives transport := by
    intro p hp
    obtain ⟨packet, hpacket, hin⟩ := List.mem_flatMap.mp hp
    exact packet.travels_iff.mp (htravels packet hpacket) p hin
  have hdecode := @Engineio.decodeBodies_of_survive b64 transport _ hsurvive []
  rw [List.append_nil, show Engineio.decodeBodies b64 [] = [] from rfl,
    List.append_nil] at hdecode
  obtain ⟨hpolled, hstreamed, -⟩ := @over_items b64 json transport _ hvalid
    (Engineio.deliveries b64 transport (Socket.wire packets)) Engineio.deliveries_ne_nil (by
      rw [Socket.wire_eq, hdecode, hengine, List.map_map]
      rfl)
  rw [hseen] at hpolled hstreamed
  exact ⟨hpolled, hstreamed⟩

/-- **Client to client.**  Built packets reach the user at the other side, of either client and in
order, exactly when each of them travels: no separator in its text and, over a websocket, no empty
attachment and none with a separator byte. -/
theorem delivered_iff (b64 : Engineio.Base64Engine) (transport : TransportType)
    {packets : List Packet} (h : ∀ packet ∈ packets, Built json packet) :
    Delivered b64 json transport packets ↔ ∀ packet ∈ packets, packet.Travels transport := by
  constructor
  · intro hdelivered
    have hall := hdelivered.polled packets.length
    rw [List.take_append_of_le_length (by simp), List.take_of_length_le (by simp)] at hall
    rw [polledOver, clientTurns_eq, Socket.wire_eq] at hall
    have hincoming : ∀ incoming, (Socket.opened incoming).engineClient.incoming = incoming :=
      fun _ => rfl
    exact travels_of_received h (hincoming _) (by rw [hall])
  · exact delivered_of_travels h

theorem notMem_text_placeholderEvent : separatorChar ∉ placeholderEvent.text := by decide
theorem notMem_text_largestAck : separatorChar ∉ largestAck.text := by decide

theorem built_placeholderEvent_largestAck :
    ∀ packet ∈ [placeholderEvent, largestAck], Built .integers packet := by
  simp only [List.forall_mem_cons]
  exact ⟨built_placeholderEvent, built_largestAck, fun _ h => by cases h⟩

theorem travels_placeholderEvent_largestAck :
    ∀ packet ∈ [placeholderEvent, largestAck], packet.Travels .polling := by
  simp only [List.forall_mem_cons]
  exact ⟨⟨notMem_text_placeholderEvent, fun h => absurd rfl h⟩,
    ⟨notMem_text_largestAck, fun h => absurd rfl h⟩, fun _ h => by cases h⟩

/-- A binary attachment with a separator byte in it passes over polling and not over a websocket. -/
theorem delivered_placeholderEvent :
    Delivered .standard .integers .polling [placeholderEvent, largestAck] ∧
      ¬ Delivered .standard .integers .websocket [placeholderEvent, largestAck] := by
  have hbuilt := built_placeholderEvent_largestAck
  refine ⟨(delivered_iff .standard .polling hbuilt).mpr travels_placeholderEvent_largestAck, ?_⟩
  intro hdelivered
  have htravels := (delivered_iff .standard .websocket hbuilt).mp hdelivered placeholderEvent
    List.mem_cons_self
  have hdata := htravels.2 (by decide) [0x1e, 0xff] List.mem_cons_self
  exact absurd List.mem_cons_self hdata.2

/-! ### Grouped by a server -/

/-- An item that stays in its cells of a polling body. -/
def Item.Clean : Item → Prop
  | .packet sent => separatorChar ∉ sent.text
  | .heartbeat beat => Engineio.separator ∉ beat.data

/-- Polling bodies with the given engine.io packets, each of them in one chunk. -/
def bodiesOf (b64 : Engineio.Base64Engine) (groups : List (List Engineio.Packet)) :
    List (Except Engineio.Error Bytes) :=
  groups.map fun group => .ok (Engineio.Payload.toBytes b64 group)

theorem Item.encodable {item : Item} (hvalid : item.Valid json) (hclean : item.Clean) :
    ∀ p ∈ item.enginePackets, p.Encodable := by
  cases item with
  | packet sent =>
      have htravels : sent.Travels .polling := ⟨hclean, fun h => absurd rfl h⟩
      intro p hp
      have hsurvive := sent.travels_iff.mp htravels p hp
      rwa [Engineio.Packet.Survives, if_pos rfl] at hsurvive
  | heartbeat beat =>
      intro p hp
      obtain rfl := List.mem_singleton.mp hp
      have hbeat : isHeartbeat p = true := hvalid
      refine ⟨fun _ => hclean, fun hid => ?_⟩
      simp [isHeartbeat, hid] at hbeat

/-- However packets are grouped into bodies, the bodies decode to them. -/
theorem decodeBodies_grouped {groups : List (List Engineio.Packet)}
    (hne : ∀ group ∈ groups, group ≠ [])
    (hencodable : ∀ group ∈ groups, ∀ p ∈ group, p.Encodable) :
    (∀ item ∈ bodiesOf b64 groups, item ≠ .ok []) ∧
      Engineio.decodeBodies b64 (bodiesOf b64 groups) = groups.flatten.map .ok := by
  induction groups with
  | nil => exact ⟨by simp [bodiesOf], rfl⟩
  | cons group groups ih =>
      obtain ⟨hgroup, hgroups⟩ := List.forall_mem_cons.mp hne
      obtain ⟨hpackets, hothers⟩ := List.forall_mem_cons.mp hencodable
      obtain ⟨hnil, hrest⟩ := ih hgroups hothers
      have hdecode := @Engineio.Payload.tryFrom_toBytes b64 group hgroup hpackets
      have hbody : Engineio.Payload.toBytes b64 group ≠ [] := by
        intro e
        rw [e, Engineio.Payload.tryFrom, List.splitOn_nil,
          Engineio.mapM_cons_error (Engineio.Packet.tryFrom_nil b64)] at hdecode
        simp at hdecode
      refine ⟨?_, ?_⟩
      · rw [bodiesOf, List.map_cons, List.forall_mem_cons]
        exact ⟨by simpa using hbody, hnil⟩
      · rw [bodiesOf, List.map_cons, Engineio.decodeBodies_cons_ok hbody hdecode,
          List.flatten_cons, List.map_append]
        exact congrArg _ hrest

/-- **The grouping and the heartbeat do not show.**  However a server cuts its engine.io packets
into polling bodies, also between a header and its attachment, and wherever it puts pings and noops
between its packets, a user of either client sees the packets in order and nothing else, and
either client answers every ping with one pong.  The packets are built ones, and neither their
texts nor the data of pings and noops holds a separator. -/
theorem received_grouped {items : List Item} {groups : List (List Engineio.Packet)}
    (hvalid : ∀ item ∈ items, item.Valid json) (hclean : ∀ item ∈ items, item.Clean)
    (hne : ∀ group ∈ groups, group ≠ [])
    (hgroups : groups.flatten = items.flatMap Item.enginePackets) :
    (∀ n, polledOver b64 json n (bodiesOf b64 groups) = (seen items).take n) ∧
      (∀ n, streamedOver b64 json n (bodiesOf b64 groups) =
        ((seen items).take n).map .returned) ∧
      Engineio.pongs (clientTurns b64 (bodiesOf b64 groups)) =
        ((items.flatMap Item.enginePackets).countP fun p => p.packetId = .ping) ∧
      Engineio.pongs (streamTurns b64 (bodiesOf b64 groups)) =
        (items.flatMap Item.enginePackets).countP fun p => p.packetId = .ping := by
  have hencodable : ∀ group ∈ groups, ∀ p ∈ group, p.Encodable := by
    intro group hgroup p hp
    have hmem : p ∈ items.flatMap Item.enginePackets :=
      hgroups ▸ List.mem_flatten.mpr ⟨group, hgroup, hp⟩
    obtain ⟨item, hitem, hin⟩ := List.mem_flatMap.mp hmem
    exact Item.encodable (hvalid item hitem) (hclean item hitem) p hin
  obtain ⟨hnil, hdecode⟩ := @decodeBodies_grouped b64 groups hne hencodable
  have hcarried : (items.flatMap Item.enginePackets).map (Engineio.Packet.carried .polling) =
      items.flatMap Item.enginePackets := by
    rw [show Engineio.Packet.carried .polling = id from funext Engineio.Packet.carried_polling,
      List.map_id]
  have hall := @over_items b64 json .polling items hvalid (bodiesOf b64 groups) hnil
    (by rw [hdecode, hgroups, hcarried])
  rwa [hcarried] at hall

/-- A ping between two packets, and a body that ends between a header and its attachment. -/
theorem received_grouped_placeholderEvent :
    polledOver .standard .integers 3 (bodiesOf .standard
        [[⟨.message, placeholderEvent.toBytes⟩],
          [⟨.messageBinary, [0x1e, 0xff]⟩, ⟨.ping, []⟩, ⟨.message, largestAck.toBytes⟩]]) =
      (seen [.packet placeholderEvent, .heartbeat ⟨.ping, []⟩, .packet largestAck]).take 3 := by
  have hvalid : ∀ item ∈ [Item.packet placeholderEvent, .heartbeat ⟨.ping, []⟩, .packet largestAck],
      item.Valid .integers := by
    simp only [List.forall_mem_cons]
    exact ⟨built_placeholderEvent, rfl, built_largestAck, fun _ h => by cases h⟩
  have hclean : ∀ item ∈ [Item.packet placeholderEvent, .heartbeat ⟨.ping, []⟩, .packet largestAck],
      item.Clean := by
    simp only [List.forall_mem_cons]
    exact ⟨notMem_text_placeholderEvent, List.not_mem_nil, notMem_text_largestAck,
      fun _ h => by cases h⟩
  have hgroups : ([[⟨.message, placeholderEvent.toBytes⟩],
      [⟨.messageBinary, [0x1e, 0xff]⟩, ⟨.ping, []⟩, ⟨.message, largestAck.toBytes⟩]] :
        List (List Engineio.Packet)).flatten =
      [Item.packet placeholderEvent, .heartbeat ⟨.ping, []⟩, .packet largestAck].flatMap
        Item.enginePackets := by
    simp [Item.enginePackets, Packet.enginePackets, placeholderEvent, largestAck]
  exact (received_grouped hvalid hclean (by simp) hgroups).1 3

end Delivery

end TfSocketio.Socketio
