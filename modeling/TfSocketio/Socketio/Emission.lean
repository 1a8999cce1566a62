/-
# Socketio.Emission — from the emit of one client to the callbacks of another, through all layers.

`emit` and `emit_with_ack` make a packet of an event and a payload; the engine.io packets of that go
over a transport, and what the other client polls selects its callbacks.  `heard_iff` says for which
emissions these are the callbacks for the event and the payload that were emitted, in order and once
each: a text payload wants arguments that are read as they were printed and another name than
`open`, and a binary payload a name that JSON does not escape, no ack, and over a websocket bytes
without a separator.

Left out are the invocations of the `Error` callback for what cannot be read.
-/
import TfSocketio.Socketio.EndToEnd
import TfSocketio.Socketio.EventIdentity

namespace TfSocketio.Socketio

open Engineio (Bytes TransportType)
open Text (Str)

variable {json : SerdeJson} (reader : FromStr json)

/-! ## Emissions -/

/-- A call of `emit`, or of `emit_with_ack` with the id it has drawn. -/
structure Emission (json : SerdeJson) where
  name : Str
  payload : Payload json
  id : Option (Fin 999)

def Emission.event (e : Emission json) : Event := Event.ofString e.name

def Emission.ackId (e : Emission json) : Option Int := e.id.map fun id => (id.val : Int)

/-- The packet an emission sends; an emission that cannot build one sends nothing. -/
def Emission.packets (nsp : Str) (e : Emission json) : List Packet :=
  match Packet.newFromPayload json e.payload e.event nsp e.ackId with
  | .ok packet => [packet]
  | .error _ => []

/-- The callbacks for the event, with the payload and the id that were emitted. -/
def Emission.calls (callbacks : Callbacks) (e : Emission json) : List (Call json) :=
  callback callbacks e.event e.payload e.ackId

/-- The callbacks a polled packet invokes. -/
def callsOf (nsp : Str) (callbacks : Callbacks) : Polled Packet → List (Call json)
  | .ok packet => dispatchEvent reader nsp callbacks packet
  | .none => []
  | .error _ => []
  | .pending => []

/-- The callbacks a streamed packet invokes. -/
def callsOfStreamed (nsp : Str) (callbacks : Callbacks) :
    Async.Streamed Packet → List (Call json)
  | .returned outcome => callsOf reader nsp callbacks outcome
  | .panicked => []

/-- What a transport delivers of emissions. -/
def emitted (b64 : Engineio.Base64Engine) (transport : TransportType) (nsp : Str)
    (emissions : List (Emission json)) : List (Except Engineio.Error Bytes) :=
  Engineio.deliveries b64 transport (Socket.wire (emissions.flatMap (Emission.packets nsp)))

/-- However many packets the other client has polled or streamed, they select the callbacks for as
many emissions. -/
structure Heard (b64 : Engineio.Base64Engine) (transport : TransportType) (nsp : Str)
    (emissions : List (Emission json)) : Prop where
  polled : ∀ callbacks n,
    (polledOver b64 json n (emitted b64 transport nsp emissions)).flatMap
        (callsOf reader nsp callbacks) =
      (emissions.take n).flatMap (Emission.calls callbacks)
  streamed : ∀ callbacks n,
    (streamedOver b64 json n (emitted b64 transport nsp emissions)).flatMap
        (callsOfStreamed reader nsp callbacks) =
      (emissions.take n).flatMap (Emission.calls callbacks)

/-- What an emission needs to be heard as it was emitted. -/
def Emission.Reaches (reader : SerdeReader json) (transport : TransportType) (e : Emission json) :
    Prop :=
  match e.payload with
  | .text args _ => args ≠ [] ∧ lowercase e.name ≠ "open".toList ∧
      ∀ value ∈ args, reader.Faithful value
  | .binary bytes _ => e.id = none ∧ e.name.all Json.isPlain = true ∧
      (transport ≠ .polling → bytes ≠ [] ∧ Engineio.separator ∉ bytes)
  | .string _ _ => False

/-- A namespace that can be read, and keeps a packet's text in one piece. -/
def Clear (nsp : Str) : Prop := ',' ∉ nsp ∧ separatorChar ∉ nsp

/-! ## The packet of an emission -/

section Packets

variable {nsp : Str} {e : Emission json}

theorem isAckId_ackId (e : Emission json) : IsAckId e.ackId := by
  intro i hi
  obtain ⟨id, -, rfl⟩ := Option.map_eq_some_iff.mp hi
  have hlt := id.isLt
  omega

/-- Every emission sends one packet. -/
theorem Emission.packets_eq (nsp : Str) (e : Emission json) : ∃ packet,
    Packet.newFromPayload json e.payload e.event nsp e.ackId = .ok packet ∧
      e.packets nsp = [packet] := by
  obtain ⟨packet, hpacket⟩ : ∃ packet,
      Packet.newFromPayload json e.payload e.event nsp e.ackId = .ok packet := by
    cases e.payload with
    | binary data ackId => exact ⟨_, rfl⟩
    | text data ackId => exact ⟨_, rfl⟩
    | string data ackId => exact ⟨_, rfl⟩
  refine ⟨packet, hpacket, ?_⟩
  rw [Emission.packets, hpacket]

/-- With everything registered, the invocations say for which event and payload they are. -/
theorem calls_inj {event event' : Event} {payload payload' : Payload json} {id id' : Option Int}
    (h : callback ⟨fun _ => true, true⟩ event payload id =
      callback ⟨fun _ => true, true⟩ event' payload' id') :
    event = event' ∧ payload.setAckId id = payload'.setAckId id' := by
  have hhead := congrArg List.head? h
  simpa only [callback, if_true, List.singleton_append, List.head?_cons, Option.some.injEq,
    Call.on.injEq] using hhead

theorem callback_ne_nil (event : Event) (payload : Payload json) (id : Option Int) :
    callback ⟨fun _ => true, true⟩ event payload id ≠ [] := by
  simp [callback]

/-- A packet that selects callbacks is of the namespace. -/
theorem nsp_of_dispatch {packet : Packet} {event : Event} {payload : Payload json}
    {id : Option Int} (h : ∀ callbacks, dispatchEvent reader nsp callbacks packet =
      callback callbacks event payload id) : packet.nsp = nsp := by
  by_contra hne
  have hnone : handlerOf nsp packet = none := if_neg hne
  have hcall := h ⟨fun _ => true, true⟩
  rw [dispatchEvent, hnone] at hcall
  exact callback_ne_nil _ _ _ hcall.symm

/-- A packet that is decoded is of a namespace without a comma. -/
theorem Packet.no_comma_of_tryFrom {bytes : Bytes} {packet : Packet}
    (h : Packet.tryFrom json bytes = .ok packet) : ',' ∉ packet.nsp := by
  unfold Packet.tryFrom at h
  split at h
  · cases h
  · rename_i text htext
    cases text with
    | nil => cases h
    | cons c text =>
        simp only [Packet.ofText, bind, Except.bind] at h
        split at h
        · cases h
        · split at h
          · cases h
          · split at h
            · cases h
            · rename_i named hnsp
              obtain ⟨-, hnamed⟩ := decodeIdAndData_fields h
              rw [hnamed]
              exact (decodeNsp_eq_ok.mp hnsp).no_comma

end Packets

/-! ## What is polled of an emission -/

section Polled

variable {b64 : Engineio.Base64Engine} {transport : TransportType} {nsp : Str}
  {unexpected : Engineio.Report}

/-- Whatever a poll makes of a header, it makes of what is in front of the first separator. -/
theorem received_of_header {header : Bytes} {packet : Packet}
    {rest : List (Except Engineio.Error Bytes)} {after : Incoming}
    (h : pollIncoming json ((arrivals (Engineio.react unexpected
        (Engineio.decodeBodies b64 (.ok (52 :: header) :: rest)))).map Arrival.polled) =
      (.ok packet, after)) : ',' ∉ packet.nsp ∧ separatorChar ∉ packet.nsp := by
  have hid : Engineio.PacketId.tryFrom 52 = .ok .message := rfl
  cases hbody : Engineio.Payload.tryFrom b64 (52 :: header) with
  | error e =>
      rw [Engineio.decodeBodies_cons_error (List.cons_ne_nil _ _) hbody, arrivals_error] at h
      simp [pollIncoming, Arrival.polled] at h
  | ok ps =>
      obtain ⟨cut, more, rfl, hsep, -⟩ := Engineio.Payload.message_of_tryFrom hid hbody
      rw [Engineio.decodeBodies_cons_ok (List.cons_ne_nil _ _) hbody, List.map_cons,
        List.cons_append, arrivals_message rfl] at h
      have hhandle : (handleEngineioPacket json ⟨.message, cut⟩
          ((arrivals (Engineio.react unexpected
            (more.map .ok ++ Engineio.decodeBodies b64 rest))).map Arrival.polled)).1 =
          .ok packet := by
        rw [List.map_cons, Arrival.polled, pollIncoming_message rfl] at h
        exact congrArg Prod.fst h
      cases hdecode : Packet.tryFrom json cut with
      | error e => simp [handleEngineioPacket, hdecode] at hhandle
      | ok socketPacket =>
          obtain ⟨attachments, -, hpacket⟩ := handleEngineioPacket_payloads hdecode hhandle
          have hnsp : packet.nsp = socketPacket.nsp := by
            rw [hpacket]
            split <;> rfl
          rw [hnsp]
          exact ⟨Packet.no_comma_of_tryFrom hdecode, (Packet.notMem_of_tryFrom hsep hdecode).1⟩

/-- What is left to poll when the header is in one piece. -/
theorem polled_of_header {packet received : Packet} {more : List Engineio.Packet}
    {after : Incoming} (htext : separatorChar ∉ packet.text)
    (h : pollIncoming json ((arrivals (Engineio.react unexpected (Engineio.decodeBodies b64
        (Engineio.deliveries b64 transport (packet.enginePackets ++ more))))).map
          Arrival.polled) = (.ok received, after)) :
    handleEngineioPacket json ⟨.message, packet.toBytes⟩
      ((arrivals (Engineio.react unexpected (Engineio.decodeBodies b64
        (Engineio.deliveries b64 transport (((packet.attachments.getD []).map fun attachment =>
          ⟨.messageBinary, attachment⟩) ++ more))))).map Arrival.polled) =
      (.ok received, after) := by
  rw [Packet.enginePackets, List.cons_append, deliveries_header] at h
  have hframed : Engineio.Payload.tryFrom b64 (52 :: packet.toBytes) =
      .ok [⟨.message, packet.toBytes⟩] := (framedAlone_iff_text b64 packet).mpr htext
  rw [Engineio.decodeBodies_cons_ok (List.cons_ne_nil _ _) hframed, List.map_cons, List.map_nil,
    List.cons_append, List.nil_append, arrivals_message rfl, List.map_cons, Arrival.polled,
    pollIncoming_message rfl] at h
  exact h

theorem handleEngineioPacket_plain {header : Engineio.Packet} {socketPacket : Packet}
    (hdecode : Packet.tryFrom json header.data = .ok socketPacket)
    (hcount : socketPacket.attachmentCount = 0) (incoming : Incoming) :
    handleEngineioPacket json header incoming = (.ok socketPacket, incoming) := by
  simp [handleEngineioPacket, hdecode, hcount]

/-- A text emission that is heard reaches. -/
theorem reaches_text (reader : SerdeReader json) {args : List json.Value} {ackId id : Option Int}
    {name : Str}
    (hcalls : ∀ callbacks, dispatchEvent reader.fromStr nsp callbacks ⟨.event, nsp,
      some (json.toString (.array (.string (Event.ofString name).asStr :: args))), id, 0, none⟩ =
        callback callbacks (Event.ofString name) (.text args ackId) id) :
    args ≠ [] ∧ lowercase name ≠ "open".toList ∧ ∀ value ∈ args, reader.Faithful value := by
  have hall := hcalls ⟨fun _ => true, true⟩
  cases hread : reader.fromStr
      (json.toString (.array (.string (Event.ofString name).asStr :: args))) with
  | none =>
      -- what cannot be read is ignored
      have hnone : dispatchEvent reader.fromStr nsp ⟨fun _ => true, true⟩ ⟨.event, nsp,
          some (json.toString (.array (.string (Event.ofString name).asStr :: args))), id, 0,
            none⟩ = [] := dispatchEvent_text rfl rfl (by simp only [handleEvent, hread])
      rw [hnone] at hall
      exact absurd hall.symm (callback_ne_nil _ _ _)
  | some value =>
      obtain ⟨us, rfl, hargs⟩ := SerdeReader.fromStr_named.mp hread
      by_cases hus : us = []
      · subst hus
        -- the name alone is taken for the argument of a message
        have hevent : handleEvent reader.fromStr ⟨fun _ => true, true⟩ ⟨.event, nsp,
            some (json.toString (.array (.string (Event.ofString name).asStr :: args))), id, 0,
              none⟩ = .ok (callback ⟨fun _ => true, true⟩ .message
            (.text [.string (Event.ofString name).asStr] none) id) := by
          simp only [handleEvent, hread, eventOf]
        have hpayload := (calls_inj ((dispatchEvent_text rfl rfl hevent).symm.trans hall)).2
        obtain rfl : [Json.Value.string (Event.ofString name).asStr] = args := by
          simpa [Payload.setAckId] using hpayload
        cases hargs
      · have hevent := handleEvent_named reader.fromStr ⟨.event, nsp, _, id, 0, none⟩
          rfl hread hus ⟨fun _ => true, true⟩
        obtain ⟨hname, hpayload⟩ :=
          calls_inj ((dispatchEvent_text rfl rfl hevent).symm.trans hall)
        obtain rfl : us = args := by simpa [Payload.setAckId] using hpayload
        refine ⟨hus, fun hopen => ?_, SerdeReader.readsBack_named_iff.mp hread⟩
        exact (Event.ofString_asStr name).mp hname (Event.ofString_eq_connect.mpr hopen)

/-- A binary emission that is heard has no id and a plain name, and its bytes are the first
attachment of what is polled. -/
theorem reaches_binary {bytes : Bytes} {ackId : Option Int} {id : Option (Fin 999)} {name : Str}
    {received : Packet}
    (htype : received.packetType = if id.isSome then .binaryAck else .binaryEvent)
    (hdata : received.data = some (json.toString (.string (Event.ofString name).intoString)))
    (hcalls : ∀ callbacks, dispatchEvent reader nsp callbacks received =
      callback callbacks (Event.ofString name) (.binary bytes ackId)
        (id.map fun id => (id.val : Int))) :
    id = none ∧ name.all Json.isPlain = true ∧
      ∃ more, received.attachments = some (bytes :: more) := by
  have hnsp : received.nsp = nsp := nsp_of_dispatch reader hcalls
  have hall := hcalls ⟨fun _ => true, true⟩
  cases id with
  | some id =>
      -- a request of a binary payload is taken for an answer
      have hack : received.packetType = .binaryAck := htype
      have hnone : dispatchEvent reader nsp ⟨fun _ => true, true⟩ received = [] := by
        simp only [dispatchEvent, handlerOf, if_pos hnsp, hack, PacketId.handler]
      rw [hnone] at hall
      exact absurd hall.symm (callback_ne_nil _ _ _)
  | none =>
      rw [dispatchEvent_binary hnsp htype, handleBinaryEvent] at hall
      have hname : binaryEventOf received =
          Event.ofString (deleteQuotes (Json.printString (Event.ofString name).intoString)) := by
        unfold binaryEventOf
        rw [hdata]
        simp only [SerdeJson.toString, Json.print]
      split at hall
      · rename_i data more hattachments
        obtain ⟨hevent, hpayload⟩ := calls_inj hall
        rw [hname] at hevent
        refine ⟨rfl, ?_, more, ?_⟩
        · rw [← Event.intoString_plain, ← ofString_deleteQuotes, hevent,
            Event.ofString_intoString]
        · have hbytes : data = bytes := by
            simp only [Payload.setAckId, Payload.binary.injEq] at hpayload
            exact hpayload.1
          rw [hattachments, hbytes]
      · exact absurd hall.symm (callback_ne_nil _ _ _)

/-- What an emission sends is built, in a namespace that can be read. -/
theorem Emission.built {e : Emission json} {packet : Packet} (hslash : nsp.head? = some '/')
    (hcomma : ',' ∉ nsp) (hsupported : e.payload.Supported)
    (hpacket : Packet.newFromPayload json e.payload e.event nsp e.ackId = .ok packet) :
    Built json packet :=
  .event hsupported ⟨hslash, hcomma⟩ (isAckId_ackId e) hpacket

/-- The header of an emission is in one piece when the namespace is. -/
theorem Emission.notMem_text {e : Emission json} {packet : Packet}
    (hnumber : ∀ n, Json.IsNumber (json.printNumber n)) (hsupported : e.payload.Supported)
    (hpacket : Packet.newFromPayload json e.payload e.event nsp e.ackId = .ok packet)
    (hsep : separatorChar ∉ nsp) : separatorChar ∉ packet.text := by
  have hpasted : e.payload.pasted e.event.asStr = [] := by
    obtain ⟨name, payload, id⟩ := e
    cases hsupported with
    | binary data ackId => rfl
    | text data ackId => rfl
  rw [mem_newFromPayload hnumber hpacket, hpasted]
  simpa using hsep

/-- An emission that is heard reaches, whatever is sent behind it. -/
theorem reaches_of_polled (reader : SerdeReader json) {e : Emission json}
    (hslash : nsp.head? = some '/') (hsupported : e.payload.Supported) {packet received : Packet}
    (hpacket : Packet.newFromPayload json e.payload e.event nsp e.ackId = .ok packet)
    {more : List Engineio.Packet} {after : Incoming}
    (hpoll : pollIncoming json ((arrivals (Engineio.react unexpected (Engineio.decodeBodies b64
        (Engineio.deliveries b64 transport (packet.enginePackets ++ more))))).map
          Arrival.polled) = (.ok received, after))
    (hcalls : ∀ callbacks,
      dispatchEvent reader.fromStr nsp callbacks received = e.calls callbacks) :
    Clear nsp ∧ e.Reaches reader transport := by
  have hclear : Clear nsp := by
    have hheader := hpoll
    rw [Packet.enginePackets, List.cons_append, deliveries_header] at hheader
    have hread := received_of_header hheader
    rwa [nsp_of_dispatch reader.fromStr hcalls] at hread
  refine ⟨hclear, ?_⟩
  have htext := Emission.notMem_text reader.isNumber hsupported hpacket hclear.2
  have hdecode := (Emission.built hslash hclear.1 hsupported hpacket).readable.tryFrom_toBytes
  have hhandle := polled_of_header htext hpoll
  obtain ⟨name, payload, id⟩ := e
  cases hsupported with
  | text args ackId =>
      have hcount : packet.attachmentCount = 0 := by
        obtain rfl := Except.ok.inj hpacket
        rfl
      have hplain := @handleEngineioPacket_plain json ⟨.message, packet.toBytes⟩ _ hdecode hcount
      rw [hplain] at hhandle
      obtain rfl := Polled.ok.inj (congrArg Prod.fst hhandle)
      obtain rfl := Except.ok.inj hpacket
      exact @reaches_text json nsp reader args ackId _ name hcalls
  | binary bytes ackId =>
      obtain ⟨hcount, hattachments, htype, hdata⟩ : packet.attachmentCount = 1 ∧
          packet.attachments = some [bytes] ∧
          packet.packetType = (if id.isSome then .binaryAck else .binaryEvent) ∧
          packet.data = some (json.toString (.string (Event.ofString name).intoString)) := by
        obtain rfl := Except.ok.inj hpacket
        exact ⟨rfl, rfl, by simp [Emission.ackId], rfl⟩
      obtain ⟨attachments, hcollected, hreceived⟩ :=
        @handleEngineioPacket_payloads json ⟨.message, packet.toBytes⟩ _ _ _ hdecode
          (congrArg Prod.fst hhandle)
      have hpos : 0 < packet.attachmentCount := by
        rw [hcount]
        decide
      rw [if_pos hpos] at hreceived
      have hone : attachments.length = 1 := by
        rw [hcollected.count, hcount]
        rfl
      obtain ⟨data, rfl⟩ := List.length_eq_one_iff.mp hone
      have hread : received.packetType = packet.packetType ∧ received.data = packet.data ∧
          received.attachments = some [data] := by
        subst hreceived
        exact ⟨rfl, rfl, rfl⟩
      obtain ⟨hreadType, hreadData, hread⟩ := hread
      obtain ⟨hid, hplain, rest, hfirst⟩ :=
        @reaches_binary json reader.fromStr nsp bytes ackId id name received (hreadType.trans htype)
          (hreadData.trans hdata) hcalls
      obtain rfl : data = bytes := (List.cons.inj (Option.some.inj (hread.symm.trans hfirst))).1
      refine ⟨hid, hplain, fun hws => ?_⟩
      rw [hattachments, Option.getD_some, List.map_cons, List.map_nil, List.cons_append,
        List.nil_append, deliveries_attachment hws] at hhandle
      have hmessage : isMessage ⟨.message, packet.toBytes⟩ = true := rfl
      rw [← pollIncoming_message hmessage] at hhandle
      exact attachment_of_received hmessage hdecode hcount hread hhandle

/-- An emission that reaches makes a packet that travels. -/
theorem travels_of_reaches (reader : SerdeReader json) {e : Emission json} {packet : Packet}
    (hsep : separatorChar ∉ nsp) (hsupported : e.payload.Supported)
    (hpacket : Packet.newFromPayload json e.payload e.event nsp e.ackId = .ok packet)
    (hreaches : e.Reaches reader transport) : packet.Travels transport := by
  refine ⟨Emission.notMem_text reader.isNumber hsupported hpacket hsep, fun hws data hdata => ?_⟩
  obtain ⟨name, payload, id⟩ := e
  cases hsupported with
  | text args ackId =>
      obtain rfl := Except.ok.inj hpacket
      simp at hdata
  | binary bytes ackId =>
      obtain rfl := Except.ok.inj hpacket
      obtain rfl : data = bytes := by simpa using hdata
      obtain ⟨-, -, hbytes⟩ := hreaches
      exact hbytes hws

/-- An emission that reaches makes a packet that selects its callbacks. -/
theorem dispatch_of_reaches (reader : SerdeReader json) {e : Emission json} {packet : Packet}
    (hsupported : e.payload.Supported)
    (hpacket : Packet.newFromPayload json e.payload e.event nsp e.ackId = .ok packet)
    (hreaches : e.Reaches reader transport) (callbacks : Callbacks) :
    dispatchEvent reader.fromStr nsp callbacks packet = e.calls callbacks := by
  obtain ⟨name, payload, id⟩ := e
  cases hsupported with
  | text args ackId =>
      obtain ⟨hargs, hopen, hfaithful⟩ := hreaches
      have hname : Event.ofString (Event.ofString name).asStr = Event.ofString name :=
        (Event.ofString_asStr name).mpr fun h => hopen (Event.ofString_eq_connect.mp h)
      obtain rfl := Except.ok.inj hpacket
      refine (dispatchEvent_text rfl rfl (handleEvent_named reader.fromStr _ rfl
        (SerdeReader.readsBack_named_iff.mpr hfaithful) hargs callbacks)).trans ?_
      show callback callbacks (Event.ofString (Event.ofString name).asStr) _ _ = _
      rw [hname]
      rfl
  | binary bytes ackId =>
      obtain ⟨hid, hplain, -⟩ := hreaches
      obtain rfl : id = none := hid
      obtain rfl := Except.ok.inj hpacket
      have hname : Event.ofString (deleteQuotes (json.toString
          (.string (Event.ofString name).intoString))) = Event.ofString name := by
        rw [SerdeJson.toString, Json.print, ofString_deleteQuotes.mpr
          ((Event.intoString_plain name).mpr hplain), Event.ofString_intoString]
      refine (dispatchEvent_binary rfl rfl callbacks).trans ?_
      show callback callbacks (Event.ofString (deleteQuotes (json.toString
        (.string (Event.ofString name).intoString)))) _ _ = _
      rw [hname]
      rfl

end Polled

/-! ## All of them -/

section All

variable {b64 : Engineio.Base64Engine} {transport : TransportType} {nsp : Str}
  {emissions : List (Emission json)}

/-- What polls of the packets of emissions invoke. -/
theorem calls_of_reaches (reader : SerdeReader json)
    (h : ∀ e ∈ emissions, e.payload.Supported ∧ e.Reaches reader transport)
    (callbacks : Callbacks) (n : Nat) :
    (((emissions.flatMap (Emission.packets nsp)).map Polled.ok ++ [Polled.pending]).take n).flatMap
        (callsOf reader.fromStr nsp callbacks) =
      (emissions.take n).flatMap (Emission.calls callbacks) := by
  induction emissions generalizing n with
  | nil =>
      cases n with
      | zero => rfl
      | succ n => simp [callsOf]
  | cons e emissions ih =>
      obtain ⟨⟨hsupported, hreaches⟩, hothers⟩ := List.forall_mem_cons.mp h
      obtain ⟨packet, hpacket, hpackets⟩ := e.packets_eq nsp
      cases n with
      | zero => rfl
      | succ n =>
          have hcalls := dispatch_of_reaches reader hsupported hpacket hreaches callbacks
          rw [List.flatMap_cons, hpackets, List.singleton_append, List.map_cons,
            List.cons_append, List.take_succ_cons, List.flatMap_cons, List.take_succ_cons,
            List.flatMap_cons, ih hothers n, ← hcalls]
          rfl

/-- The first poll of a socket whose polls invoke the callbacks of emissions. -/
theorem Socket.poll_of_calls {e : Emission json} {s : Socket}
    (h : ∀ callbacks, (Socket.received json 1 s).flatMap (callsOf reader nsp callbacks) =
      e.calls callbacks) :
    ∃ received s', s.poll json = (.ok received, s') ∧
      ∀ callbacks, dispatchEvent reader nsp callbacks received = e.calls callbacks := by
  rcases hpoll : s.poll json with ⟨result, s'⟩
  cases result with
  | ok received =>
      refine ⟨received, s', rfl, fun callbacks => ?_⟩
      have hcalls := h callbacks
      simpa [Socket.received, hpoll, callsOf] using hcalls
  | none | error | pending =>
      have hcalls := h ⟨fun _ => true, true⟩
      simp only [Socket.received, hpoll, List.flatMap_cons, List.flatMap_nil, callsOf,
        List.append_nil] at hcalls
      exact absurd hcalls.symm (callback_ne_nil _ _ _)

/-- Emissions whose callbacks the polls invoke reach. -/
theorem reaches_of_heard (reader : SerdeReader json) (hslash : nsp.head? = some '/')
    (hsupported : ∀ e ∈ emissions, e.payload.Supported) {unexpected : Engineio.Report} {s : Socket}
    (hs : s.engineClient.incoming = (arrivals (Engineio.react unexpected (Engineio.decodeBodies b64
      (Engineio.deliveries b64 transport
        ((emissions.flatMap (Emission.packets nsp)).flatMap Packet.enginePackets))))).map
          Arrival.polled)
    (hheard : ∀ callbacks n,
      (Socket.received json n s).flatMap (callsOf reader.fromStr nsp callbacks) =
        (emissions.take n).flatMap (Emission.calls callbacks)) :
    ∀ e ∈ emissions, Clear nsp ∧ e.Reaches reader transport := by
  induction emissions generalizing s with
  | nil => simp
  | cons e emissions ih =>
      obtain ⟨he, hothers⟩ := List.forall_mem_cons.mp hsupported
      obtain ⟨packet, hpacket, hpackets⟩ := e.packets_eq nsp
      rw [List.flatMap_cons, hpackets, List.singleton_append, List.flatMap_cons] at hs
      have hfirst : ∀ callbacks,
          (Socket.received json 1 s).flatMap (callsOf reader.fromStr nsp callbacks) =
            e.calls callbacks := by
        intro callbacks
        rw [hheard callbacks 1, List.take_succ_cons, List.take_zero, List.flatMap_cons,
          List.flatMap_nil, List.append_nil]
      obtain ⟨received, s', hpoll, hcalls⟩ := Socket.poll_of_calls reader.fromStr hfirst
      have hincoming := Socket.pollIncoming_of_poll hpoll
      rw [hs] at hincoming
      have hreaches := reaches_of_polled reader hslash he hpacket hincoming hcalls
      -- so it is the packet that was sent, and the other packets are left
      have hbuilt := Emission.built hslash hreaches.1.1 he hpacket
      have htravels := travels_of_reaches reader hreaches.1.2 he hpacket hreaches.2
      have hone := @pollIncoming_deliveries b64 json transport packet hbuilt htravels unexpected
        ((emissions.flatMap (Emission.packets nsp)).flatMap Packet.enginePackets)
      have hleft := (Prod.mk.inj (hincoming.symm.trans hone)).2
      refine List.forall_mem_cons.mpr ⟨hreaches, ih hothers hleft fun callbacks n => ?_⟩
      have hall := hheard callbacks (n + 1)
      rw [List.take_succ_cons, List.flatMap_cons, Socket.received, hpoll] at hall
      simp only [List.flatMap_cons] at hall
      rw [callsOf, hcalls] at hall
      exact List.append_cancel_left hall

/-- **Emitted is heard.**  Emissions of text and binary payloads select the other client's callbacks
with what was emitted, in order and once each, exactly when the namespace of the builder can be read
and each of them reaches. -/
theorem heard_iff (reader : SerdeReader json) (cfg : Config) (name : Str)
    (hsupported : ∀ e ∈ emissions, e.payload.Supported) :
    Heard reader.fromStr b64 transport (cfg.setNamespace name).nsp emissions ↔
      ∀ e ∈ emissions, Clear (cfg.setNamespace name).nsp ∧ e.Reaches reader transport := by
  have hslash := cfg.setNamespace_head name
  generalize (cfg.setNamespace name).nsp = nsp at hslash ⊢
  constructor
  · intro hheard
    have hpolled := hheard.polled
    simp only [polledOver, emitted, clientTurns_eq, Socket.wire_eq] at hpolled
    exact reaches_of_heard reader hslash hsupported rfl hpolled
  · intro h
    have hpackets : ∀ packet ∈ emissions.flatMap (Emission.packets nsp),
        Built json packet ∧ packet.Travels transport := by
      intro packet hmem
      obtain ⟨e, he, hin⟩ := List.mem_flatMap.mp hmem
      obtain ⟨sent, hsent, hone⟩ := e.packets_eq nsp
      obtain rfl : packet = sent := by simpa [hone] using hin
      obtain ⟨⟨hcomma, hsep⟩, hreaches⟩ := h e he
      exact ⟨Emission.built hslash hcomma (hsupported e he) hsent,
        travels_of_reaches reader hsep (hsupported e he) hsent hreaches⟩
    have hcalls := @calls_of_reaches json transport nsp emissions reader fun e he =>
      ⟨hsupported e he, (h e he).2⟩
    obtain ⟨hpolled, hstreamed⟩ := @delivered_of_travels b64 json transport _
      (fun packet hmem => (hpackets packet hmem).1) fun packet hmem => (hpackets packet hmem).2
    constructor
    · intro callbacks n
      rw [emitted, hpolled, hcalls]
    · intro callbacks n
      rw [emitted, hstreamed, List.flatMap_map, ← hcalls]
      rfl

end All

/-- A request with a text payload and an event with a binary one. -/
noncomputable def requestAndBytes : List (Emission .texts) :=
  [⟨"sum".toList, .text [.null] none, some ⟨12, by decide⟩⟩,
    ⟨"raw".toList, .binary [2, 0xff] none, none⟩]

theorem supported_requestAndBytes : ∀ e ∈ requestAndBytes, e.payload.Supported := by
  simp only [requestAndBytes, List.forall_mem_cons]
  exact ⟨.text _ _, .binary _ _, fun _ h => by cases h⟩

theorem SerdeReader.texts_faithful_null : SerdeReader.texts.Faithful .null :=
  SerdeReader.reads_toString.mpr rfl

/-- Over a websocket both are heard, but not with a comma in the namespace. -/
theorem heard_requestAndBytes :
    Heard SerdeReader.texts.fromStr .standard .websocket
        (Config.new.setNamespace "chat".toList).nsp requestAndBytes ∧
      ¬ Heard SerdeReader.texts.fromStr .standard .websocket
        (Config.new.setNamespace "a,b".toList).nsp requestAndBytes := by
  have hheard := fun name : Str => @heard_iff .texts .standard .websocket requestAndBytes
    SerdeReader.texts Config.new name supported_requestAndBytes
  refine ⟨(hheard _).mpr ?_, fun h => ?_⟩
  · simp only [requestAndBytes, List.forall_mem_cons]
    have hclear : Clear (Config.new.setNamespace "chat".toList).nsp := ⟨by decide, by decide⟩
    have hsum : lowercase "sum".toList ≠ "open".toList := by decide
    have hraw : "raw".toList.all Json.isPlain = true := by decide
    have hbytes : ([2, 0xff] : Bytes) ≠ [] ∧ Engineio.separator ∉ ([2, 0xff] : Bytes) := by decide
    refine ⟨⟨hclear, by simp, hsum, ?_⟩, ⟨hclear, rfl, hraw, fun _ => hbytes⟩,
      fun _ h => by cases h⟩
    intro value hvalue
    obtain rfl := List.mem_singleton.mp hvalue
    exact SerdeReader.texts_faithful_null
  · have hclear := ((hheard _).mp h _ List.mem_cons_self).1.1
    exact absurd hclear (by decide)

end TfSocketio.Socketio
