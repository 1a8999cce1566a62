/-
# Socketio.Dispatch — where a packet goes, and what becomes of a request.

`handle_socketio_packet` matches on the type of a packet of its own namespace, and that type is all
that tells a request from an answer.  `new_from_payload` makes a `BinaryAck` of a binary payload
with an id, so `requestArrives_iff` finds that exactly the requests with a text payload are handled
as events on the other side, in a namespace that the decoder can read.
-/
import TfSocketio.Socketio.Builder
import TfSocketio.Socketio.Decoder
import TfSocketio.Socketio.Handlers
import TfSocketio.Socketio.Operations

namespace TfSocketio.Socketio

open Engineio (Bytes)
open Text (Str)

/-! ## The branches of the match -/

/-- The branches of `handle_socketio_packet`. -/
inductive Handler where
  /-- `handle_ack`. -/
  | ack
  /-- `handle_binary_event`. -/
  | binaryEvent
  | connect
  | disconnect
  | connectError
  /-- `handle_event`. -/
  | event
  deriving DecidableEq, Repr

def PacketId.handler : PacketId → Handler
  | .ack => .ack
  | .binaryAck => .ack
  | .binaryEvent => .binaryEvent
  | .connect => .connect
  | .disconnect => .disconnect
  | .connectError => .connectError
  | .event => .event

/-- The branch a packet goes to; a packet of another namespace goes to none. -/
def handlerOf (nsp : Str) (packet : Packet) : Option Handler :=
  if packet.nsp = nsp then some packet.packetType.handler else none

/-! ## What is called -/

/-- The registered callbacks, with `on_close_with_session`. -/
structure Registrations extends Callbacks where
  onCloseWithSession : Bool

/-- An invocation of user code. -/
inductive Invocation (json : SerdeJson) where
  | callback (call : Call json)
  | closeWithSession (reason : CloseReason) (epoch : Nat)
  | ack (ack : Ack) (payload : Payload json)

/-- `CloseReason::as_str`. -/
def CloseReason.asStr : CloseReason → Str
  | .ioServerDisconnect => "io server disconnect".toList
  | .ioClientDisconnect => "io client disconnect".toList
  | .transportClose => "transport close".toList

/-- The error of an event with an empty array, displayed. -/
def incompletePacketText : Str := "Error while parsing an incomplete packet".toList

/-- The message of a `ConnectError` packet. -/
def connectErrorText (packet : Packet) : Str :=
  "Received an ConnectError frame: ".toList ++
    packet.data.getD "\"No error message provided\"".toList

/-! ## A request on the other side -/

/-- The packet a request with ack sends is polled by the other side, which handles it as an event
with the id of the request. -/
def RequestArrives (json : SerdeJson) (nsp : Str) (data : Payload json) (event : Event)
    (id : Fin 999) : Prop :=
  ∃ sent received, Packet.newFromPayload json data event nsp (some id.val) = .ok sent ∧
    (pollIncoming json (arriving sent.enginePackets)).1 = .ok received ∧
    (handlerOf nsp received = some .event ∨ handlerOf nsp received = some .binaryEvent) ∧
    received.id = some (id.val : Int)

section Polled

variable {json : SerdeJson}

theorem decodeIdAndData_fields {packet p : Packet} {payload : Str}
    (h : decodeIdAndData json packet payload = .ok p) :
    p.packetType = packet.packetType ∧ p.nsp = packet.nsp := by
  simp only [decodeIdAndData] at h
  split at h
  · cases h
    exact ⟨rfl, rfl⟩
  · split at h
    · simp at h
    · split at h
      · cases h
        exact ⟨rfl, rfl⟩
      · simp at h

theorem NspText.no_comma {payload nsp rest : Str} (h : NspText payload nsp rest) : ',' ∉ nsp := by
  cases h with
  | default hslash => simp
  | named hnsp => exact hnsp.no_comma

/-- A decoded packet has the type that was sent, and a namespace without a comma. -/
theorem Packet.fields_of_tryFrom {packet p : Packet}
    (h : Packet.tryFrom json packet.toBytes = .ok p) :
    p.packetType = packet.packetType ∧ ',' ∉ p.nsp := by
  simp only [Packet.tryFrom, Packet.toBytes, Text.fromUtf8_utf8, Packet.text, Packet.ofText,
    PacketId.tryFrom_toChar, bind, Except.bind] at h
  split at h
  · simp at h
  · split at h
    · simp at h
    · rename_i named hnsp
      obtain ⟨nsp, rest⟩ := named
      obtain ⟨htype, hnamed⟩ := decodeIdAndData_fields h
      refine ⟨htype, ?_⟩
      rw [hnamed]
      exact (decodeNsp_eq_ok.mp hnsp).no_comma

/-- A packet that is polled from the engine.io packets of one has that one's type, and a namespace
without a comma. -/
theorem fields_of_pollIncoming {packet p : Packet}
    (h : (pollIncoming json (arriving packet.enginePackets)).1 = .ok p) :
    p.packetType = packet.packetType ∧ ',' ∉ p.nsp := by
  have hmessage : isMessage ⟨.message, packet.toBytes⟩ = true := rfl
  simp only [Packet.enginePackets, arriving_cons, pollIncoming, hmessage, if_true,
    handleEngineioPacket] at h
  split at h
  · simp at h
  · rename_i decoded hdecoded
    have hfields := Packet.fields_of_tryFrom hdecoded
    split at h
    · -- the attachments are put into the decoded packet
      rcases hcollected : (collectAttachments decoded.attachmentCount.toNat _).1 with
        attachments | _ | e | _
      · rw [hcollected] at h
        cases h
        exact hfields
      all_goals
        rw [hcollected] at h
        simp [Polled.map] at h
    · cases h
      exact hfields

end Polled

/-- A packet of the own namespace goes to the branch of its type. -/
theorem handlerOf_nsp (packet : Packet) :
    handlerOf packet.nsp packet = some packet.packetType.handler := if_pos rfl

theorem nsp_of_handlerOf {nsp : Str} {packet : Packet} {handler : Handler}
    (h : handlerOf nsp packet = some handler) :
    packet.nsp = nsp ∧ packet.packetType.handler = handler := by
  rw [handlerOf] at h
  split at h
  · rename_i hnsp
    exact ⟨hnsp, Option.some.inj h⟩
  · simp at h

/-- A text request in a namespace without a comma arrives. -/
theorem requestArrives_text {json : SerdeJson} {nsp : Str} (hnsp : IsNamespace nsp)
    (values : List json.Value) (ackId : Option Int) (event : Event) (id : Fin 999) :
    RequestArrives json nsp (.text values ackId) event id := by
  have hid : IsAckId (some (id.val : Int)) := by
    intro i hi
    obtain rfl := Option.some.inj hi
    have := id.isLt
    omega
  let sent : Packet :=
    ⟨.event, nsp, some (json.toString (.array (.string event.asStr :: values))), some id.val, 0,
      none⟩
  have hbuilt : Built json sent := .event (.text values ackId) hnsp hid rfl
  have hpoll := pollIncoming_enginePackets hbuilt []
  rw [List.append_nil] at hpoll
  exact ⟨sent, sent, rfl, congrArg Prod.fst hpoll, .inl (handlerOf_nsp sent), rfl⟩

/-- What a binary request is sent as is a `BinaryAck`, and the other side takes it for one. -/
theorem not_requestArrives_binary {json : SerdeJson} (nsp : Str) (bytes : Bytes)
    (ackId : Option Int) (event : Event) (id : Fin 999) :
    ¬ RequestArrives json nsp (.binary bytes ackId) event id := by
  rintro ⟨sent, received, hsent, hpoll, hhandler, -⟩
  cases hsent
  have htype := (fields_of_pollIncoming hpoll).1
  have hack : received.packetType.handler = .ack := by
    rw [htype]
    rfl
  rcases hhandler with hhandler | hhandler
  · have hevent := (nsp_of_handlerOf hhandler).2
    rw [hack] at hevent
    cases hevent
  · have hevent := (nsp_of_handlerOf hhandler).2
    rw [hack] at hevent
    cases hevent

/-- **Which requests arrive as events.**  Of the requests a client can make in a namespace of its
builder, with text and with binary payloads, exactly those arrive at the other side as events with
their id that have a text payload, if the namespace holds no comma; none arrives if it does. -/
theorem requestArrives_iff {json : SerdeJson} (cfg : Config) (name : Str) {data : Payload json}
    (hdata : data.Supported) (event : Event) (id : Fin 999) :
    RequestArrives json (cfg.setNamespace name).nsp data event id ↔
      (∃ values ackId, data = .text values ackId) ∧ ',' ∉ name := by
  have hslash := cfg.setNamespace_head name
  have hcomma : ',' ∈ (cfg.setNamespace name).nsp ↔ ',' ∈ name := by
    rw [Config.setNamespace]
    split
    · rfl
    · simp
  constructor
  · intro h
    constructor
    · cases hdata with
      | binary bytes ackId => exact absurd h (not_requestArrives_binary _ bytes ackId event id)
      | text values ackId => exact ⟨values, ackId, rfl⟩
    · obtain ⟨sent, received, hsent, hpoll, hhandler, -⟩ := h
      have hreceived := (fields_of_pollIncoming hpoll).2
      have hnsp : received.nsp = (cfg.setNamespace name).nsp := by
        rcases hhandler with hhandler | hhandler
        · exact (nsp_of_handlerOf hhandler).1
        · exact (nsp_of_handlerOf hhandler).1
      rw [hnsp, hcomma] at hreceived
      exact hreceived
  · rintro ⟨⟨values, ackId, rfl⟩, hname⟩
    have hnsp : IsNamespace (cfg.setNamespace name).nsp := ⟨hslash, by rwa [hcomma]⟩
    exact requestArrives_text hnsp values ackId event id

theorem requestArrives_chat :
    RequestArrives .integers (Config.new.setNamespace "chat".toList).nsp
      (.text [.string "hi".toList] none) (.custom "say".toList) 7 :=
  (requestArrives_iff Config.new "chat".toList (.text [.string "hi".toList] none)
    (.custom "say".toList) 7).mpr ⟨⟨_, _, rfl⟩, by decide⟩

/-- A request with one byte in the default namespace: the other side has sent a request of its own
under the same id, and takes this one for the answer. -/
theorem binaryRequest_answers :
    ¬ RequestArrives .integers ['/'] (.binary [1] none) (.custom "a".toList) 7 ∧
    ∃ sent received,
      Packet.newFromPayload .integers (.binary [1] none) (.custom "a".toList) ['/'] (some 7) =
        .ok sent ∧
      (pollIncoming .integers (arriving sent.enginePackets)).1 = .ok received ∧
      handlerOf ['/'] received = some .ack ∧
      (handleAck .sync received 0 [⟨3, 7, 0, 10⟩]).1 = [⟨3, 7, 0, 10⟩, ⟨3, 7, 0, 10⟩] := by
  have hnsp : IsNamespace ['/'] := ⟨rfl, by decide⟩
  have hid : IsAckId (some 7) := by
    intro i hi
    obtain rfl := Option.some.inj hi
    decide
  have hbuilt : Built .integers ⟨.binaryAck, ['/'],
      some (SerdeJson.integers.toString (.string ['a'])), some 7, 1, some [[1]]⟩ :=
    @Built.event .integers _ (.custom ['a']) _ _ _ (.binary [1] none) hnsp hid rfl
  have hpoll := pollIncoming_enginePackets hbuilt []
  rw [List.append_nil] at hpoll
  refine ⟨not_requestArrives_binary ['/'] [1] none (.custom "a".toList) 7, ?_⟩
  exact ⟨_, _, rfl, congrArg Prod.fst hpoll, rfl, rfl⟩

end TfSocketio.Socketio
