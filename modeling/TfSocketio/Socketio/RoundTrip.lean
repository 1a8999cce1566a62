/-
# Socketio.RoundTrip — requests in flight together, and their answers.

`emit_with_ack` registers an entry under the id it draws and sends the event with that id.  The
callbacks at the other side hand the id of their payload to `ack_with_id`, and the acks come back in
whatever order the callbacks run.  `roundTrip` follows all of it, down to the bytes and up again:
the callback of each request is invoked once, with the response to that request.

In the asynchronous client each packet is dispatched by a task of its own, so the acks are handled
in any order as well.
-/
import TfSocketio.Socketio.Emission

namespace TfSocketio.Socketio

open Engineio (Bytes TransportType)
open Text (Str)

variable {json : SerdeJson} (reader : FromStr json)

/-! ## Requests and responses -/

/-- A call of `emit_with_ack` with a text payload: the id it has drawn and the rest of its entry. -/
structure Request (json : SerdeJson) where
  name : Str
  args : List json.Value
  id : Fin 999
  serial : Nat
  timeStarted : Nat
  timeout : Nat

def Request.emission (request : Request json) : Emission json :=
  ⟨request.name, .text request.args none, some request.id⟩

/-- The entry that waits for the answer. -/
def Request.ack (request : Request json) : Ack :=
  ⟨request.serial, request.id.val, request.timeStarted, request.timeout⟩

/-- `Payload::ack_id`. -/
def Payload.ackId : Payload json → Option Int
  | .binary _ ackId => ackId
  | .text _ ackId => ackId
  | .string _ ackId => ackId

/-- The packet a callback answers with: it hands the id of its payload to `ack_with_id`, with the
response that the application has for the event. -/
def answerOf (nsp : Str) (respond : Event → Payload json → Option (Payload json)) :
    Call json → Option Packet
  | .on event payload =>
      payload.ackId.bind fun id => (respond event payload).bind fun response =>
        (Packet.ackFromPayload json response nsp (some id)).toOption
  | .onAny _ _ => none

/-- The response of the application to a request. -/
def Request.response (respond : Event → Payload json → Option (Payload json))
    (request : Request json) : Option (Payload json) :=
  respond (Event.ofString request.name) (.text request.args (some request.id.val))

/-- A response as the callback of the request is invoked with it. -/
def Payload.answered (id : Int) : Payload json → Payload json
  | .text data _ => .text [.array data] (some id)
  | .binary data _ => .binary data (some id)
  | .string data _ => .string data (some id)

/-- Over a websocket the bytes of a response are not empty and hold no separator; the values of a
text response are read as they were printed. -/
def Payload.Passes (reader : SerdeReader json) (transport : TransportType) : Payload json → Prop
  | .binary data _ => transport ≠ .polling → data ≠ [] ∧ Engineio.separator ∉ data
  | .text data _ => ∀ value ∈ data, reader.Faithful value
  | .string _ _ => True

/-! ## What arrives -/

def Polled.packet? : Polled Packet → Option Packet
  | .ok packet => some packet
  | _ => .none

def Async.Streamed.packet? : Async.Streamed Packet → Option Packet
  | .returned outcome => outcome.packet?
  | .panicked => none

/-- The packets that a client reads of those another has sent. -/
def arrived (flavour : Flavour) (b64 : Engineio.Base64Engine) (json : SerdeJson)
    (transport : TransportType) (packets : List Packet) : List Packet :=
  let incoming := Engineio.deliveries b64 transport (Socket.wire packets)
  match flavour with
  | .sync => (polledOver b64 json (packets.length + 1) incoming).filterMap Polled.packet?
  | .async => (streamedOver b64 json (packets.length + 1) incoming).filterMap
      Async.Streamed.packet?

/-- The acks among the packets, handled one after the other, each at its time. -/
def handleAcks (flavour : Flavour) (nsp : Str) :
    List (Packet × Nat) → List Ack → List (Ack × Payload json) × List Ack
  | [], outstanding => ([], outstanding)
  | (packet, now) :: order, outstanding =>
      match handlerOf nsp packet with
      | some .ack =>
          let (calls, outstanding) := handleAckCalls reader flavour packet now outstanding
          let (more, outstanding) := handleAcks flavour nsp order outstanding
          (calls ++ more, outstanding)
      | _ => handleAcks flavour nsp order outstanding

/-- What the callback of a request is invoked with. -/
def heardBy (ack : Ack) (calls : List (Ack × Payload json)) : List (Payload json) :=
  (calls.filter fun call => call.1 = ack).map Prod.snd

/-! ## Acks in any order -/

section Acks

variable {nsp : Str}

/-- The packet is an ack of the namespace with the id of the entry. -/
def answersTo (nsp : Str) (ack : Ack) (packet : Packet) : Bool :=
  handlerOf nsp packet = some .ack ∧ packet.id = some ack.id

theorem heardBy_append (ack : Ack) (calls more : List (Ack × Payload json)) :
    heardBy ack (calls ++ more) = heardBy ack calls ++ heardBy ack more := by
  simp [heardBy]

/-- With pairwise distinct ids, an ack takes the entries with its id. -/
theorem handleAckCalls_of_nodup (flavour : Flavour) (packet : Packet) (now : Nat)
    {outstanding : List Ack} (h : (outstanding.map Ack.id).Nodup) :
    handleAckCalls reader flavour packet now outstanding =
      ((outstanding.filter fun ack => packet.id = some ack.id ∧ ack.inTime now).flatMap
          fun ack => (ackPayloads reader packet).map fun payload => (ack, payload),
        outstanding.filter fun ack => packet.id ≠ some ack.id) := by
  cases hid : packet.id with
  | none => simp [handleAckCalls, hid]
  | some id =>
      have hmatch : ∀ ack : Ack, (some id = some ack.id) = (ack.id = id) := by
        intro ack
        rw [Option.some.injEq]
        exact propext eq_comm
      simp only [handleAckCalls, hid, takeMatching_of_nodup flavour id h, List.filter_filter,
        hmatch, ne_eq]
      congr 3
      funext ack
      simp [Bool.and_comm]

theorem heardBy_flatMap (ack : Ack) (entries : List Ack) (payloads : List (Payload json)) :
    heardBy ack (entries.flatMap fun entry => payloads.map fun payload => (entry, payload)) =
      (entries.filter fun entry => entry = ack).flatMap fun _ => payloads := by
  induction entries with
  | nil => rfl
  | cons entry entries ih =>
      rw [List.flatMap_cons, heardBy_append, ih]
      by_cases h : entry = ack
      · simp [heardBy, h, List.filter_map, Function.comp_def]
      · simp [heardBy, h]

/-- What an ack makes the callback of an entry hear. -/
theorem heardBy_handleAckCalls (flavour : Flavour) (packet : Packet) (now : Nat)
    {outstanding : List Ack} (h : (outstanding.map Ack.id).Nodup) {ack : Ack}
    (hmem : ack ∈ outstanding) :
    heardBy ack (handleAckCalls reader flavour packet now outstanding).1 =
      if packet.id = some ack.id ∧ ack.inTime now then ackPayloads reader packet else [] := by
  rw [handleAckCalls_of_nodup reader flavour packet now h, heardBy_flatMap, List.filter_filter]
  have hone : (outstanding.filter fun entry => entry = ack) = [ack] := by
    rw [List.filter_eq, List.count_eq_one_of_mem (h.of_map _) hmem]
    rfl
  split
  · rename_i hanswers
    have hboth : (outstanding.filter fun entry =>
        decide (entry = ack) && decide (packet.id = some entry.id ∧ entry.inTime now)) = [ack] := by
      rw [← hone]
      apply List.filter_congr
      intro entry _
      by_cases hentry : entry = ack
      · simp [hentry, hanswers]
      · simp [hentry]
    rw [hboth]
    exact List.append_nil _
  · rename_i hother
    have hnone : (outstanding.filter fun entry =>
        decide (entry = ack) && decide (packet.id = some entry.id ∧ entry.inTime now)) = [] := by
      rw [List.filter_eq_nil_iff]
      intro entry _ hentry
      simp only [Bool.and_eq_true, decide_eq_true_eq] at hentry
      obtain ⟨rfl, hanswers⟩ := hentry
      exact hother hanswers
    rw [hnone]
    rfl

/-- What the callback of an entry should hear: the first answer to it, if that is in time. -/
def firstAnswer (nsp : Str) (ack : Ack) (order : List (Packet × Nat)) : List (Payload json) :=
  match order.find? fun handled => answersTo nsp ack handled.1 with
  | some (packet, now) => if ack.inTime now then ackPayloads reader packet else []
  | none => []

theorem firstAnswer_cons {ack : Ack} {packet : Packet} (h : answersTo nsp ack packet = true)
    (now : Nat) (order : List (Packet × Nat)) :
    firstAnswer reader nsp ack ((packet, now) :: order) =
      if ack.inTime now then ackPayloads reader packet else [] := by
  simp [firstAnswer, h]

theorem firstAnswer_skip {ack : Ack} {packet : Packet} (h : answersTo nsp ack packet = false)
    (now : Nat) (order : List (Packet × Nat)) :
    firstAnswer reader nsp ack ((packet, now) :: order) = firstAnswer reader nsp ack order := by
  simp [firstAnswer, h]

theorem firstAnswer_of_mem {ack : Ack} {order : List (Packet × Nat)} {handled : Packet × Nat}
    (hin : handled ∈ order) (h : answersTo nsp ack handled.1 = true) :
    ∃ packet now, (packet, now) ∈ order ∧ answersTo nsp ack packet = true ∧
      firstAnswer reader nsp ack order =
        if ack.inTime now then ackPayloads reader packet else [] := by
  cases hfind : order.find? fun handled => answersTo nsp ack handled.1 with
  | none => exact absurd h (List.find?_eq_none.mp hfind handled hin)
  | some first =>
      have hanswers := List.find?_some hfind
      refine ⟨first.1, first.2, List.mem_of_find?_eq_some hfind, hanswers, ?_⟩
      rw [firstAnswer, hfind]

theorem firstAnswer_of_none {ack : Ack} {order : List (Packet × Nat)}
    (h : ∀ handled ∈ order, answersTo nsp ack handled.1 = false) :
    firstAnswer reader nsp ack order = [] := by
  have hfind : (order.find? fun handled => answersTo nsp ack handled.1) = none := by
    rw [List.find?_eq_none]
    intro handled hin
    simp [h handled hin]
  rw [firstAnswer, hfind]

theorem handleAcks_cons_ack (flavour : Flavour) {packet : Packet} (now : Nat)
    (order : List (Packet × Nat)) (outstanding : List Ack)
    (hpacket : handlerOf nsp packet = some .ack) :
    handleAcks reader flavour nsp ((packet, now) :: order) outstanding =
      let handled := handleAckCalls reader flavour packet now outstanding
      let rest := handleAcks reader flavour nsp order handled.2
      (handled.1 ++ rest.1, rest.2) := by
  simp only [handleAcks, hpacket]

theorem handleAcks_cons_other (flavour : Flavour) {packet : Packet} (now : Nat)
    (order : List (Packet × Nat)) (outstanding : List Ack)
    (hpacket : handlerOf nsp packet ≠ some .ack) :
    handleAcks reader flavour nsp ((packet, now) :: order) outstanding =
      handleAcks reader flavour nsp order outstanding := by
  rw [handleAcks]
  split
  · rename_i hack
    exact absurd hack hpacket
  · rfl

theorem nodup_left (packet : Packet) {outstanding : List Ack}
    (h : (outstanding.map Ack.id).Nodup) :
    ((outstanding.filter fun ack => packet.id ≠ some ack.id).map Ack.id).Nodup :=
  h.sublist (List.filter_sublist.map _)

/-- Only callbacks of entries are invoked. -/
theorem mem_of_handleAcks (flavour : Flavour) (order : List (Packet × Nat))
    {outstanding : List Ack} (h : (outstanding.map Ack.id).Nodup) :
    ∀ call ∈ (handleAcks reader flavour nsp order outstanding).1, call.1 ∈ outstanding := by
  induction order generalizing outstanding with
  | nil => simp [handleAcks]
  | cons handled order ih =>
      obtain ⟨packet, now⟩ := handled
      intro call hcall
      by_cases hpacket : handlerOf nsp packet = some .ack
      · rw [handleAcks_cons_ack reader flavour now order outstanding hpacket,
          handleAckCalls_of_nodup reader flavour packet now h] at hcall
        rcases List.mem_append.mp hcall with hfirst | hrest
        · obtain ⟨entry, hentry, hin⟩ := List.mem_flatMap.mp hfirst
          obtain ⟨payload, -, rfl⟩ := List.mem_map.mp hin
          exact (List.mem_filter.mp hentry).1
        · exact (List.mem_filter.mp (ih (nodup_left packet h) call hrest)).1
      · rw [handleAcks_cons_other reader flavour now order outstanding hpacket] at hcall
        exact ih h call hcall

/-- The entries that no ack answers stay. -/
theorem left_of_handleAcks (flavour : Flavour) (order : List (Packet × Nat))
    {outstanding : List Ack} (h : (outstanding.map Ack.id).Nodup) :
    (handleAcks reader flavour nsp order outstanding).2 =
      outstanding.filter fun ack => order.all fun handled => !answersTo nsp ack handled.1 := by
  induction order generalizing outstanding with
  | nil => simp [handleAcks]
  | cons handled order ih =>
      obtain ⟨packet, now⟩ := handled
      by_cases hpacket : handlerOf nsp packet = some .ack
      · rw [handleAcks_cons_ack reader flavour now order outstanding hpacket,
          handleAckCalls_of_nodup reader flavour packet now h]
        show (handleAcks reader flavour nsp order _).2 = _
        rw [ih (nodup_left packet h), List.filter_filter]
        apply List.filter_congr
        intro ack _
        simp [answersTo, hpacket, Bool.and_comm]
      · rw [handleAcks_cons_other reader flavour now order outstanding hpacket, ih h]
        apply List.filter_congr
        intro ack _
        simp [answersTo, hpacket]

/-- The callback of an entry hears the first answer to it, and nothing else. -/
theorem heardBy_handleAcks (flavour : Flavour) (order : List (Packet × Nat))
    {outstanding : List Ack} (h : (outstanding.map Ack.id).Nodup) {ack : Ack}
    (hmem : ack ∈ outstanding) :
    heardBy ack (handleAcks reader flavour nsp order outstanding).1 =
      firstAnswer reader nsp ack order := by
  induction order generalizing outstanding with
  | nil => rfl
  | cons handled order ih =>
      obtain ⟨packet, now⟩ := handled
      by_cases hpacket : handlerOf nsp packet = some .ack
      · rw [handleAcks_cons_ack reader flavour now order outstanding hpacket]
        show heardBy ack ((handleAckCalls reader flavour packet now outstanding).1 ++
          (handleAcks reader flavour nsp order
            (handleAckCalls reader flavour packet now outstanding).2).1) = _
        rw [heardBy_append, heardBy_handleAckCalls reader flavour packet now h hmem]
        have hleft := congrArg Prod.snd (handleAckCalls_of_nodup reader flavour packet now h)
        by_cases hid : packet.id = some ack.id
        · -- the entry is taken out, and no later ack finds it
          have hgone : heardBy ack (handleAcks reader flavour nsp order
              (handleAckCalls reader flavour packet now outstanding).2).1 = [] := by
            rw [hleft, heardBy, List.map_eq_nil_iff, List.filter_eq_nil_iff]
            intro call hcall hack
            have hin := mem_of_handleAcks reader flavour order (nodup_left packet h) call hcall
            have hne := (List.mem_filter.mp hin).2
            simp only [decide_eq_true_eq] at hack
            simp [hack, hid] at hne
          have hfirst : answersTo nsp ack packet = true := by simp [answersTo, hpacket, hid]
          rw [hgone, List.append_nil, firstAnswer_cons reader hfirst]
          simp [hid]
        · have hstays : ack ∈ outstanding.filter fun ack => packet.id ≠ some ack.id :=
            List.mem_filter.mpr ⟨hmem, by simpa using hid⟩
          have hother : answersTo nsp ack packet = false := by simp [answersTo, hid]
          rw [if_neg (by simp [hid]), List.nil_append, hleft, ih (nodup_left packet h) hstays,
            firstAnswer_skip reader hother]
      · have hother : answersTo nsp ack packet = false := by simp [answersTo, hpacket]
        rw [handleAcks_cons_other reader flavour now order outstanding hpacket, ih h hmem,
          firstAnswer_skip reader hother]

end Acks

/-! ## The packets of requests and answers -/

section Packets

variable {nsp : Str} {transport : TransportType} {b64 : Engineio.Base64Engine}

/-- Packets that travel arrive, at either client. -/
theorem arrived_eq (flavour : Flavour) {packets : List Packet}
    (h : ∀ packet ∈ packets, Built json packet ∧ packet.Travels transport) :
    arrived flavour b64 json transport packets = packets := by
  obtain ⟨hpolled, hstreamed⟩ := @delivered_of_travels b64 json transport packets
    (fun packet hmem => (h packet hmem).1) fun packet hmem => (h packet hmem).2
  have hall : (packets.map Polled.ok ++ [Polled.pending]).take (packets.length + 1) =
      packets.map Polled.ok ++ [Polled.pending] :=
    List.take_of_length_le (by simp)
  have hpackets : (packets.map Polled.ok ++ [Polled.pending]).filterMap Polled.packet? =
      packets := by
    rw [List.filterMap_append, List.filterMap_map]
    show packets.filterMap some ++ [] = packets
    rw [List.filterMap_some, List.append_nil]
  cases flavour with
  | sync =>
      show (polledOver b64 json _ _).filterMap Polled.packet? = packets
      rw [hpolled, hall, hpackets]
  | async =>
      show (streamedOver b64 json _ _).filterMap Async.Streamed.packet? = packets
      rw [hstreamed, hall, List.filterMap_map]
      exact hpackets

/-- The packet that answers a request. -/
def Request.answer (nsp : Str) (respond : Event → Payload json → Option (Payload json))
    (request : Request json) : Option Packet :=
  (request.response respond).bind fun response =>
    (Packet.ackFromPayload json response nsp (some request.id.val)).toOption

theorem isAckId_id (id : Fin 999) : IsAckId (some (id.val : Int)) := by
  intro i hi
  obtain rfl := Option.some.inj hi
  have hlt := id.isLt
  omega

/-- An answer is the ack of the request's id, with the response. -/
theorem Request.answer_fields {respond : Event → Payload json → Option (Payload json)}
    {request : Request json} {packet : Packet}
    (h : request.answer nsp respond = some packet) :
    ∃ response, request.response respond = some response ∧
      Packet.ackFromPayload json response nsp (some request.id.val) = .ok packet ∧
        packet.id = some (request.id.val : Int) ∧ handlerOf nsp packet = some .ack := by
  obtain ⟨response, hresponse, hpacket⟩ := Option.bind_eq_some_iff.mp h
  have hsent : Packet.ackFromPayload json response nsp (some request.id.val) = .ok packet := by
    cases hack : Packet.ackFromPayload json response nsp (some (request.id.val : Int)) with
    | ok sent =>
        rw [hack] at hpacket
        exact congrArg _ (Option.some.inj hpacket)
    | error e => simp [hack, Except.toOption] at hpacket
  refine ⟨response, hresponse, hsent, ?_⟩
  cases response with
  | binary data ackId =>
      obtain rfl := Except.ok.inj hsent
      exact ⟨rfl, if_pos rfl⟩
  | text data ackId =>
      obtain rfl := Except.ok.inj hsent
      exact ⟨rfl, if_pos rfl⟩
  | string data ackId =>
      obtain rfl := Except.ok.inj hsent
      exact ⟨rfl, if_pos rfl⟩

theorem Request.answer_of_response {respond : Event → Payload json → Option (Payload json)}
    {request : Request json} {response : Payload json}
    (h : request.response respond = some response) :
    ∃ packet, request.answer nsp respond = some packet := by
  rw [Request.answer, h]
  cases response with
  | binary data ackId => exact ⟨_, rfl⟩
  | text data ackId => exact ⟨_, rfl⟩
  | string data ackId => exact ⟨_, rfl⟩

/-- Its payload is the response. -/
theorem ackPayloads_answer (reader : SerdeReader json) {response : Payload json} {id : Int}
    {packet : Packet} (hsupported : response.Supported)
    (hpasses : response.Passes reader transport)
    (h : Packet.ackFromPayload json response nsp (some id) = .ok packet) :
    ackPayloads reader.fromStr packet = [response.answered id] := by
  cases hsupported with
  | binary data ackId =>
      obtain rfl := Except.ok.inj h
      rfl
  | text data ackId =>
      obtain rfl := Except.ok.inj h
      have hread : reader.fromStr (json.toString (.array data)) = some (.array data) :=
        SerdeReader.readsBack_iff.mpr hpasses
      simp [ackPayloads, Payload.ofString, TfSocketio.Socketio.stringToValue, hread,
        Payload.setAckId, Payload.answered]

/-- It is built, and travels when the response passes. -/
theorem travels_answer (reader : SerdeReader json) (hslash : nsp.head? = some '/')
    (hclear : Clear nsp) {response : Payload json} {id : Fin 999} {packet : Packet}
    (hsupported : response.Supported) (hpasses : response.Passes reader transport)
    (h : Packet.ackFromPayload json response nsp (some id.val) = .ok packet) :
    Built json packet ∧ packet.Travels transport := by
  refine ⟨.ack hsupported ⟨hslash, hclear.1⟩ (isAckId_id id) h, ?_⟩
  have hpasted : response.pasted [] = [] := by
    cases hsupported with
    | binary data ackId => rfl
    | text data ackId => rfl
  have htext : separatorChar ∉ packet.text := by
    rw [mem_ackFromPayload reader.isNumber h, hpasted]
    simpa using hclear.2
  refine ⟨htext, fun hws data hdata => ?_⟩
  cases hsupported with
  | binary bytes ackId =>
      obtain rfl := Except.ok.inj h
      obtain rfl : data = bytes := by simpa using hdata
      exact hpasses hws
  | text args ackId =>
      obtain rfl := Except.ok.inj h
      simp at hdata

/-- The calls for a request hold one `on` call, and that is answered. -/
theorem answers_calls {callbacks : Callbacks} {request : Request json}
    (hon : callbacks.on (Event.ofString request.name) = true)
    (respond : Event → Payload json → Option (Payload json)) :
    (request.emission.calls callbacks).filterMap (answerOf nsp respond) =
      (request.answer nsp respond).toList := by
  have hcalls : request.emission.calls callbacks =
      .on (Event.ofString request.name) (.text request.args (some request.id.val)) ::
        if (Event.ofString request.name).isCommon && callbacks.onAny
          then [.onAny (Event.ofString request.name)
            (.text request.args (some request.id.val))] else [] := by
    show callback callbacks (Event.ofString request.name) (.text request.args none)
      (some request.id.val) = _
    simp [callback, hon, Payload.setAckId]
  have hanswer : answerOf nsp respond
      (.on (Event.ofString request.name) (.text request.args (some request.id.val))) =
        request.answer nsp respond := rfl
  have hany : (if (Event.ofString request.name).isCommon && callbacks.onAny
      then [Call.onAny (Event.ofString request.name)
        (Payload.text request.args (some request.id.val))] else []).filterMap
          (answerOf nsp respond) = [] := by
    split <;> rfl
  rw [hcalls, List.filterMap_cons, hanswer, hany]
  cases request.answer nsp respond <;> rfl

end Packets

/-! ## The round trip -/

section RoundTrip

variable {nsp : Str} {b64 : Engineio.Base64Engine} {transport : TransportType}
  {requests : List (Request json)} {respond : Event → Payload json → Option (Payload json)}

/-- The answers that the callbacks at the other side send. -/
def sentAnswers (server : Flavour) (b64 : Engineio.Base64Engine) (transport : TransportType)
    (nsp : Str) (callbacks : Callbacks) (respond : Event → Payload json → Option (Payload json))
    (requests : List (Request json)) : List Packet :=
  let packets := requests.flatMap fun request => request.emission.packets nsp
  let calls := (arrived server b64 json transport packets).flatMap
    (dispatchEvent reader nsp callbacks)
  calls.filterMap (answerOf nsp respond)

/-- What the callbacks of the requests hear when the acks are handled in an order. -/
structure Answered (client : Flavour) (nsp : Str)
    (respond : Event → Payload json → Option (Payload json)) (requests : List (Request json))
    (order : List (Packet × Nat)) (outstanding : List Ack) : Prop where
  answered : ∀ request ∈ requests, ∀ response, request.response respond = some response →
    ∃ packet now, (packet, now) ∈ order ∧ packet.id = some (request.id.val : Int) ∧
      heardBy request.ack (handleAcks reader client nsp order outstanding).1 =
        if request.ack.inTime now then [response.answered request.id.val] else []
  unanswered : ∀ request ∈ requests, request.response respond = none →
    heardBy request.ack (handleAcks reader client nsp order outstanding).1 = []
  others : ∀ ack ∈ outstanding, (∀ request ∈ requests, ack ≠ request.ack) →
    heardBy ack (handleAcks reader client nsp order outstanding).1 = []
  left : ∀ ack, ack ∈ (handleAcks reader client nsp order outstanding).2 ↔
    ack ∈ outstanding ∧
      ∀ request ∈ requests, ack = request.ack → request.response respond = none

/-- Whatever reaches is answered, one answer for each request that has a response. -/
theorem sentAnswers_eq (reader : SerdeReader json) (server : Flavour)
    (hslash : nsp.head? = some '/') (hclear : Clear nsp)
    (hreaches : ∀ request ∈ requests, request.emission.Reaches reader transport)
    {callbacks : Callbacks}
    (hon : ∀ request ∈ requests, callbacks.on (Event.ofString request.name) = true) :
    sentAnswers reader.fromStr server b64 transport nsp callbacks respond requests =
      requests.filterMap (Request.answer nsp respond) := by
  have hpackets : ∀ packet ∈ requests.flatMap (fun request => request.emission.packets nsp),
      Built json packet ∧ packet.Travels transport := by
    intro packet hmem
    obtain ⟨request, hrequest, hin⟩ := List.mem_flatMap.mp hmem
    obtain ⟨sent, hsent, hone⟩ := request.emission.packets_eq nsp
    obtain rfl : packet = sent := by simpa [hone] using hin
    have hsupported : request.emission.payload.Supported := .text request.args none
    exact ⟨Emission.built hslash hclear.1 hsupported hsent,
      travels_of_reaches reader hclear.2 hsupported hsent (hreaches request hrequest)⟩
  rw [sentAnswers, arrived_eq server hpackets]
  clear hpackets
  induction requests with
  | nil => rfl
  | cons request requests ih =>
      obtain ⟨hrequest, hothers⟩ := List.forall_mem_cons.mp hreaches
      obtain ⟨hregistered, hregistrations⟩ := List.forall_mem_cons.mp hon
      obtain ⟨sent, hsent, hone⟩ := request.emission.packets_eq nsp
      have hsupported : request.emission.payload.Supported := .text request.args none
      have hcalls := dispatch_of_reaches reader hsupported hsent hrequest callbacks
      rw [List.flatMap_cons, hone, List.singleton_append, List.flatMap_cons, hcalls,
        List.filterMap_append, answers_calls hregistered, ih hothers hregistrations,
        List.filterMap_cons]
      cases request.answer nsp respond <;> rfl

theorem ackId_inj {request other : Request json} (h : request.ack = other.ack) :
    request.id = other.id := by
  have hid := congrArg Ack.id h
  simp only [Request.ack] at hid
  omega

theorem answersTo_answer {request : Request json} {packet : Packet}
    (h : request.answer nsp respond = some packet) : answersTo nsp request.ack packet = true := by
  obtain ⟨-, -, -, hid, hhandler⟩ := Request.answer_fields h
  simp only [answersTo, hhandler, hid, Request.ack, and_self, decide_true]

/-- The acks that are handled are the answers to the requests. -/
def Handles (nsp : Str) (respond : Event → Payload json → Option (Payload json))
    (requests : List (Request json)) (order : List (Packet × Nat)) : Prop :=
  ∀ packet, packet ∈ order.map Prod.fst ↔
    ∃ request ∈ requests, request.answer nsp respond = some packet

section Handles

variable {order : List (Packet × Nat)} {outstanding : List Ack}

theorem handles_of_sent (reader : SerdeReader json) (client : Flavour)
    (hslash : nsp.head? = some '/') (hclear : Clear nsp)
    (hresponds : ∀ request ∈ requests, ∀ response, request.response respond = some response →
      response.Supported ∧ response.Passes reader transport)
    {answers : List Packet}
    (hanswers : answers.Perm (requests.filterMap (Request.answer nsp respond)))
    (horder : (order.map Prod.fst).Perm (arrived client b64 json transport answers)) :
    Handles nsp respond requests order := by
  intro packet
  have htravel : ∀ p ∈ answers, Built json p ∧ p.Travels transport := by
    intro p hp
    obtain ⟨request, hrequest, hanswer⟩ := List.mem_filterMap.mp (hanswers.mem_iff.mp hp)
    obtain ⟨response, hresponse, hsent, -⟩ := Request.answer_fields hanswer
    obtain ⟨hsupported, hpasses⟩ := hresponds request hrequest response hresponse
    exact travels_answer reader hslash hclear hsupported hpasses hsent
  rw [horder.mem_iff, arrived_eq client htravel, hanswers.mem_iff, List.mem_filterMap]

/-- The answer to a request that is answered is handled at some time. -/
theorem Handles.handled (h : Handles nsp respond requests order) {request : Request json}
    (hrequest : request ∈ requests) {response : Payload json}
    (hresponse : request.response respond = some response) :
    ∃ handled ∈ order, answersTo nsp request.ack handled.1 = true := by
  obtain ⟨packet, hpacket⟩ := @Request.answer_of_response json nsp respond request _ hresponse
  obtain ⟨handled, hin, rfl⟩ := List.mem_map.mp ((h packet).mpr ⟨request, hrequest, hpacket⟩)
  exact ⟨handled, hin, answersTo_answer hpacket⟩

/-- An ack that answers an entry is the answer to the request of that entry. -/
theorem Handles.asked (h : Handles nsp respond requests order)
    (hnodup : (outstanding.map Ack.id).Nodup)
    (hregistered : ∀ request ∈ requests, request.ack ∈ outstanding) {ack : Ack}
    (hack : ack ∈ outstanding) {handled : Packet × Nat} (hin : handled ∈ order)
    (hanswer : answersTo nsp ack handled.1 = true) :
    ∃ request ∈ requests, request.answer nsp respond = some handled.1 ∧ ack = request.ack := by
  obtain ⟨request, hrequest, hpacket⟩ := (h handled.1).mp (List.mem_map_of_mem hin)
  obtain ⟨-, -, -, hid, -⟩ := Request.answer_fields hpacket
  have hsame : ack.id = request.ack.id := by
    have hboth : handled.1.id = some ack.id := by
      simp only [answersTo, decide_eq_true_eq] at hanswer
      exact hanswer.2
    exact (Option.some.inj (hid.symm.trans hboth)).symm
  exact ⟨request, hrequest, hpacket,
    List.inj_on_of_nodup_map hnodup hack (hregistered request hrequest) hsame⟩

/-- No ack answers an entry whose request is not answered. -/
theorem Handles.silent (h : Handles nsp respond requests order)
    (hnodup : (outstanding.map Ack.id).Nodup)
    (hregistered : ∀ request ∈ requests, request.ack ∈ outstanding) {ack : Ack}
    (hack : ack ∈ outstanding)
    (hnone : ∀ request ∈ requests, ack = request.ack → request.response respond = none) :
    ∀ handled ∈ order, answersTo nsp ack handled.1 = false := by
  intro handled hin
  by_contra hanswer
  obtain ⟨request, hrequest, hpacket, rfl⟩ :=
    h.asked hnodup hregistered hack hin (by simpa using hanswer)
  obtain ⟨response, hresponse, -⟩ := Request.answer_fields hpacket
  rw [hnone request hrequest rfl] at hresponse
  cases hresponse

end Handles

/-- **Requests and answers.**  However many requests with pairwise distinct ids are in flight, in
whatever order the callbacks at the other side answer them, and in whatever order the acks are then
handled: each answered request that is in time has its callback invoked once, with the response to
it, and no other callback is invoked.  Exactly the entries of the answered requests leave. -/
theorem roundTrip (reader : SerdeReader json) (cfg : Config) (name : Str)
    (hclear : Clear (cfg.setNamespace name).nsp) (hids : (requests.map Request.id).Nodup)
    (hreaches : ∀ request ∈ requests, request.emission.Reaches reader transport)
    (hresponds : ∀ request ∈ requests, ∀ response, request.response respond = some response →
      response.Supported ∧ response.Passes reader transport)
    {callbacks : Callbacks}
    (hon : ∀ request ∈ requests, callbacks.on (Event.ofString request.name) = true)
    (server client : Flavour) {answers : List Packet}
    (hanswers : answers.Perm (sentAnswers reader.fromStr server b64 transport
      (cfg.setNamespace name).nsp callbacks respond requests))
    {order : List (Packet × Nat)}
    (horder : (order.map Prod.fst).Perm (arrived client b64 json transport answers))
    {outstanding : List Ack} (hnodup : (outstanding.map Ack.id).Nodup)
    (hregistered : ∀ request ∈ requests, request.ack ∈ outstanding) :
    Answered reader.fromStr client (cfg.setNamespace name).nsp respond requests order
      outstanding := by
  have hslash := cfg.setNamespace_head name
  generalize (cfg.setNamespace name).nsp = nsp at *
  rw [sentAnswers_eq reader server hslash hclear hreaches hon] at hanswers
  have hhandles : Handles nsp respond requests order :=
    handles_of_sent reader client hslash hclear hresponds hanswers horder
  constructor
  · intro request hrequest response hresponse
    obtain ⟨handled, hin, hanswer⟩ := hhandles.handled hrequest hresponse
    obtain ⟨first, now, hfirst, hanswers, hheard⟩ := firstAnswer_of_mem reader.fromStr hin hanswer
    have hack := hregistered request hrequest
    obtain ⟨other, hother, hsent, hsame⟩ :=
      hhandles.asked hnodup hregistered hack hfirst hanswers
    -- the ids are distinct, so the first answer is the one answer
    obtain rfl : request = other :=
      List.inj_on_of_nodup_map hids hrequest hother (ackId_inj hsame)
    obtain ⟨said, hsaid, hbuilt, hid, -⟩ := Request.answer_fields hsent
    obtain rfl : response = said := Option.some.inj (hresponse.symm.trans hsaid)
    obtain ⟨hsupported, hpasses⟩ := hresponds request hrequest response hresponse
    refine ⟨first, now, hfirst, hid, ?_⟩
    rw [heardBy_handleAcks reader.fromStr client order hnodup hack, hheard,
      ackPayloads_answer reader hsupported hpasses hbuilt]
  · intro request hrequest hnone
    have hack := hregistered request hrequest
    rw [heardBy_handleAcks reader.fromStr client order hnodup hack]
    refine firstAnswer_of_none reader.fromStr
      (hhandles.silent hnodup hregistered hack fun other hother hsame => ?_)
    obtain rfl : request = other :=
      List.inj_on_of_nodup_map hids hrequest hother (ackId_inj hsame)
    exact hnone
  · intro ack hack hother
    rw [heardBy_handleAcks reader.fromStr client order hnodup hack]
    exact firstAnswer_of_none reader.fromStr (hhandles.silent hnodup hregistered hack
      fun request hrequest hsame => absurd hsame (hother request hrequest))
  · intro ack
    rw [left_of_handleAcks reader.fromStr client order hnodup, List.mem_filter, List.all_eq_true]
    constructor
    · rintro ⟨hack, hall⟩
      refine ⟨hack, ?_⟩
      rintro request hrequest rfl
      by_contra hresponse
      obtain ⟨response, hresponse⟩ := Option.ne_none_iff_exists'.mp hresponse
      obtain ⟨handled, hin, hanswer⟩ := hhandles.handled hrequest hresponse
      have hno := hall handled hin
      simp [hanswer] at hno
    · rintro ⟨hack, hnone⟩
      refine ⟨hack, fun handled hin => ?_⟩
      simp [hhandles.silent hnodup hregistered hack hnone handled hin]

end RoundTrip

/-- Two requests in flight together. -/
noncomputable def sumAndRaw : List (Request .texts) :=
  [⟨"sum".toList, [.null], ⟨30, by decide⟩, 0, 0, 10⟩,
    ⟨"raw".toList, [.null], ⟨3, by decide⟩, 1, 2, 10⟩]

/-- An application that answers the one with a text and the other with bytes. -/
noncomputable def respondTo : Event → Payload .texts → Option (Payload .texts)
  | .custom ['s', 'u', 'm'], _ => some (.text [.bool true] none)
  | .custom ['r', 'a', 'w'], _ => some (.binary [2, 0xff] none)
  | _, _ => none

/-- The answers come in the other order, and the requests are told apart. -/
theorem roundTrip_sumAndRaw :
    Answered SerdeReader.texts.fromStr .sync (Config.new.setNamespace "chat".toList).nsp respondTo
      sumAndRaw
      ((arrived .sync .standard .texts .websocket
        (sentAnswers SerdeReader.texts.fromStr .async .standard .websocket
          (Config.new.setNamespace "chat".toList).nsp ⟨fun _ => true, true⟩ respondTo
            sumAndRaw).reverse).map fun packet => (packet, 5))
      (sumAndRaw.map Request.ack) := by
  have hclear : Clear (Config.new.setNamespace "chat".toList).nsp := ⟨by decide, by decide⟩
  have hnull : ∀ value ∈ ([.null] : List SerdeJson.texts.Value),
      SerdeReader.texts.Faithful value := by
    intro value hvalue
    obtain rfl := List.mem_singleton.mp hvalue
    exact SerdeReader.texts_faithful_null
  have hreaches : ∀ request ∈ sumAndRaw,
      request.emission.Reaches SerdeReader.texts .websocket := by
    simp only [sumAndRaw, List.forall_mem_cons]
    have hsum : lowercase "sum".toList ≠ "open".toList := by decide
    have hraw : lowercase "raw".toList ≠ "open".toList := by decide
    exact ⟨⟨by simp, hsum, hnull⟩, ⟨by simp, hraw, hnull⟩, fun _ h => by cases h⟩
  have hresponds : ∀ request ∈ sumAndRaw, ∀ response,
      request.response respondTo = some response →
        response.Supported ∧ response.Passes SerdeReader.texts .websocket := by
    simp only [sumAndRaw, List.forall_mem_cons]
    refine ⟨?_, ?_, fun _ h => by cases h⟩
    · rintro response h
      obtain rfl := Option.some.inj h
      refine ⟨.text _ _, fun value hvalue => ?_⟩
      obtain rfl := List.mem_singleton.mp hvalue
      exact SerdeReader.reads_toString.mpr rfl
    · rintro response h
      obtain rfl := Option.some.inj h
      have hbytes : ([2, 0xff] : Bytes) ≠ [] ∧ Engineio.separator ∉ ([2, 0xff] : Bytes) := by decide
      exact ⟨.binary _ _, fun _ => hbytes⟩
  have hon : ∀ request ∈ sumAndRaw,
      (⟨fun _ => true, true⟩ : Callbacks).on (Event.ofString request.name) = true :=
    fun _ _ => rfl
  refine @roundTrip .texts .standard .websocket sumAndRaw respondTo SerdeReader.texts
    Config.new "chat".toList hclear (by decide) hreaches hresponds _ hon
    .async .sync _ (List.reverse_perm _) _ ?_ _ (by decide) fun request h => List.mem_map_of_mem h
  rw [List.map_map]
  exact List.Perm.of_eq (List.map_id _)

end TfSocketio.Socketio
