/-
# Socketio.Handlers — which callbacks a received packet invokes, and with what.

The handlers of the two clients are the same functions: `handle_event` reads the data of an event as
a JSON array of a name and arguments, `handle_ack` passes the data of an ack on as one value, and
`handle_binary_event` takes the event's name from what the decoder has left of the text.

`text_delivered` is the way of a text payload from end to end: what `new_from_payload` and
`ack_from_payload` make of it, encoded, decoded and handled, invokes the callback it is meant for
with the arguments that were sent.
-/
import TfSocketio.Socketio.Acks
import TfSocketio.Socketio.Codec

namespace TfSocketio.Socketio

open Engineio (Bytes)
open Text (Str)

/-! ## Names and values -/

/-- `str::to_lowercase`, as far as the reserved names need it: of the characters outside ASCII only
the Kelvin sign has an ASCII letter for its lower case, and no reserved name has a `k`. -/
def lowercase (s : Str) : Str := s.map Char.toLower

/-- The event of a name (`From<String> for Event`).  The reserved names are recognised in any case,
and `connect` is not one of them. -/
def Event.ofString (string : Str) : Event :=
  if lowercase string = "message".toList then .message
  else if lowercase string = "error".toList then .error
  else if lowercase string = "open".toList then .connect
  else if lowercase string = "close".toList then .close
  else .custom string

/-- `serde_json::from_str::<Value>`. -/
abbrev FromStr (json : SerdeJson) := Str → Option json.Value

/-- The reader of JSON with integers for numbers. -/
def FromStr.integers : FromStr .integers := Json.parse Json.intFormat

variable {json : SerdeJson} (reader : FromStr json)

/-- A value is read back from its text.  Not every value is: the depth of nesting is limited, and a
float may be read as its neighbour. -/
def FromStr.ReadsBack (value : json.Value) : Prop := reader (json.toString value) = some value

theorem FromStr.integers_readsBack (value : SerdeJson.integers.Value) :
    FromStr.integers.ReadsBack value := Json.parse_print Json.intFormat value

/-- A text that is no JSON is a value as a string (`Payload::string_to_value`). -/
def stringToValue (string : Str) : json.Value := (reader string).getD (.string string)

/-- `From<String> for Payload`. -/
def Payload.ofString (string : Str) : Payload json := .text [stringToValue reader string] none

def Payload.setAckId (payload : Payload json) (ackId : Option Int) : Payload json :=
  match payload with
  | .binary data _ => .binary data ackId
  | .text data _ => .text data ackId
  | .string data _ => .string data ackId

/-! ## Callbacks -/

/-- The registered callbacks: the events with an `on` callback, and whether there is an `on_any`. -/
structure Callbacks where
  on : Event → Bool
  onAny : Bool

/-- An invocation of a registered callback. -/
inductive Call (json : SerdeJson) where
  | on (event : Event) (payload : Payload json)
  | onAny (event : Event) (payload : Payload json)

/-- The events `on_any` hears of. -/
def Event.isCommon : Event → Bool
  | .message => true
  | .custom _ => true
  | _ => false

/-- Invokes the callback of an event, and `on_any` if it hears of it. -/
def callback (callbacks : Callbacks) (event : Event) (payload : Payload json)
    (ackId : Option Int) : List (Call json) :=
  let payload := payload.setAckId ackId
  (if callbacks.on event then [.on event payload] else []) ++
    if event.isCommon && callbacks.onAny then [.onAny event payload] else []

/-! ## The handlers -/

/-- The event and the arguments of an array: its first element is the name if it is a string and
arguments follow. -/
def eventOf : List json.Value → Event × List json.Value
  | .string ev :: payload :: payloads => (Event.ofString ev, payload :: payloads)
  | contents => (.message, contents)

/-- Handles a text event.  Data that is no array is ignored. -/
def handleEvent (callbacks : Callbacks) (packet : Packet) : Except Error (List (Call json)) :=
  match packet.data with
  | none => .ok []
  | some data =>
      match reader data with
      | some (.array []) => .error .incompletePacket
      | some (.array contents) =>
          let (event, payloads) := eventOf contents
          .ok (callback callbacks event (.text payloads none) packet.id)
      | _ => .ok []

/-- `string_data.replace('\"', "")`. -/
def deleteQuotes (stringData : Str) : Str := stringData.filter (· ≠ '"')

/-- The name of a binary event: the quotes are deleted from the data, wherever they are. -/
def binaryEventOf (packet : Packet) : Event :=
  match packet.data with
  | some stringData => Event.ofString (deleteQuotes stringData)
  | none => .message

/-- Handles a binary event: the first attachment is its payload. -/
def handleBinaryEvent (callbacks : Callbacks) (packet : Packet) : List (Call json) :=
  match packet.attachments with
  | some (binaryPayload :: _) =>
      callback callbacks (binaryEventOf packet) (.binary binaryPayload packet.id) packet.id
  | _ => []

/-- The payloads an ack hands to the callback it matches: its data, then its first attachment. -/
def ackPayloads (packet : Packet) : List (Payload json) :=
  (packet.data.toList.map fun data => (Payload.ofString reader data).setAckId packet.id) ++
    ((packet.attachments.getD []).take 1).map fun data => .binary data packet.id

/-- `handleAck` with the payloads: the invocations, and the entries that stay outstanding. -/
def handleAckCalls (flavour : Flavour) (packet : Packet) (now : Nat) (outstanding : List Ack) :
    List (Ack × Payload json) × List Ack :=
  match packet.id with
  | none => ([], outstanding)
  | some id =>
      let (matched, outstanding) := takeMatching flavour id outstanding
      ((matched.filter fun ack => ack.inTime now).flatMap fun ack =>
          (ackPayloads reader packet).map fun payload => (ack, payload),
        outstanding)

/-- The callbacks invoked are those of `handleAck`, as often and in the same order. -/
theorem handleAckCalls_fst (flavour : Flavour) (packet : Packet) (now : Nat)
    (outstanding : List Ack) :
    ((handleAckCalls reader flavour packet now outstanding).1.map Prod.fst,
      (handleAckCalls reader flavour packet now outstanding).2) =
        handleAck flavour packet now outstanding := by
  have hcount : (ackPayloads reader packet).length = payloadCount packet := by
    simp [ackPayloads, payloadCount]
  unfold handleAckCalls handleAck
  cases packet.id with
  | none => rfl
  | some id =>
      simp only [List.map_flatMap, List.map_map, Prod.mk.injEq, and_true]
      congr
      funext ack
      rw [← hcount]
      exact List.map_const'

section Delivered

/-- A name that is not reserved is a custom event, and is displayed as it is. -/
theorem Event.ofString_custom {e : Str}
    (h : lowercase e ∉ ["message".toList, "error".toList, "open".toList, "close".toList]) :
    Event.ofString e = .custom e := by
  simp only [List.mem_cons, List.not_mem_nil, or_false, not_or] at h
  obtain ⟨hmessage, herror, hopen, hclose⟩ := h
  simp only [Event.ofString, hmessage, herror, hopen, hclose, if_false]

/-- What is read as an array of a name and arguments is handled under that name. -/
theorem handleEvent_named (packet : Packet) {data name : Str} {args : List json.Value}
    (hdata : packet.data = some data) (hread : reader data = some (.array (.string name :: args)))
    (hne : args ≠ []) (callbacks : Callbacks) :
    handleEvent reader callbacks packet =
      .ok (callback callbacks (Event.ofString name) (.text args none) packet.id) := by
  obtain ⟨arg, rest, rfl⟩ := List.exists_cons_of_ne_nil hne
  simp only [handleEvent, hdata, hread, eventOf]

/-- The only entry with an id is taken, by either client. -/
theorem takeMatching_of_unique (flavour : Flavour) {before after : List Ack} {ack : Ack}
    (h : ∀ other ∈ before ++ after, other.id ≠ ack.id) :
    takeMatching flavour ack.id (before ++ ack :: after) = ([ack], before ++ after) := by
  have hbefore : ∀ other ∈ before, other.id ≠ ack.id := fun other ho =>
    h other (List.mem_append_left _ ho)
  have hafter : ∀ other ∈ after, other.id ≠ ack.id := fun other ho =>
    h other (List.mem_append_right _ ho)
  cases flavour with
  | sync =>
      have hfind : (before ++ ack :: after).find? (fun other => other.id = ack.id) = some ack := by
        rw [List.find?_append, List.find?_eq_none.mpr (by simpa using hbefore)]
        simp
      have herase : (before ++ ack :: after).eraseP (fun other => other.id = ack.id) =
          before ++ after := by
        rw [List.eraseP_append_right _ (by simpa using hbefore)]
        simp
      rw [takeMatching, hfind, herase]
      rfl
  | async =>
      rw [takeMatching_async]
      have hnone : ∀ l : List Ack, (∀ other ∈ l, other.id ≠ ack.id) →
          (l.filter fun other => other.id = ack.id) = [] ∧
            (l.filter fun other => other.id ≠ ack.id) = l := by
        intro l hl
        rw [List.filter_eq_nil_iff, List.filter_eq_self]
        exact ⟨by simpa using hl, by simpa using hl⟩
      simp only [List.filter_append, (hnone before hbefore).1, (hnone before hbefore).2]
      simpa [(hnone after hafter).1] using hafter

/-- The one entry that waits for an ack gets all its payloads, and is taken out. -/
theorem handleAckCalls_unique {packet : Packet} {ack : Ack} {now : Nat} {before after : List Ack}
    (hid : packet.id = some ack.id) (hnow : ack.inTime now = true)
    (hunique : ∀ other ∈ before ++ after, other.id ≠ ack.id) (flavour : Flavour) :
    handleAckCalls reader flavour packet now (before ++ ack :: after) =
      ((ackPayloads reader packet).map fun payload => (ack, payload), before ++ after) := by
  simp [handleAckCalls, hid, takeMatching_of_unique flavour hunique, hnow]

/-- A decoded ack whose data is the text of a value, and one entry that waits for it. -/
theorem handleAckCalls_value {packet : Packet} {value : json.Value} {ack : Ack} {now : Nat}
    {before after : List Ack} (hid : packet.id = some ack.id)
    (hdata : packet.data = some (json.toString value)) (hread : reader.ReadsBack value)
    (hattachments : packet.attachments = none) (hnow : ack.inTime now = true)
    (hunique : ∀ other ∈ before ++ after, other.id ≠ ack.id) (flavour : Flavour) :
    handleAckCalls reader flavour packet now (before ++ ack :: after) =
      ([(ack, .text [value] (some ack.id))], before ++ after) := by
  have hpayloads : ackPayloads reader packet = [.text [value] (some ack.id)] := by
    have hvalue : stringToValue reader (json.toString value) = value := by
      rw [stringToValue, show reader (json.toString value) = some value from hread,
        Option.getD_some]
    simp [ackPayloads, hdata, hattachments, hid, Payload.ofString, hvalue, Payload.setAckId]
  rw [handleAckCalls_unique reader hid hnow hunique, hpayloads]
  rfl

end Delivered

/-- **Text events and acks arrive as they were sent**, if the array in their data is read back.  An
event with a name that is not reserved and at least one argument invokes the callback of its name,
and `on_any`, with the arguments and the id that were sent; an ack invokes the callback of the one
entry that waits for its id, once, with the array of its arguments, and takes that entry out. -/
theorem text_delivered {nsp : Str} (hnsp : IsNamespace nsp) :
    (∀ (e : Str) (args : List json.Value) (ackId id : Option Int),
      lowercase e ∉ ["message".toList, "error".toList, "open".toList, "close".toList] →
      args ≠ [] → IsAckId id → reader.ReadsBack (.array (.string e :: args)) →
      ∃ sent received,
        Packet.newFromPayload json (.text args ackId) (Event.ofString e) nsp id = .ok sent ∧
        Packet.tryFrom json sent.toBytes = .ok received ∧ received.nsp = nsp ∧
        ∀ callbacks : Callbacks, handleEvent reader callbacks received = .ok
          ((if callbacks.on (Event.ofString e) then [.on (Event.ofString e) (.text args id)]
              else []) ++
            if callbacks.onAny then [.onAny (Event.ofString e) (.text args id)] else [])) ∧
    ∀ (args : List json.Value) (ackId : Option Int) (id : Int), 0 ≤ id ∧ id < 2 ^ 31 →
      reader.ReadsBack (.array args) → ∃ sent received,
        Packet.ackFromPayload json (.text args ackId) nsp (some id) = .ok sent ∧
        Packet.tryFrom json sent.toBytes = .ok received ∧ received.nsp = nsp ∧
        ∀ (flavour : Flavour) (now : Nat) (before after : List Ack) (ack : Ack), ack.id = id →
          ack.inTime now = true → (∀ other ∈ before ++ after, other.id ≠ id) →
          handleAckCalls reader flavour received now (before ++ ack :: after) =
            ([(ack, .text [.array args] (some id))], before ++ after) := by
  constructor
  · intro e args ackId id he hne hid hread
    have hevent := Event.ofString_custom he
    have hreadable : Packet.Readable json ⟨.event, nsp,
        some (json.toString (.array (.string (Event.ofString e).asStr :: args))), id, 0, none⟩ :=
      .of_array rfl hnsp hid _
    refine ⟨_, _, rfl, hreadable.tryFrom_toBytes, rfl, ?_⟩
    intro callbacks
    have hname : (Event.ofString e).asStr = e := congrArg Event.asStr hevent
    rw [handleEvent_named reader _ rfl (by rw [hname]; exact hread) hne, hevent]
    simp [callback, Payload.setAckId, Event.isCommon]
  · intro args ackId id hid hread
    have hack : IsAckId (some id) := by
      intro i hi
      obtain rfl := Option.some.inj hi
      exact hid
    have hreadable : Packet.Readable json
        ⟨.ack, nsp, some (json.toString (.array args)), some id, 0, none⟩ :=
      .of_array rfl hnsp hack args
    refine ⟨_, _, rfl, hreadable.tryFrom_toBytes, rfl, ?_⟩
    rintro flavour now before after ack rfl hnow hunique
    exact handleAckCalls_value reader rfl rfl hread rfl hnow hunique flavour

/-- A name of delimiters, and an ack without arguments between two other entries. -/
theorem text_delivered_delimiters :
    (∃ sent received,
      Packet.newFromPayload .integers (.text [.string "-[7]".toList, .null] none)
        (Event.ofString "1/a,[\"".toList) "/7-".toList (some 0) = .ok sent ∧
      Packet.tryFrom .integers sent.toBytes = .ok received ∧ received.nsp = "/7-".toList ∧
      handleEvent .integers ⟨fun _ => true, true⟩ received = .ok
        [.on (Event.ofString "1/a,[\"".toList) (.text [.string "-[7]".toList, .null] (some 0)),
          .onAny (Event.ofString "1/a,[\"".toList)
            (.text [.string "-[7]".toList, .null] (some 0))]) ∧
    ∃ sent received,
      Packet.ackFromPayload .integers (.text [] none) "/7-".toList (some 5) = .ok sent ∧
      Packet.tryFrom .integers sent.toBytes = .ok received ∧ received.nsp = "/7-".toList ∧
      handleAckCalls .integers .async received 3 [⟨0, 4, 0, 10⟩, ⟨1, 5, 0, 10⟩, ⟨2, 6, 0, 1⟩] =
        ([(⟨1, 5, 0, 10⟩, .text [.array []] (some 5))], [⟨0, 4, 0, 10⟩, ⟨2, 6, 0, 1⟩]) := by
  have hnsp : IsNamespace "/7-".toList := ⟨rfl, by decide⟩
  have hid : IsAckId (some 0) := by
    intro i hi
    obtain rfl := Option.some.inj hi
    decide
  constructor
  · obtain ⟨sent, received, hsent, hreceived, hto, hcalls⟩ :=
      (text_delivered FromStr.integers hnsp).1 "1/a,[\"".toList [.string "-[7]".toList, .null] none
        (some 0) (by decide) (by simp) hid (FromStr.integers_readsBack _)
    exact ⟨sent, received, hsent, hreceived, hto, hcalls ⟨fun _ => true, true⟩⟩
  · obtain ⟨sent, received, hsent, hreceived, hto, hcalls⟩ :=
      (text_delivered FromStr.integers hnsp).2 [] none 5 (by decide)
        (FromStr.integers_readsBack _)
    exact ⟨sent, received, hsent, hreceived, hto,
      hcalls .async 3 [⟨0, 4, 0, 10⟩] [⟨2, 6, 0, 1⟩] ⟨1, 5, 0, 10⟩ rfl rfl (by decide)⟩

end TfSocketio.Socketio
