/-
# Socketio.Packet — the socket.io packet codec.

A packet's text is its type digit, for a binary type the attachment count and `-`, a namespace other
than `/` and `,`, the ack id in decimal, and the JSON data.  The attachments travel as engine.io
packets of their own; the text of a binary packet holds placeholder objects in their place, which
the decoder deletes textually.
-/
import TfSocketio.Socketio.Event

namespace TfSocketio.Socketio

open Engineio (Bytes)
open Text (Str)

/-- The socket.io errors the modelled functions return.  Errors that wrap a foreign error value
carry no payload here, except the engine.io error. -/
inductive Error where
  | invalidPacketId (c : Char)
  | incompletePacket
  | invalidPacket
  | invalidUtf8
  | invalidJson
  | illegalActionBeforeOpen
  | incompleteResponseFromEngineIo (error : Engineio.Error)
  | invalidAttachmentPacketType (packetId : UInt8)
  deriving DecidableEq, Repr

/-! ## Packet ids -/

/-- The `socket.io` packet types. -/
inductive PacketId where
  | connect
  | disconnect
  | event
  | ack
  | connectError
  | binaryEvent
  | binaryAck
  deriving DecidableEq, Repr

/-- `(packet_type as u8 + b'0') as char`. -/
def PacketId.toChar : PacketId → Char
  | .connect => '0'
  | .disconnect => '1'
  | .event => '2'
  | .ack => '3'
  | .connectError => '4'
  | .binaryEvent => '5'
  | .binaryAck => '6'

/-- The packet type of a type digit (`TryFrom<char> for PacketId`). -/
def PacketId.tryFrom (b : Char) : Except Error PacketId :=
  if b = '0' then .ok .connect
  else if b = '1' then .ok .disconnect
  else if b = '2' then .ok .event
  else if b = '3' then .ok .ack
  else if b = '4' then .ok .connectError
  else if b = '5' then .ok .binaryEvent
  else if b = '6' then .ok .binaryAck
  else .error (.invalidPacketId b)

@[simp] theorem PacketId.tryFrom_toChar (t : PacketId) : PacketId.tryFrom t.toChar = .ok t := by
  cases t <;> rfl

/-- The types whose packets announce attachments. -/
def PacketId.isBinary : PacketId → Bool
  | .binaryEvent => true
  | .binaryAck => true
  | _ => false

/-! ## Packets -/

/-- A packet sent or received in the `socket.io` protocol. -/
structure Packet where
  packetType : PacketId
  nsp : Str
  data : Option Str
  id : Option Int
  attachmentCount : UInt8
  attachments : Option (List Bytes)
  deriving DecidableEq, Repr

/-- `Default for Packet`. -/
def Packet.default : Packet where
  packetType := .event
  nsp := ['/']
  data := none
  id := none
  attachmentCount := 0
  attachments := none

variable (json : SerdeJson)

/-- The packet of an event (`Packet::new_from_payload`).  A binary payload with an id makes a
`BinaryAck`, and its event name is converted, not displayed. -/
def Packet.newFromPayload (payload : Payload json) (event : Event) (nsp : Str) (id : Option Int) :
    Except Error Packet :=
  match payload with
  | .binary binData _ =>
      .ok {
        packetType := if id.isSome then .binaryAck else .binaryEvent
        nsp
        data := some (json.toString (.string event.intoString))
        id
        attachmentCount := 1
        attachments := some [binData] }
  | .string strData _ =>
      -- the event name is pasted between quotes as it is, without escaping
      let payload :=
        if json.isJson strData then
          "[\"".toList ++ event.asStr ++ "\",".toList ++ strData ++ "]".toList
        else
          "[\"".toList ++ event.asStr ++ "\",\"".toList ++ strData ++ "\"]".toList
      .ok {
        packetType := .event
        nsp
        data := some payload
        id
        attachmentCount := 0
        attachments := none }
  | .text data _ =>
      .ok {
        packetType := .event
        nsp
        data := some (json.toString (.array (.string event.asStr :: data)))
        id
        attachmentCount := 0
        attachments := none }

/-- The packet of an ack (`Packet::ack_from_payload`). -/
def Packet.ackFromPayload (payload : Payload json) (nsp : Str) (ackId : Option Int) :
    Except Error Packet :=
  match payload with
  | .binary binData _ =>
      .ok {
        packetType := .binaryAck
        nsp
        data := none
        id := ackId
        attachmentCount := 1
        attachments := some [binData] }
  | .string strData _ =>
      let payload :=
        if json.isJson strData then "[".toList ++ strData ++ "]".toList
        else "[\"".toList ++ strData ++ "\"]".toList
      .ok {
        packetType := .ack
        nsp
        data := some payload
        id := ackId
        attachmentCount := 0
        attachments := none }
  | .text data _ =>
      .ok {
        packetType := .ack
        nsp
        data := some (json.toString (.array data))
        id := ackId
        attachmentCount := 0
        attachments := none }

/-- The packet of a disconnect request. -/
def Packet.disconnect (nsp : Str) : Packet where
  packetType := .disconnect
  nsp
  data := none
  id := none
  attachmentCount := 0
  attachments := none

/-- The opening packet of a client, with the data for the authentication. -/
def Packet.opening (nsp : Str) (auth : Option json.Value) : Packet where
  packetType := .connect
  nsp
  data := auth.map json.toString
  id := none
  attachmentCount := 0
  attachments := none

/-! ## Encoding -/

/-- The object that stands for attachment `num` in a binary packet's text. -/
def placeholder (num : Nat) : Str :=
  '{' :: ("\"_placeholder\":true,\"num\":".toList ++ (Nat.toDigits 10 num ++ ['}']))

/-- The attachment count of a binary packet, followed by `-`. -/
def Packet.countText (packet : Packet) : Str :=
  if packet.packetType.isBinary then Nat.toDigits 10 packet.attachmentCount.toNat ++ ['-'] else []

/-- The namespace followed by `,`, unless it is the default one. -/
def Packet.nspText (packet : Packet) : Str :=
  if packet.nsp = ['/'] then [] else packet.nsp ++ [',']

def Packet.idText (packet : Packet) : Str :=
  match packet.id with
  | some id => Text.printInt id
  | none => []

/-- The data; in a packet with attachments, wrapped in an array with one placeholder.  The count is
a `u8`, and its decrement wraps; where overflows are checked it panics instead, which no packet the
client builds makes it do. -/
def Packet.dataText (packet : Packet) : Str :=
  if packet.attachments.isSome then
    let num := (packet.attachmentCount - 1).toNat
    match packet.data with
    | some eventType => '[' :: (eventType ++ ',' :: (placeholder num ++ [']']))
    | none => '[' :: (placeholder num ++ [']'])
  else packet.data.getD []

def Packet.text (packet : Packet) : Str :=
  packet.packetType.toChar ::
    (packet.countText ++ (packet.nspText ++ (packet.idText ++ packet.dataText)))

/-- Encodes a packet (`From<&Packet> for Bytes`).  The attachments are not part of it. -/
def Packet.toBytes (packet : Packet) : Bytes := Text.utf8 packet.text

/-! ## Decoding -/

/-- `str::parse::<u8>`: digits, after an optional plus sign. -/
def parseU8 (s : Str) : Option UInt8 :=
  let digits := match s with
    | '+' :: digits => digits
    | digits => digits
  (Text.parseDigits digits).bind fun n => if n < 256 then some (UInt8.ofNat n) else none

/-- `str::parse::<i32>`: digits, after an optional sign. -/
def parseI32 : Str → Option Int
  | '-' :: digits => (Text.parseDigits digits).bind fun n => if n ≤ 2 ^ 31 then some (-n) else none
  | '+' :: digits => (Text.parseDigits digits).bind fun n => if n < 2 ^ 31 then some n else none
  | digits => (Text.parseDigits digits).bind fun n => if n < 2 ^ 31 then some n else none

/-- Reads the attachment count of a binary packet. -/
def decodeCount (packetType : PacketId) (payload : Str) : Except Error (UInt8 × Str) :=
  if packetType.isBinary then
    match Text.splitOnce '-' payload with
    | none => .error .incompletePacket
    | some (count, rest) =>
        match parseU8 count with
        | some n => .ok (n, rest)
        | none => .error .invalidPacket
  else .ok (0, payload)

/-- Reads the namespace, which is there if the text goes on with a slash. -/
def decodeNsp (payload : Str) : Except Error (Str × Str) :=
  if payload.head? = some '/' then
    match Text.splitOnce ',' payload with
    | none => .error .incompletePacket
    | some (nsp, rest) => .ok (nsp, rest)
  else .ok (['/'], payload)

/-- The data of a binary packet's JSON text: the brackets, the placeholders and a trailing comma are
removed, and what is left may be nothing. -/
def binaryData (payload : Str) : Option Str :=
  let inner :=
    if payload.head? = some '[' ∧ payload.getLast? = some ']' then payload.tail.dropLast
    else payload
  -- only the placeholder with number 0 is looked for
  let str := Text.removeAll (placeholder 0) inner
  let str := if str.getLast? = some ',' then str.dropLast else str
  if str = [] then none else some str

/-- Reads the id and the JSON data.  A text of digits only has neither: the source returns before it
looks at them. -/
def decodeIdAndData (packet : Packet) (payload : Str) : Except Error Packet :=
  let (digits, rest) := Text.leadingDigits payload
  if rest = [] then .ok packet
  else
    match if digits = [] then some none else (parseI32 digits).map some with
    | none => .error .invalidPacket
    | some id =>
        if json.isJson rest then
          let data := if packet.packetType.isBinary then binaryData rest else some rest
          .ok { packet with id, data }
        else .error .invalidJson

/-- Decodes the text of a packet. -/
def Packet.ofText : Str → Except Error Packet
  | [] => .error .incompletePacket
  | idChar :: payload => do
      let packetType ← PacketId.tryFrom idChar
      let (attachmentCount, payload) ← decodeCount packetType payload
      let (nsp, payload) ← decodeNsp payload
      decodeIdAndData json { Packet.default with packetType, attachmentCount, nsp } payload

/-- Decodes a packet (`TryFrom<&Bytes> for Packet`).  Its attachments are left out; the socket
collects them. -/
def Packet.tryFrom (payload : Bytes) : Except Error Packet :=
  match Text.fromUtf8 payload with
  | none => .error .invalidUtf8
  | some payload => Packet.ofText json payload

end TfSocketio.Socketio
