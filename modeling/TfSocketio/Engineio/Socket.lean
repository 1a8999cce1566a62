/-
# Engineio.Socket — what the transports hand over and how the sockets read it.

Two transports deliver bytes.  A websocket delivers one buffer for each text or binary message; long
polling delivers the body of each GET response, whole to the synchronous client and chunk by chunk
to the asynchronous one.  Two sockets turn the buffers into packets: the synchronous `Socket::poll`
keeps the rest of a payload between calls, the asynchronous `Socket::stream` is a nested generator.

`decodeBodies` is the meaning both are compared with: decode every nonempty buffer as a payload, in
order, up to the first failure.  `Socket.items_eq` and `Socket.stream_eq` say that each socket
computes it.
-/
import TfSocketio.Engineio.Packet

namespace TfSocketio.Engineio

/-! ## Websocket transport -/

/-- A websocket close frame: its numeric code and its reason. -/
structure CloseFrame where
  code : Nat
  reason : String
  deriving DecidableEq, Repr

/-- A `tungstenite` message.  The text of a text message is its UTF-8 bytes. -/
inductive Message where
  | text (str : Bytes)
  | binary (data : Bytes)
  | ping (data : Bytes)
  | pong (data : Bytes)
  | close (frame : Option CloseFrame)
  deriving DecidableEq, Repr

/-- Converts a close frame into the error that surfaces its code; 1005 is "no status received". -/
def closeFrameToError (closeFrame : Option CloseFrame) : Error :=
  match closeFrame with
  | some frame => .websocketClosed frame.code frame.reason
  | none => .websocketClosed 1005 ""

/-- One turn of the receive loop of `AsyncWebsocketGeneralTransport::poll_next`: the buffer or the
error it returns, or nothing for a message the loop ignores. -/
def Websocket.received : Except Error Message → Option (Except Error Bytes)
  | .ok (.text str) => some (.ok str)
  | .ok (.binary data) => some (.ok (PacketId.message.toU8 :: data))
  | .ok (.close closeFrame) => some (.error (closeFrameToError closeFrame))
  | .ok (.ping _) => none
  | .ok (.pong _) => none
  | .error e => some (.error e)

/-- The results of the successive `poll_next` calls on an incoming message sequence.  The blocking
`poll` and the `Stream` instance run the same loop. -/
def Websocket.pollNext (incoming : List (Except Error Message)) : List (Except Error Bytes) :=
  incoming.filterMap Websocket.received

/-! ## Polling transport -/

/-- One GET response as the HTTP layer delivers it: the nonempty chunks of its body, in order. -/
structure Delivery where
  chunks : List Bytes
  chunks_ne_nil : ∀ chunk ∈ chunks, chunk ≠ []

/-- The whole body, which is what the blocking client reads. -/
def Delivery.body (delivery : Delivery) : Bytes := delivery.chunks.flatten

/-- The results of the successive `poll` calls of the blocking polling transport. -/
def Polling.poll (responses : List Delivery) : List (Except Error Bytes) :=
  responses.map fun response => .ok response.body

/-- The items of the asynchronous polling transport (`PollingTransport::stream`): every chunk of
every `bytes_stream` is yielded as it comes. -/
def Polling.stream (responses : List Delivery) : List (Except Error Bytes) :=
  responses.flatMap fun response => response.chunks.map .ok

/-! ## The synchronous socket -/

/-- The part of the engine.io `Socket` that polling reads and writes; `incoming` is what the
transport's next `poll` calls will return. -/
structure Socket where
  connected : Bool
  remainingPackets : Option (List Packet)
  incoming : List (Except Error Bytes)

/-- The outcome of one `Socket::poll` call. -/
inductive Polled where
  | packet (packet : Packet)
  | none
  | error (error : Error)
  /-- The transport has nothing to return: the call blocks. -/
  | pending
  deriving DecidableEq, Repr

/-- The part of `Socket::poll` that asks the transport for a new payload, once the buffered one has
run out.  Empty buffers are skipped. -/
def Socket.fetch (b64 : Base64Engine) (s : Socket) : List (Except Error Bytes) → Polled × Socket
  | [] => (.pending, { s with incoming := [] })
  | .error e :: incoming => (.error e, { s with incoming })
  | .ok data :: incoming =>
      if data = [] then s.fetch b64 incoming
      else
        match Payload.tryFrom b64 data with
        | .error e => (.error e, { s with incoming })
        -- back to the top of the loop; `tryFrom` returns no empty payload
        | .ok [] => s.fetch b64 incoming
        | .ok (packet :: iter) =>
            (.packet packet, { s with remainingPackets := some iter, incoming })

/-- Polls for the next packet. -/
def Socket.poll (b64 : Base64Engine) (s : Socket) : Polled × Socket :=
  if s.connected then
    match s.remainingPackets with
    | some (packet :: iter) => (.packet packet, { s with remainingPackets := some iter })
    | some [] => s.fetch b64 s.incoming
    | Option.none => s.fetch b64 s.incoming
  else (.none, s)

/-- A connected socket that has read nothing yet. -/
def Socket.reading (incoming : List (Except Error Bytes)) : Socket :=
  { connected := true, remainingPackets := Option.none, incoming }

/-- What a caller sees in up to `n` successive polls: the packets, and the first error. -/
def Socket.items (b64 : Base64Engine) : Nat → Socket → List (Except Error Packet)
  | 0, _ => []
  | n + 1, s =>
      match s.poll b64 with
      | (.packet packet, s') => .ok packet :: Socket.items b64 n s'
      | (.error e, _) => [.error e]
      | (.none, _) => []
      | (.pending, _) => []

/-! ## The asynchronous socket -/

/-- The items of `Socket::stream` over the items of a transport.  Both generators are `try_stream!`
blocks, so the first error is the last item. -/
def Socket.stream (b64 : Base64Engine) : List (Except Error Bytes) → List (Except Error Packet)
  | [] => []
  | .error e :: _ => [.error e]
  -- unlike `poll`, the generator decodes an empty buffer too
  | .ok payload :: rest =>
      match Payload.tryFrom b64 payload with
      | .error e => [.error e]
      | .ok packets => packets.map .ok ++ Socket.stream b64 rest

/-! ## The common meaning -/

/-- Decode every nonempty buffer as a payload, in order, up to the first failure. -/
def decodeBodies (b64 : Base64Engine) : List (Except Error Bytes) → List (Except Error Packet)
  | [] => []
  | .error e :: _ => [.error e]
  | .ok data :: rest =>
      if data = [] then decodeBodies b64 rest
      else
        match Payload.tryFrom b64 data with
        | .error e => [.error e]
        | .ok packets => packets.map .ok ++ decodeBodies b64 rest

/-- The items of one buffer. -/
def decodeItem (b64 : Base64Engine) : Except Error Bytes → List (Except Error Packet)
  | .error e => [.error e]
  | .ok data =>
      if data = [] then []
      else
        match Payload.tryFrom b64 data with
        | .error e => [.error e]
        | .ok packets => packets.map .ok

/-- Decode every nonempty buffer as a payload, in order, where a caller polls on behind a
failure. -/
def decodeAll (b64 : Base64Engine) (incoming : List (Except Error Bytes)) :
    List (Except Error Packet) :=
  incoming.flatMap (decodeItem b64)

/-- The items through the first failure. -/
def throughError : List (Except Error Packet) → List (Except Error Packet)
  | [] => []
  | .error e :: _ => [.error e]
  | .ok packet :: items => .ok packet :: throughError items

section Meaning

variable {b64 : Base64Engine}

theorem decodeAll_cons (item : Except Error Bytes) (rest : List (Except Error Bytes)) :
    decodeAll b64 (item :: rest) = decodeItem b64 item ++ decodeAll b64 rest := List.flatMap_cons

theorem throughError_append (packets : List Packet) (items : List (Except Error Packet)) :
    throughError (packets.map .ok ++ items) = packets.map .ok ++ throughError items := by
  induction packets with
  | nil => rfl
  | cons packet packets ih => exact congrArg (.ok packet :: ·) ih

/-- Up to the first failure it does not matter whether the caller polls on. -/
theorem throughError_decodeAll (incoming : List (Except Error Bytes)) :
    throughError (decodeAll b64 incoming) = decodeBodies b64 incoming := by
  induction incoming with
  | nil => rfl
  | cons item rest ih =>
      rw [decodeAll_cons]
      rcases item with e | data
      · rfl
      · by_cases hne : data = []
        · simpa [decodeItem, decodeBodies, hne] using ih
        · cases hp : Payload.tryFrom b64 data with
          | error e => simp [decodeItem, decodeBodies, hne, hp, throughError]
          | ok packets =>
              rw [decodeItem, if_neg hne, hp, throughError_append, decodeBodies, if_neg hne, hp]
              exact congrArg _ ih

theorem decodeBodies_cons_ok {data : Bytes} {ps : Payload} {rest : List (Except Error Bytes)}
    (hne : data ≠ []) (h : Payload.tryFrom b64 data = .ok ps) :
    decodeBodies b64 (.ok data :: rest) = ps.map .ok ++ decodeBodies b64 rest := by
  simp [decodeBodies, hne, h]

theorem decodeBodies_cons_error {data : Bytes} {e : Error} {rest : List (Except Error Bytes)}
    (hne : data ≠ []) (h : Payload.tryFrom b64 data = .error e) :
    decodeBodies b64 (.ok data :: rest) = [.error e] := by
  simp [decodeBodies, hne, h]

@[simp] theorem decodeBodies_nil_cons (rest : List (Except Error Bytes)) :
    decodeBodies b64 (.ok [] :: rest) = decodeBodies b64 rest := by
  simp [decodeBodies]

/-- The asynchronous generator computes `decodeBodies`, as the transports never yield an empty
buffer. -/
theorem Socket.stream_eq {incoming : List (Except Error Bytes)}
    (h : ∀ item ∈ incoming, item ≠ .ok []) :
    Socket.stream b64 incoming = decodeBodies b64 incoming := by
  induction incoming with
  | nil => rfl
  | cons item rest ih =>
      have hrest := ih fun item' h' => h item' (List.mem_cons_of_mem _ h')
      cases item with
      | error e => rfl
      | ok data =>
          have hne : data ≠ [] := fun e => h (.ok data) List.mem_cons_self (by rw [e])
          cases hp : Payload.tryFrom b64 data with
          | error e => simp [Socket.stream, decodeBodies, hne, hp]
          | ok ps => simp [Socket.stream, decodeBodies, hne, hp, hrest]

/-- One fetch, described by the items it starts: it returns their head and leaves their tail. -/
theorem Socket.items_fetch (n : Nat) (s : Socket) (incoming : List (Except Error Bytes))
    (ih : ∀ s : Socket, s.connected = true →
      Socket.items b64 n s =
        ((s.remainingPackets.getD []).map Except.ok ++ decodeBodies b64 s.incoming).take n)
    (hc : s.connected = true) :
    (match s.fetch b64 incoming with
      | (.packet packet, s') => .ok packet :: Socket.items b64 n s'
      | (.error e, _) => [.error e]
      | (.none, _) => []
      | (.pending, _) => []) = (decodeBodies b64 incoming).take (n + 1) := by
  induction incoming with
  | nil => rfl
  | cons item rest ihr =>
      cases item with
      | error e => simp [Socket.fetch, decodeBodies]
      | ok data =>
          by_cases hne : data = []
          · -- skipped on both sides
            subst hne
            simpa [Socket.fetch] using ihr
          · cases hp : Payload.tryFrom b64 data with
            | error e => simp [Socket.fetch, decodeBodies, hne, hp]
            | ok ps =>
                cases ps with
                | nil => exact absurd rfl (Payload.ne_nil_of_tryFrom hp)
                | cons p iter =>
                    have := ih { s with remainingPackets := some iter, incoming := rest } hc
                    simp [Socket.fetch, decodeBodies, hne, hp, this]

/-- The synchronous polls of a connected socket: first what is buffered, then `decodeBodies`. -/
theorem Socket.items_eq (n : Nat) :
    ∀ s : Socket, s.connected = true →
      Socket.items b64 n s =
        ((s.remainingPackets.getD []).map Except.ok ++ decodeBodies b64 s.incoming).take n := by
  induction n with
  | zero => intro s _; simp [Socket.items]
  | succ n ih =>
      intro s hc
      have hfetch := Socket.items_fetch n s s.incoming ih hc
      cases hr : s.remainingPackets with
      | none => simpa [Socket.items, Socket.poll, hc, hr] using hfetch
      | some iter =>
          cases iter with
          | nil => simpa [Socket.items, Socket.poll, hc, hr] using hfetch
          | cons p iter =>
              have hpoll : s.poll b64 = (.packet p, { s with remainingPackets := some iter }) := by
                simp [Socket.poll, hc, hr]
              have hrest := ih { s with remainingPackets := some iter } hc
              simp [Socket.items, hpoll, hrest]

/-- Polling a fresh socket shows a prefix of the meaning of what its transport delivers. -/
theorem Socket.items_reading (n : Nat) (incoming : List (Except Error Bytes)) :
    Socket.items b64 n (Socket.reading incoming) = (decodeBodies b64 incoming).take n := by
  simpa [Socket.reading] using @Socket.items_eq b64 n (Socket.reading incoming) rfl

end Meaning

/-- Two lists with the same prefixes are equal. -/
theorem eq_of_take_eq {α : Type} {l l' : List α} (h : ∀ n, l.take n = l'.take n) : l = l' := by
  have hlen := h (l.length + l'.length)
  rwa [List.take_of_length_le (by omega), List.take_of_length_le (by omega)] at hlen

end TfSocketio.Engineio
