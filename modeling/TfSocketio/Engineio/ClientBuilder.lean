/-
# Engineio.ClientBuilder — how a client comes to a transport.

The builder asks the server for a handshake over long polling, puts the session id into its url, and
then either polls on or opens a websocket and has the server confirm it with a probe.  Or it opens a
websocket at once and reads the handshake from it.  Each function below is a program over what it
asks of the outside (`Request`), for the blocking and the asynchronous builder at once: where the
two differ, the definition looks at `Mode`.

Of the third-party code, `Deps` holds what the builder relies on.  The url is its parts, with the
query as the pairs `query_pairs_mut` appends to; TLS settings and callbacks are left out.
-/
import TfSocketio.Lib.Dialogue
import TfSocketio.Engineio.Heartbeat
import TfSocketio.Engineio.Transmit

namespace TfSocketio.Engineio

open Text (Str)
open Dialogue (Prog ask lift attempt)

/-! ## Urls and headers -/

/-- A parsed url. -/
structure Url where
  scheme : Str
  authority : Str
  path : Str
  query : List (Str × Str)
  deriving DecidableEq, Repr

/-- `query_pairs_mut().append_pair`. -/
def Url.appendPair (url : Url) (key value : Str) : Url :=
  { url with query := url.query ++ [(key, value)] }

/-- `set_scheme`, between the schemes of the web, where it succeeds. -/
def Url.setScheme (url : Url) (scheme : Str) : Url := { url with scheme }

/-- The values a key has in the query. -/
def Url.values (url : Url) (key : Str) : List Str :=
  (url.query.filter fun pair => pair.1 = key).map Prod.snd

/-- The headers of a builder (`header::HeaderMap`), in some order. -/
abbrev HeaderMap := List (Str × Bytes)

/-- The headers of a request (`http::HeaderMap`). -/
abbrev Headers := List (Str × Bytes)

/-! ## The outside -/

/-- The errors of building a client: those of `Error`, and those that only building has. -/
inductive BuildError where
  | engine (error : Error)
  | invalidUtf8
  | invalidUrl
  | invalidUrlScheme (scheme : Str)
  | invalidJson
  | illegalWebsocketUpgrade
  | invalidHeaderName
  | invalidHeaderValue
  deriving DecidableEq, Repr

/-- How building ends without a client. -/
inductive Failure where
  | error (error : BuildError)
  | panicked
  /-- The server keeps the client waiting, with empty bodies or with frames that are ignored. -/
  | pending
  deriving DecidableEq, Repr

/-- A response to a request: its status, its body as text unless that cannot be read, the chunks
of the body, and what breaks the body off behind them. -/
structure Response where
  status : Nat
  text : Option String
  delivery : Delivery
  broken : Option Error

/-- What building asks of the outside. -/
inductive Request where
  /-- The time, as the hash `address` makes of it. -/
  | now
  | get (url : Url) (headers : Option Headers)
  | post (url : Url) (headers : Option Headers) (body : Bytes)
  /-- Opens a websocket. -/
  | connect (url : Url) (headers : Option Headers)
  | send (message : Message)
  | next
  /-- The next message, unless the poll has timed out. -/
  | nextInTime
  deriving DecidableEq

/-- The answers. -/
abbrev Request.Answer : Request → Type
  | .now => Str
  | .get _ _ => Except Error Response
  | .post _ _ _ => Except Error Response
  | .connect _ _ => Except Error Unit
  | .send _ => Except Error Unit
  | .next => Option (Except Error Message)
  | .nextInTime => Option (Option (Except Error Message))

/-- A program of the builder. -/
abbrev Exec := Prog Request Request.Answer Failure

/-- Fails with an error. -/
def throw {α : Type} (error : BuildError) : Exec α := .error (.error error)

/-- The operator `?` on an engine.io result. -/
def ok? {α : Type} : Except Error α → Exec α
  | .ok value => .ok value
  | .error e => throw (.engine e)

/-- What the builders rely on of other crates: base64, header names and values, the handshake's
JSON, lower case, and how the crate was compiled. -/
structure Deps where
  b64 : Base64Engine
  headerName : Str → Option Str
  headerValue : Bytes → Option Bytes
  handshakePacket : Bytes → Option HandshakePacket
  toLowercase : Str → Str
  overflowChecks : Bool

/-- The blocking or the asynchronous crate. -/
inductive Mode where
  | sync
  | async
  deriving DecidableEq, Repr

variable (deps : Deps)

/-- `TryFrom<HeaderMap> for http::HeaderMap`. -/
def HeaderMap.tryInto (headers : HeaderMap) : Except BuildError Headers :=
  headers.mapM fun (key, value) =>
    match deps.headerName key with
    | none => .error .invalidHeaderName
    | some key =>
        match deps.headerValue value with
        | none => .error .invalidHeaderValue
        | some value => .ok (key, value)

/-! ## The transports -/

/-- The full address of a request. -/
def address (url : Url) : Exec Url := do
  let hash ← ask .now
  return url.appendPair ['t'] hash

/-- A response whose status is 200; the error of any other keeps the body if it can be read. -/
def Response.check (response : Response) : Except Error Response :=
  if response.status = 200 then .ok response
  else
    match response.text with
    | some body => .error (.httpErrorWithBody response.status body)
    | none => .error (.incompleteHttp response.status)

/-- One GET request of the polling transport, up to its status. -/
def Polling.request (url : Url) (headers : Option Headers) : Exec Response := do
  let url ← address url
  let reply : Except Error Response ← ask (Request.get url headers)
  ok? (reply.bind Response.check)

/-- One POST request of the polling transport. -/
def Polling.post (url : Url) (headers : Option Headers) (body : Bytes) : Exec Unit := do
  let url ← address url
  let reply : Except Error Response ← ask (Request.post url headers body)
  let _ ← ok? (reply.bind Response.check)

/-- The body of a response, in one piece. -/
def Response.bytes (response : Response) : Exec Bytes :=
  match response.broken with
  | some e => throw (.engine e)
  | none => return response.delivery.body

/-- `PollingTransport::poll`: the whole body. -/
def Polling.pollBody (url : Url) (headers : Option Headers) : Exec Bytes := do
  let response ← Polling.request url headers
  response.bytes

/-- The first item of a response's stream of bytes; an empty body has none. -/
def Response.firstBytes (response : Response) (again : Exec Bytes) : Exec Bytes :=
  match response.delivery.chunks with
  | chunk :: _ => return chunk
  | [] =>
      match response.broken with
      | some e => throw (.engine e)
      | none => again

/-- The first item of `PollingTransport::stream`: the first chunk.  An empty body yields nothing,
and the next request is made. -/
def Polling.firstChunk (url : Url) (headers : Option Headers) : Nat → Exec Bytes
  | 0 => .error .pending
  | fuel + 1 => do
      let response ← Polling.request url headers
      response.firstBytes (Polling.firstChunk url headers fuel)

/-- The next data of a websocket, if `item` is data or an error; the other messages are ignored. -/
def Websocket.accept (item : Option (Except Error Message)) (ignored : Exec Bytes) : Exec Bytes :=
  match item with
  -- the stream has ended
  | none => throw (.engine .incompletePacket)
  | some item =>
      match Websocket.received item with
      | some (.ok data) => return data
      | some (.error e) => throw (.engine e)
      | none => ignored

/-- `WebsocketTransport::poll` of the blocking crate. -/
def Websocket.poll : Nat → Exec Bytes
  | 0 => .error .pending
  | fuel + 1 => do
      let item ← ask .nextInTime
      match (item : Option (Option (Except Error Message))) with
      | none => throw (.engine .pingTimeout)
      | some item => Websocket.accept item (Websocket.poll fuel)

/-- The next item of the asynchronous websocket stream. -/
def Websocket.nextData : Nat → Exec Bytes
  | 0 => .error .pending
  | fuel + 1 => do
      let item ← ask .next
      Websocket.accept item (Websocket.nextData fuel)

/-- Sends the text of a packet over a websocket. -/
def Websocket.sendPacket (packet : Packet) : Exec Unit := do
  match Websocket.emit (packet.toBytes deps.b64) false with
  | none => throw .invalidUtf8
  | some message => do
      let reply ← ask (.send message)
      ok? reply

/-- The probe: the text in both directions. -/
def probe : Bytes := [112, 114, 111, 98, 101]

/-- The data of a message (`Message::into_data`); a close message has its reason. -/
def Message.intoData : Message → Bytes
  | .text str => str
  | .binary data => data
  | .ping data => data
  | .pong data => data
  | .close none => []
  | .close (some frame) => Text.utf8 frame.reason.toList

/-- Sends probe packet to ensure connection is valid, then sends upgrade request. -/
def Websocket.upgrade : Exec Unit := do
  Websocket.sendPacket deps ⟨.ping, probe⟩
  let item ← ask .next
  match (item : Option (Except Error Message)) with
  | none => throw .illegalWebsocketUpgrade
  | some received =>
      let message ← ok? received
      if message.intoData = Packet.toBytes deps.b64 ⟨.pong, probe⟩ then
        Websocket.sendPacket deps ⟨.upgrade, []⟩
      else throw (.engine .invalidPacket)

/-! ## The builder -/

/-- The fields of a builder that decide what it asks. -/
structure ClientBuilder where
  url : Url
  headers : Option HeaderMap
  handshake : Option HandshakePacket

/-- A builder for an url.  No path: add engine.io. -/
def ClientBuilder.new (url : Url) : ClientBuilder :=
  let url := url.appendPair "EIO".toList ['4']
  { url := if url.path = ['/'] then { url with path := "/engine.io/".toList } else url
    headers := none
    handshake := none }

/-- What a built client goes on with: its transport, the url and the headers of that, and the
handshake. -/
structure InnerSocket where
  transport : TransportType
  baseUrl : Url
  headers : Option Headers
  connectionData : HandshakePacket

/-- `InnerSocket::new` adds interval and timeout, which panics on an overflow that is checked. -/
def InnerSocket.new (transport : TransportType) (baseUrl : Url) (headers : Option Headers)
    (handshake : HandshakePacket) : Exec InnerSocket :=
  match addU64 deps.overflowChecks handshake.pingInterval handshake.pingTimeout with
  | none => .error .panicked
  | some _ => return { transport, baseUrl, headers, connectionData := handshake }

/-- The headers of the builder, `?` on failure. -/
def ClientBuilder.tryHeaders (builder : ClientBuilder) : Exec (Option Headers) :=
  match builder.headers with
  | none => return none
  | some headers =>
      match headers.tryInto deps with
      | .ok headers => return some headers
      | .error e => throw e

/-- The headers of the builder, `unwrap` on failure. -/
def ClientBuilder.unwrapHeaders (builder : ClientBuilder) : Exec (Option Headers) :=
  match builder.headers with
  | none => return none
  | some headers =>
      match headers.tryInto deps with
      | .ok headers => return some headers
      | .error _ => .error .panicked

/-- Performs the handshake over what a transport delivers first. -/
def ClientBuilder.handshakeWithTransport (builder : ClientBuilder) (poll : Exec Bytes) :
    Exec ClientBuilder :=
  -- no need to handshake twice
  if builder.handshake.isSome then return builder
  else do
    let packet ← ok? (Packet.tryFrom deps.b64 (← poll))
    match deps.handshakePacket packet.data with
    | none => throw .invalidJson
    | some handshake =>
        -- update the base_url with the new sid
        return { builder with
          url := builder.url.appendPair "sid".toList handshake.sid
          handshake := some handshake }

/-- The base url of a polling transport. -/
def Polling.baseUrl (url : Url) : Url := url.appendPair "transport".toList "polling".toList

/-- The handshake of a builder (`ClientBuilder::handshake`), which starts with the polling
transport. -/
def ClientBuilder.performHandshake (mode : Mode) (fuel : Nat) (builder : ClientBuilder) :
    Exec ClientBuilder :=
  if builder.handshake.isSome then return builder
  else
    match mode with
    | .sync => do
        let headers ← builder.unwrapHeaders deps
        builder.handshakeWithTransport deps (Polling.pollBody (Polling.baseUrl builder.url) headers)
    | .async => do
        let headers ← builder.tryHeaders deps
        builder.handshakeWithTransport deps
          (Polling.firstChunk (Polling.baseUrl builder.url) headers fuel)

/-- Whether the handshake allows an upgrade (`websocket_upgrade`). -/
def HandshakePacket.allowsWebsocket (handshake : HandshakePacket) : Bool :=
  handshake.upgrades.any fun upgrade => deps.toLowercase upgrade = "websocket".toList

/-- Checks the handshake to see if websocket upgrades are allowed. -/
def ClientBuilder.websocketUpgrade (mode : Mode) (builder : ClientBuilder) : Exec Bool :=
  match builder.handshake with
  | some handshake => return handshake.allowsWebsocket deps
  | none =>
      match mode with
      | .sync => .error .panicked
      | .async => return false

/-- The handshake of a builder that has made it (`self.handshake.unwrap()`). -/
def ClientBuilder.unwrapHandshake (builder : ClientBuilder) : Exec HandshakePacket :=
  match builder.handshake with
  | some handshake => return handshake
  | none => .error .panicked

/-- Build socket with polling transport. -/
def ClientBuilder.buildPolling (mode : Mode) (fuel : Nat) (builder : ClientBuilder) :
    Exec InnerSocket := do
  let builder ← builder.performHandshake deps mode fuel
  let headers ← builder.unwrapHeaders deps
  let handshake ← builder.unwrapHandshake
  InnerSocket.new deps .polling (Polling.baseUrl builder.url) headers handshake

/-- Probes the connection if there has been a handshake, or else reads the handshake from it. -/
def ClientBuilder.confirm (mode : Mode) (fuel : Nat) (builder : ClientBuilder) :
    Exec ClientBuilder :=
  if builder.handshake.isSome then do
    Websocket.upgrade deps
    return builder
  else
    match mode with
    | .sync => builder.handshakeWithTransport deps (Websocket.poll fuel)
    | .async => builder.handshakeWithTransport deps (Websocket.nextData fuel)

/-- The websocket part of `build_websocket`, for either kind of websocket. -/
def ClientBuilder.openWebsocket (mode : Mode) (fuel : Nat) (builder : ClientBuilder)
    (transport : TransportType) (scheme : Str) (headers : Option Headers) : Exec InnerSocket := do
  let url := (builder.url.appendPair "transport".toList "websocket".toList).setScheme scheme
  let reply ← ask (.connect url headers)
  ok? reply
  -- although `builder.url` contains the sid, it does not propagate to the transport
  let builder ← builder.confirm deps mode fuel
  let handshake ← builder.unwrapHandshake
  InnerSocket.new deps transport url headers handshake

/-- Build socket with only a websocket transport. -/
def ClientBuilder.buildWebsocket (mode : Mode) (fuel : Nat) (builder : ClientBuilder) :
    Exec InnerSocket := do
  let headers ← builder.tryHeaders deps
  if builder.url.scheme = "http".toList ∨ builder.url.scheme = "ws".toList then
    builder.openWebsocket deps mode fuel .websocket "ws".toList headers
  else if builder.url.scheme = "https".toList ∨ builder.url.scheme = "wss".toList then
    builder.openWebsocket deps mode fuel .websocketSecure "wss".toList headers
  else throw (.invalidUrlScheme builder.url.scheme)

/-- Build socket with a polling transport then upgrade to websocket transport. -/
def ClientBuilder.buildWebsocketWithUpgrade (mode : Mode) (fuel : Nat) (builder : ClientBuilder) :
    Exec InnerSocket := do
  let builder ← builder.performHandshake deps mode fuel
  if ← builder.websocketUpgrade deps mode then builder.buildWebsocket deps mode fuel
  else throw .illegalWebsocketUpgrade

/-- Build websocket if allowed, if not fall back to polling. -/
def ClientBuilder.build (mode : Mode) (fuel : Nat) (builder : ClientBuilder) :
    Exec InnerSocket := do
  let builder ← builder.performHandshake deps mode fuel
  if ← builder.websocketUpgrade deps mode then builder.buildWebsocketWithUpgrade deps mode fuel
  else builder.buildPolling deps mode fuel

/-- Build websocket if allowed, if not allowed or errored fall back to polling.  The first attempt
works on a clone, so the second one starts from the builder as it was. -/
def ClientBuilder.buildWithFallback (mode : Mode) (fuel : Nat) (builder : ClientBuilder) :
    Exec InnerSocket := do
  match ← attempt (builder.build deps mode fuel) with
  | .ok client => return client
  | .error (.error _) => builder.buildPolling deps mode fuel
  | .error failure => .error failure

/-! ## Sending over the client that was built -/

/-- Sends a packet over the client's transport (`Socket::emit` of a connected socket). -/
def InnerSocket.emit (client : InnerSocket) (packet : Packet) : Exec Unit :=
  match packet.transmit deps.b64 client.transport with
  | none => throw .invalidUtf8
  | some (.post body) => Polling.post client.baseUrl client.headers body
  | some (.message message) => do
      let reply ← ask (.send message)
      ok? reply

/-- Sends packets one after the other, up to the first failure. -/
def InnerSocket.emitAll (client : InnerSocket) : List Packet → Exec Unit
  | [] => return ()
  | packet :: packets => do
      client.emit deps packet
      client.emitAll packets

end TfSocketio.Engineio
