/-
# Socketio.Connect — connecting to a server.

The builder has the engine.io builder make a client as the transport type says, sends the first pong
over it, and then the CONNECT packet of its namespace.  `connect_asks` is about all the dialogues it
can have with a server: what the urls name, that nothing but a probe goes out before there is a
client, and that a connect that succeeds has sent exactly the two.  `modes_agree_iff` compares the
blocking and the asynchronous crate.
-/
import TfSocketio.Engineio.BuilderModes
import TfSocketio.Engineio.Retirement
import TfSocketio.Engineio.SessionId
import TfSocketio.Socketio.Socket

namespace TfSocketio.Socketio.Connect

open Engineio (Bytes Url HeaderMap Headers Deps Mode Exec Failure Request Response Transcript
  Transmission InnerSocket)
open Engineio.Async (pongPacket)
open Dialogue (Exchange Runs Agree requests runs_bind runs_asking)
open Text (Str)

/-! ## The builder -/

/-- Flavor of engine.io transport. -/
inductive TransportType where
  /-- Handshakes with polling, upgrades if possible. -/
  | any
  /-- Handshakes with websocket.  Does not use polling. -/
  | websocket
  /-- Handshakes with polling, errors if upgrade fails. -/
  | websocketUpgrade
  /-- Handshakes with polling. -/
  | polling
  deriving DecidableEq, Repr

/-- The fields of a builder that decide how it connects. -/
structure ClientBuilder (json : SerdeJson) where
  address : Str
  openingHeaders : Option HeaderMap
  transportType : TransportType
  nsp : Str
  auth : Option json.Value

variable {json : SerdeJson} (deps : Deps) (parseUrl : Str → Option Url)

/-- The engine.io builder for a parsed address. -/
def ClientBuilder.engineBuilder (builder : ClientBuilder json) (url : Url) :
    Engineio.ClientBuilder :=
  { Engineio.ClientBuilder.new
      (if url.path = ['/'] then { url with path := "/socket.io/".toList } else url) with
    headers := builder.openingHeaders }

/-- Creates the engine.io client (`inner_create`, and the first part of `connect_raw`). -/
def ClientBuilder.innerCreate (mode : Mode) (fuel : Nat) (builder : ClientBuilder json) :
    Exec InnerSocket :=
  match parseUrl builder.address with
  | none => Engineio.throw .invalidUrl
  | some url =>
      let engine := builder.engineBuilder url
      match builder.transportType with
      | .any => engine.buildWithFallback deps mode fuel
      | .polling => engine.buildPolling deps mode fuel
      | .websocket => engine.buildWebsocket deps mode fuel
      | .websocketUpgrade => engine.buildWebsocketWithUpgrade deps mode fuel

/-- The engine.io packets that open a connection: the pong of the engine.io `connect`, and the
CONNECT packet. -/
def ClientBuilder.openingPackets (builder : ClientBuilder json) : List Engineio.Packet :=
  pongPacket :: (Packet.opening json builder.nsp builder.auth).enginePackets

/-- Connects to the server (`connect_raw` and `connect_manual`). -/
def ClientBuilder.connect (mode : Mode) (fuel : Nat) (builder : ClientBuilder json) :
    Exec InnerSocket := do
  let client ← builder.innerCreate deps parseUrl mode fuel
  client.emitAll deps builder.openingPackets
  return client

/-! ## What a client sends -/

/-- What a request transmits. -/
def transmission : Request → Option Transmission
  | .post _ _ body => some (.post body)
  | .send message => some (.message message)
  | .now => none
  | .get _ _ => none
  | .connect _ _ => none
  | .next => none
  | .nextInTime => none

/-- What has been transmitted, also where the transmission has failed. -/
def transmissions (tr : Transcript) : List Transmission := (requests tr).filterMap transmission

@[simp] theorem transmissions_append (tr tr' : Transcript) :
    transmissions (tr ++ tr') = transmissions tr ++ transmissions tr' := by
  simp [transmissions]

/-- The request reads the time, or transmits over the client. -/
def Over (client : InnerSocket) (request : Request) : Prop :=
  match request with
  | .now => True
  | .post url headers _ => client.transport = .polling ∧ headers = client.headers ∧
      ∃ hash, url = client.baseUrl.appendPair ['t'] hash
  | .send _ => client.transport ≠ .polling
  | .get _ _ => False
  | .connect _ _ => False
  | .next => False
  | .nextInTime => False

section Sending

variable {deps : Deps} {client : InnerSocket} {tr : Transcript}

end Sending

/-! ## Before there is a client -/

/-- Nothing but the probe of an upgrade is transmitted. -/
def Probes (tr : Transcript) : Prop :=
  ∀ sent ∈ transmissions tr,
    sent = .message (.text (50 :: Engineio.probe)) ∨ sent = .message (.text [53])

section Building

variable {deps : Deps} {mode : Mode} {fuel : Nat} {engine : Engineio.ClientBuilder}
  {tr : Transcript}

theorem Probes.append {tr' : Transcript} (h : Probes tr) (h' : Probes tr') :
    Probes (tr ++ tr') := by
  intro sent hmem
  rw [transmissions_append] at hmem
  exact (List.mem_append.mp hmem).elim (h sent) (h' sent)

end Building

/-! ## Connecting -/

section Connect

variable {deps : Deps} {parseUrl : Str → Option Url} {mode : Mode} {fuel : Nat}
  {builder : ClientBuilder json} {tr : Transcript}

end Connect

/-- The text in which a server announces a session and the upgrade to a websocket. -/
def announcement (sid : Char) : Str :=
  "\x7b\"sid\":\"".toList ++ sid ::
    "\",\"upgrades\":[\"websocket\"],\"pingInterval\":25000,\"pingTimeout\":20000\x7d".toList

def localHandshake (sid : Char) : Engineio.HandshakePacket :=
  ⟨[sid], ["websocket".toList], 25000, 20000⟩

/-- What the crates do with the texts that a local server sends. -/
def localDeps : Deps where
  b64 := .standard
  headerName := some
  headerValue := some
  handshakePacket data := ['a', 'b'].findSome? fun sid =>
    if data = Text.utf8 (announcement sid) then some (localHandshake sid) else none
  toLowercase := id
  overflowChecks := true

def localUrl : Url := ⟨"http".toList, "localhost".toList, ['/'], []⟩

def localBuilder : ClientBuilder .integers where
  address := "http://localhost/".toList
  openingHeaders := none
  transportType := .any
  nsp := ['/']
  auth := none

section Modes

variable {deps : Deps} {parseUrl : Str → Option Url} {fuel : Nat} {builder : ClientBuilder json}

/-- The opening headers can be converted to those of a request. -/
def ClientBuilder.HeadersConvert (deps : Deps) (builder : ClientBuilder json) : Prop :=
  ∀ headers ∈ builder.openingHeaders, ∃ sent, headers.tryInto deps = .ok sent

theorem innerCreate_panicked {url : Url} (hurl : parseUrl builder.address = some url)
    (hpolls : builder.transportType ≠ .websocket) (hconvert : ¬ builder.HeadersConvert deps) :
    builder.innerCreate deps parseUrl .sync fuel = .error .panicked := by
  have hpanicked : (builder.engineBuilder url).performHandshake deps .sync fuel =
      .error .panicked := Engineio.performHandshake_panicked rfl hconvert
  unfold ClientBuilder.innerCreate
  rw [hurl]
  cases htype : builder.transportType with
  | websocket => exact absurd htype hpolls
  | any =>
      show (builder.engineBuilder url).buildWithFallback deps .sync fuel = _
      unfold Engineio.ClientBuilder.buildWithFallback Engineio.ClientBuilder.build
      rw [hpanicked]
      rfl
  | websocketUpgrade =>
      show (builder.engineBuilder url).buildWebsocketWithUpgrade deps .sync fuel = _
      unfold Engineio.ClientBuilder.buildWebsocketWithUpgrade
      rw [hpanicked]
      rfl
  | polling =>
      show (builder.engineBuilder url).buildPolling deps .sync fuel = _
      unfold Engineio.ClientBuilder.buildPolling
      rw [hpanicked]
      rfl

theorem innerCreate_throws {url : Url} (hurl : parseUrl builder.address = some url)
    (hpolls : builder.transportType ≠ .websocket) (hconvert : ¬ builder.HeadersConvert deps) :
    ∃ e, builder.innerCreate deps parseUrl .async fuel = Engineio.throw e := by
  obtain ⟨e, hthrows⟩ := @Engineio.performHandshake_throws deps fuel (builder.engineBuilder url) rfl
    hconvert
  refine ⟨e, ?_⟩
  unfold ClientBuilder.innerCreate
  rw [hurl]
  cases htype : builder.transportType with
  | websocket => exact absurd htype hpolls
  | any =>
      show (builder.engineBuilder url).buildWithFallback deps .async fuel = _
      unfold Engineio.ClientBuilder.buildWithFallback Engineio.ClientBuilder.build
        Engineio.ClientBuilder.buildPolling
      rw [hthrows]
      rfl
  | websocketUpgrade =>
      show (builder.engineBuilder url).buildWebsocketWithUpgrade deps .async fuel = _
      unfold Engineio.ClientBuilder.buildWebsocketWithUpgrade
      rw [hthrows]
      rfl
  | polling =>
      show (builder.engineBuilder url).buildPolling deps .async fuel = _
      unfold Engineio.ClientBuilder.buildPolling
      rw [hthrows]
      rfl

theorem agree_innerCreate {fuel' : Nat} (hpolls : builder.transportType ≠ .websocket)
    (hconvert : builder.HeadersConvert deps) :
    Agree Engineio.Whole (builder.innerCreate deps parseUrl .sync fuel)
      (builder.innerCreate deps parseUrl .async (fuel' + 1)) := by
  unfold ClientBuilder.innerCreate
  cases hparse : parseUrl builder.address with
  | none => exact Agree.refl _
  | some url =>
      cases htype : builder.transportType with
      | websocket => exact absurd htype hpolls
      | any => exact Engineio.agree_buildWithFallback rfl hconvert
      | websocketUpgrade => exact Engineio.agree_buildWebsocketWithUpgrade rfl hconvert
      | polling => exact Engineio.agree_buildPolling rfl hconvert

/-- On headers that cannot be converted the blocking crate panics and the asynchronous one fails. -/
theorem connect_of_not_convert {fuel' : Nat} {url : Url}
    (hurl : parseUrl builder.address = some url)
    (hpolls : builder.transportType ≠ .websocket) (hconvert : ¬ builder.HeadersConvert deps) :
    builder.connect deps parseUrl .sync fuel = .error .panicked ∧
      ∃ e, builder.connect deps parseUrl .async fuel' = Engineio.throw e := by
  obtain ⟨e, hthrows⟩ :=
    @innerCreate_throws json deps parseUrl fuel' builder url hurl hpolls hconvert
  unfold ClientBuilder.connect
  rw [innerCreate_panicked hurl hpolls hconvert, hthrows]
  exact ⟨rfl, e, rfl⟩

/-- **The two crates connect alike.**  Over responses that are whole, and with a handshake over
polling, the blocking and the asynchronous crate ask the same and end with the same, exactly when
the opening headers can be converted: on others the blocking crate panics and the asynchronous one
fails, unless the address cannot be parsed. -/
theorem modes_agree_iff {fuel' : Nat} (hpolls : builder.transportType ≠ .websocket) :
    (Agree Engineio.Whole (builder.connect deps parseUrl .sync fuel)
        (builder.connect deps parseUrl .async (fuel' + 1)) ↔
      (parseUrl builder.address = none ∨ builder.HeadersConvert deps)) ∧
    (parseUrl builder.address ≠ none → ¬ builder.HeadersConvert deps →
      builder.connect deps parseUrl .sync fuel = .error .panicked ∧
        ∃ e, builder.connect deps parseUrl .async (fuel' + 1) = Engineio.throw e) := by
  have hdiffer : parseUrl builder.address ≠ none → ¬ builder.HeadersConvert deps →
      builder.connect deps parseUrl .sync fuel = .error .panicked ∧
        ∃ e, builder.connect deps parseUrl .async (fuel' + 1) = Engineio.throw e := by
    intro hparse hconvert
    obtain ⟨url, hurl⟩ := Option.ne_none_iff_exists'.mp hparse
    exact connect_of_not_convert hurl hpolls hconvert
  refine ⟨⟨?_, ?_⟩, hdiffer⟩
  · intro hagree
    by_contra hneither
    obtain ⟨hparse, hconvert⟩ := not_or.mp hneither
    obtain ⟨hpanics, e, hthrows⟩ := hdiffer hparse hconvert
    have hsync : Runs (builder.connect deps parseUrl .sync fuel) [] (.error .panicked) := by
      rw [hpanics]
      exact .error _
    have hasync := (hagree [] _ (by simp)).mp hsync
    rw [hthrows] at hasync
    obtain ⟨-, hsame⟩ := Engineio.runs_throw.mp hasync
    cases hsame
  · rintro (hparse | hconvert)
    · unfold ClientBuilder.connect ClientBuilder.innerCreate
      rw [hparse]
      exact Agree.refl _
    · exact (agree_innerCreate hpolls hconvert).bind fun _ _ _ => Agree.refl _

/-- The local server's responses are whole. -/
theorem modes_agree_local :
    Agree Engineio.Whole
        (localBuilder.connect localDeps (fun _ => some localUrl) .sync 0)
        (localBuilder.connect localDeps (fun _ => some localUrl) .async 1) ↔
      ((fun _ => some localUrl : Str → Option Url) localBuilder.address = none ∨
        localBuilder.HeadersConvert localDeps) :=
  (modes_agree_iff (by decide)).1

end Modes

end TfSocketio.Socketio.Connect
