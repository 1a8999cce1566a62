/-
# Engineio.Negotiation — what the builder has asked by the time there is a client, or none.

`Runs` of the builder's programs are its dialogues with any server at all.  Each function gets one
lemma about all its runs; `Negotiates` is what they come to for the functions that start with a
handshake over polling: the handshake, then nothing, or an upgrade that the handshake allows.
`runs_buildWithFallback` says what the fallback adds, and `Opens` is a build over a websocket alone.
-/
import TfSocketio.Engineio.ClientBuilder

namespace TfSocketio.Engineio

open Text (Str)
open Dialogue (Prog Runs Exchange requests runs_bind runs_attempt runs_asking)

/-- What has been asked and answered. -/
abbrev Transcript := List (Exchange Request.Answer)

/-- An engine.io result as the end of a program. -/
def ended {α : Type} (result : Except Error α) : Except Failure α :=
  result.mapError fun e => .error (.engine e)

section Steps

variable {α : Type} {tr : Transcript}

theorem runs_throw {e : BuildError} {result : Except Failure α} :
    Runs (throw e : Exec α) tr result ↔ tr = [] ∧ result = .error (.error e) :=
  Dialogue.runs_error

theorem runs_ok? {outcome : Except Error α} {result : Except Failure α} :
    Runs (ok? outcome : Exec α) tr result ↔ tr = [] ∧ result = ended outcome := by
  cases outcome with
  | ok value => exact Dialogue.runs_pure
  | error e => exact runs_throw

theorem ok?_bind {β : Type} (value : α) (f : α → Exec β) :
    ((ok? (.ok value) : Exec α) >>= f) = f value := rfl

@[simp] theorem ended_eq_ok {outcome : Except Error α} {value : α} :
    ended outcome = .ok value ↔ outcome = .ok value := by
  cases outcome <;> simp [ended, Except.mapError]

end Steps

/-! ## Requests over polling -/

/-- The requests of a handshake over polling, one GET for each hash. -/
def handshakeRequests (url : Url) (headers : Option Headers) (hashes : List Str) : List Request :=
  hashes.flatMap fun hash => [.now, .get (url.appendPair ['t'] hash) headers]

/-- The data came as a body, or as a chunk of one, in a response with status 200. -/
def Fetched (tr : Transcript) (data : Bytes) : Prop :=
  ∃ url headers response, ⟨.get url headers, .ok response⟩ ∈ tr ∧ response.status = 200 ∧
    (data = response.delivery.body ∨ data ∈ response.delivery.chunks)

theorem Response.check_eq_ok {response response' : Response} :
    response.check = .ok response' ↔ response.status = 200 ∧ response' = response := by
  unfold Response.check
  by_cases h : response.status = 200
  · simp [h, eq_comm]
  · cases response.text <;> simp [h]

section Polling

variable {url : Url} {headers : Option Headers} {tr : Transcript}

/-- A GET reads the time and asks once. -/
theorem runs_request {result : Except Failure Response}
    (h : Runs (Polling.request url headers) tr result) :
    ∃ hash reply, tr = [⟨.now, hash⟩, ⟨.get (url.appendPair ['t'] hash) headers, reply⟩] ∧
      result = ended (reply.bind Response.check) := by
  have hasks : Polling.request url headers = .ask .now fun hash =>
      .ask (.get (url.appendPair ['t'] hash) headers) fun reply =>
        ok? (reply.bind Response.check) := rfl
  rw [hasks] at h
  obtain ⟨hash, later, rfl, hget⟩ := runs_asking.mp h
  obtain ⟨reply, rest, rfl, hend⟩ := runs_asking.mp hget
  obtain ⟨rfl, rfl⟩ := runs_ok?.mp hend
  exact ⟨hash, reply, rfl, rfl⟩

/-- Behind a GET the program goes on with a response whose status is 200, or fails at once. -/
theorem runs_request_bind {α : Type} {f : Response → Exec α} {result : Except Failure α}
    (h : Runs (Polling.request url headers >>= f) tr result) :
    ∃ hash reply rest,
      tr = ⟨.now, hash⟩ :: ⟨.get (url.appendPair ['t'] hash) headers, reply⟩ :: rest ∧
        ((∃ response, reply = .ok response ∧ response.status = 200 ∧
            Runs (f response) rest result) ∨
          rest = [] ∧ ∃ failure, result = .error failure) := by
  rcases runs_bind.mp h with
    ⟨failure, rfl, hrequest⟩ | ⟨response, before, rest, rfl, hrequest, hnext⟩
  · obtain ⟨hash, reply, rfl, -⟩ := runs_request hrequest
    exact ⟨hash, reply, [], rfl, .inr ⟨rfl, failure, rfl⟩⟩
  · obtain ⟨hash, reply, rfl, hreply⟩ := runs_request hrequest
    have hchecked := ended_eq_ok.mp hreply.symm
    refine ⟨hash, reply, rest, rfl, .inl ⟨response, ?_⟩⟩
    cases reply with
    | error e => cases hchecked
    | ok response' =>
        obtain ⟨hstatus, rfl⟩ := Response.check_eq_ok.mp hchecked
        exact ⟨rfl, hstatus, hnext⟩

/-- What has been asked to fetch data from a polling transport, and where the data came from. -/
structure Fetches (url : Url) (headers : Option Headers) (tr : Transcript)
    (result : Except Failure Bytes) (hashes : List Str) : Prop where
  asked : requests tr = handshakeRequests url headers hashes
  fetched : ∀ data, result = .ok data → hashes ≠ [] ∧ Fetched tr data

/-- The bytes of a response are its body. -/
theorem runs_bytes {response : Response} {result : Except Failure Bytes}
    (h : Runs response.bytes tr result) :
    tr = [] ∧ ∀ data, result = .ok data → data = response.delivery.body := by
  unfold Response.bytes at h
  cases hbroken : response.broken with
  | some e =>
      rw [hbroken] at h
      obtain ⟨rfl, rfl⟩ := runs_throw.mp h
      exact ⟨rfl, by simp⟩
  | none =>
      rw [hbroken] at h
      obtain ⟨rfl, rfl⟩ := Dialogue.runs_pure.mp h
      exact ⟨rfl, fun data hdata => (Except.ok.inj hdata).symm⟩

/-- The first bytes of a response are its first chunk, or come from the next request. -/
theorem runs_firstBytes {response : Response} {again : Exec Bytes} {result : Except Failure Bytes}
    (h : Runs (response.firstBytes again) tr result) :
    Runs again tr result ∨
      tr = [] ∧ ∀ data, result = .ok data → data ∈ response.delivery.chunks := by
  unfold Response.firstBytes at h
  cases hchunks : response.delivery.chunks with
  | cons chunk chunks =>
      rw [hchunks] at h
      obtain ⟨rfl, rfl⟩ := Dialogue.runs_pure.mp h
      refine .inr ⟨rfl, fun data hdata => ?_⟩
      rw [Except.ok.inj hdata]
      exact List.mem_cons_self
  | nil =>
      rw [hchunks] at h
      cases hbroken : response.broken with
      | some e =>
          rw [hbroken] at h
          obtain ⟨rfl, rfl⟩ := runs_throw.mp h
          exact .inr ⟨rfl, by simp⟩
      | none =>
          rw [hbroken] at h
          exact .inl h

/-- The blocking transport asks once. -/
theorem runs_pollBody {result : Except Failure Bytes}
    (h : Runs (Polling.pollBody url headers) tr result) :
    ∃ hash, Fetches url headers tr result [hash] := by
  obtain ⟨hash, reply, rest, rfl, ⟨response, rfl, hstatus, hnext⟩ | ⟨rfl, failure, rfl⟩⟩ :=
    runs_request_bind h
  · obtain ⟨rfl, hbody⟩ := runs_bytes hnext
    refine ⟨hash, rfl, fun data hdata => ⟨List.cons_ne_nil _ _, ?_⟩⟩
    exact ⟨url.appendPair ['t'] hash, headers, response, by simp, hstatus, .inl (hbody data hdata)⟩
  · exact ⟨hash, rfl, by simp⟩

/-- The asynchronous transport asks until there is a chunk. -/
theorem runs_firstChunk {fuel : Nat} {result : Except Failure Bytes}
    (h : Runs (Polling.firstChunk url headers fuel) tr result) :
    ∃ hashes, Fetches url headers tr result hashes := by
  induction fuel generalizing tr with
  | zero =>
      obtain ⟨rfl, rfl⟩ := Dialogue.runs_error.mp h
      exact ⟨[], rfl, by simp⟩
  | succ fuel ih =>
      obtain ⟨hash, reply, rest, rfl, ⟨response, rfl, hstatus, hnext⟩ | ⟨rfl, failure, rfl⟩⟩ :=
        runs_request_bind h
      · rcases runs_firstBytes hnext with hagain | ⟨rfl, hchunk⟩
        · -- an empty body: the next request
          obtain ⟨hashes, hrequests, hfetched⟩ := ih hagain
          refine ⟨hash :: hashes, ?_, fun data hdata => ⟨List.cons_ne_nil _ _, ?_⟩⟩
          · show _ :: _ :: requests rest = _
            rw [hrequests]
            rfl
          · obtain ⟨-, url', sent, response', hmem, hok, hin⟩ := hfetched data hdata
            exact ⟨url', sent, response', by simp [hmem], hok, hin⟩
        · refine ⟨[hash], rfl, fun data hdata => ⟨List.cons_ne_nil _ _, ?_⟩⟩
          exact ⟨url.appendPair ['t'] hash, headers, response, by simp, hstatus,
            .inr (hchunk data hdata)⟩
      · exact ⟨[hash], rfl, by simp⟩

end Polling

/-! ## The handshake -/

section Handshake

variable {deps : Deps} {mode : Mode} {fuel : Nat} {builder : ClientBuilder} {tr : Transcript}

/-- The headers a builder sends, if they can be converted. -/
def ClientBuilder.converted (deps : Deps) (builder : ClientBuilder) : Option Headers :=
  builder.headers.bind fun headers => (headers.tryInto deps).toOption

/-- The names and values among the builder's headers are such that they can be converted. -/
def ClientBuilder.HeadersConvert (deps : Deps) (builder : ClientBuilder) : Prop :=
  ∀ headers ∈ builder.headers, ∃ sent, headers.tryInto deps = .ok sent

/-- The builder after a handshake: its url has the session id. -/
def ClientBuilder.joined (builder : ClientBuilder) (handshake : HandshakePacket) : ClientBuilder :=
  { builder with
    url := builder.url.appendPair "sid".toList handshake.sid
    handshake := some handshake }

/-- The data is the text of a packet with a handshake in it. -/
def Announces (deps : Deps) (data : Bytes) (handshake : HandshakePacket) : Prop :=
  ∃ packet, Packet.tryFrom deps.b64 data = .ok packet ∧
    deps.handshakePacket packet.data = some handshake

/-- How either conversion of the headers ends. -/
def ClientBuilder.ConvertEnds (deps : Deps) (builder : ClientBuilder) (tr : Transcript)
    (result : Except Failure (Option Headers)) : Prop :=
  tr = [] ∧ ((builder.HeadersConvert deps ∧ result = .ok (builder.converted deps)) ∨
    ¬ builder.HeadersConvert deps ∧ ∃ failure, result = .error failure)

theorem runs_tryHeaders {result : Except Failure (Option Headers)}
    (h : Runs (builder.tryHeaders deps) tr result) : builder.ConvertEnds deps tr result := by
  unfold ClientBuilder.tryHeaders at h
  unfold ClientBuilder.ConvertEnds ClientBuilder.HeadersConvert ClientBuilder.converted
  cases hheaders : builder.headers with
  | none =>
      rw [hheaders] at h
      obtain ⟨rfl, rfl⟩ := Dialogue.runs_pure.mp h
      exact ⟨rfl, .inl ⟨by simp, rfl⟩⟩
  | some headers =>
      rw [hheaders] at h
      cases hinto : headers.tryInto deps with
      | ok sent =>
          simp only [hinto] at h
          obtain ⟨rfl, rfl⟩ := Dialogue.runs_pure.mp h
          exact ⟨rfl, .inl ⟨by simp [hinto], by simp [hinto, Except.toOption]⟩⟩
      | error e =>
          simp only [hinto] at h
          obtain ⟨rfl, rfl⟩ := runs_throw.mp h
          exact ⟨rfl, .inr ⟨by simp [hinto], _, rfl⟩⟩

theorem runs_unwrapHeaders {result : Except Failure (Option Headers)}
    (h : Runs (builder.unwrapHeaders deps) tr result) : builder.ConvertEnds deps tr result := by
  unfold ClientBuilder.unwrapHeaders at h
  unfold ClientBuilder.ConvertEnds ClientBuilder.HeadersConvert ClientBuilder.converted
  cases hheaders : builder.headers with
  | none =>
      rw [hheaders] at h
      obtain ⟨rfl, rfl⟩ := Dialogue.runs_pure.mp h
      exact ⟨rfl, .inl ⟨by simp, rfl⟩⟩
  | some headers =>
      rw [hheaders] at h
      cases hinto : headers.tryInto deps with
      | ok sent =>
          simp only [hinto] at h
          obtain ⟨rfl, rfl⟩ := Dialogue.runs_pure.mp h
          exact ⟨rfl, .inl ⟨by simp [hinto], by simp [hinto, Except.toOption]⟩⟩
      | error e =>
          simp only [hinto] at h
          obtain ⟨rfl, rfl⟩ := Dialogue.runs_error.mp h
          exact ⟨rfl, .inr ⟨by simp [hinto], _, rfl⟩⟩

/-- A handshake over a transport asks what the transport asks. -/
theorem runs_handshakeWithTransport {poll : Exec Bytes} {result : Except Failure ClientBuilder}
    (hfresh : builder.handshake = none)
    (h : Runs (builder.handshakeWithTransport deps poll) tr result) :
    ∃ outcome, Runs poll tr outcome ∧ ∀ builder', result = .ok builder' →
      ∃ data handshake, outcome = .ok data ∧ Announces deps data handshake ∧
        builder' = builder.joined handshake := by
  simp only [ClientBuilder.handshakeWithTransport, hfresh] at h
  rcases runs_bind.mp h with ⟨failure, rfl, hpoll⟩ | ⟨data, before, after, rfl, hpoll, hparse⟩
  · exact ⟨_, hpoll, by simp⟩
  · refine ⟨.ok data, ?_⟩
    -- behind the data, nothing is asked
    cases hpacket : Packet.tryFrom deps.b64 data with
    | error e =>
        rw [hpacket] at hparse
        obtain ⟨rfl, rfl⟩ := runs_throw.mp hparse
        exact ⟨by simpa using hpoll, by simp⟩
    | ok packet =>
        cases hpayload : deps.handshakePacket packet.data with
        | none =>
            rw [hpacket, ok?_bind] at hparse
            simp only [hpayload] at hparse
            obtain ⟨rfl, rfl⟩ := runs_throw.mp hparse
            exact ⟨by simpa using hpoll, by simp⟩
        | some handshake =>
            rw [hpacket, ok?_bind] at hparse
            simp only [hpayload] at hparse
            obtain ⟨rfl, rfl⟩ := Dialogue.runs_pure.mp hparse
            refine ⟨by simpa using hpoll, fun builder' hok => ?_⟩
            exact ⟨data, handshake, rfl, ⟨packet, hpacket, hpayload⟩, (Except.ok.inj hok).symm⟩

/-- The run of a handshake over polling. -/
structure Handshakes (deps : Deps) (mode : Mode) (builder : ClientBuilder) (tr : Transcript)
    (result : Except Failure ClientBuilder) (hashes : List Str) : Prop where
  asked : requests tr =
    handshakeRequests (Polling.baseUrl builder.url) (builder.converted deps) hashes
  /-- The blocking builder asks once, the asynchronous one until there is a chunk. -/
  once : mode = .sync → hashes.length ≤ 1
  joined : ∀ builder', result = .ok builder' → hashes ≠ [] ∧ builder.HeadersConvert deps ∧
    ∃ data handshake, Fetched tr data ∧ Announces deps data handshake ∧
      builder' = builder.joined handshake

/-- **A handshake over polling** is one GET, or in the asynchronous builder one for each empty body
and one for the chunk with the handshake. -/
theorem runs_performHandshake {result : Except Failure ClientBuilder}
    (hfresh : builder.handshake = none)
    (h : Runs (builder.performHandshake deps mode fuel) tr result) :
    ∃ hashes, Handshakes deps mode builder tr result hashes := by
  have hfailed : ∀ failure, result = .error failure → tr = [] →
      ∃ hashes, Handshakes deps mode builder tr result hashes := by
    rintro failure rfl rfl
    exact ⟨[], rfl, by simp, by simp⟩
  cases mode with
  | sync =>
      simp only [ClientBuilder.performHandshake, hfresh] at h
      rcases runs_bind.mp h with ⟨failure, rfl, hconv⟩ | ⟨headers, b, a, rfl, hconv, hpolls⟩
      · exact hfailed failure rfl (runs_unwrapHeaders hconv).1
      · obtain ⟨rfl, ⟨hconvert, hheaders⟩ | ⟨-, failure, hheaders⟩⟩ := runs_unwrapHeaders hconv
        · obtain rfl := Except.ok.inj hheaders
          obtain ⟨outcome, hpoll, hjoined⟩ := runs_handshakeWithTransport hfresh hpolls
          obtain ⟨hash, hrequests, hfetched⟩ := runs_pollBody hpoll
          refine ⟨[hash], hrequests, fun _ => le_rfl, fun builder' hok => ?_⟩
          obtain ⟨data, handshake, rfl, hannounces, rfl⟩ := hjoined builder' hok
          obtain ⟨hne, hdata⟩ := hfetched data rfl
          exact ⟨hne, hconvert, data, handshake, hdata, hannounces, rfl⟩
        · cases hheaders
  | async =>
      simp only [ClientBuilder.performHandshake, hfresh] at h
      rcases runs_bind.mp h with ⟨failure, rfl, hconv⟩ | ⟨headers, b, a, rfl, hconv, hpolls⟩
      · exact hfailed failure rfl (runs_tryHeaders hconv).1
      · obtain ⟨rfl, ⟨hconvert, hheaders⟩ | ⟨-, failure, hheaders⟩⟩ := runs_tryHeaders hconv
        · obtain rfl := Except.ok.inj hheaders
          obtain ⟨outcome, hpoll, hjoined⟩ := runs_handshakeWithTransport hfresh hpolls
          obtain ⟨hashes, hrequests, hfetched⟩ := runs_firstChunk hpoll
          refine ⟨hashes, hrequests, by simp, fun builder' hok => ?_⟩
          obtain ⟨data, handshake, rfl, hannounces, rfl⟩ := hjoined builder' hok
          obtain ⟨hne, hdata⟩ := hfetched data rfl
          exact ⟨hne, hconvert, data, handshake, hdata, hannounces, rfl⟩
        · cases hheaders

end Handshake

/-! ## The upgrade -/

/-- What the probe of a websocket asks: a ping, the answer to it, and the upgrade. -/
def probeRequests : List Request := [.send (.text (50 :: probe)), .next, .send (.text [53])]

/-- The other side has answered the probe. -/
def Probed (tr : Transcript) : Prop :=
  ∃ message, ⟨.next, some (.ok message)⟩ ∈ tr ∧ message.intoData = 51 :: probe

section Upgrade

variable {deps : Deps} {mode : Mode} {fuel : Nat} {builder : ClientBuilder} {tr : Transcript}

/-- The websocket that an url's scheme stands for. -/
def Url.websocket (url : Url) : Option (TransportType × Url) :=
  let url' := url.appendPair "transport".toList "websocket".toList
  if url.scheme = "http".toList ∨ url.scheme = "ws".toList then
    some (.websocket, url'.setScheme "ws".toList)
  else if url.scheme = "https".toList ∨ url.scheme = "wss".toList then
    some (.websocketSecure, url'.setScheme "wss".toList)
  else none

/-- What the upgrade of a session asks: a websocket under the session's id, and its probe. -/
def upgradeRequests (url : Url) (headers : Option Headers) : List Request :=
  .connect url headers :: probeRequests

end Upgrade

/-! ## Building after a handshake over polling -/

section Building

variable {deps : Deps} {mode : Mode} {fuel : Nat} {builder : ClientBuilder} {tr : Transcript}

/-- What a builder does with the handshake it has: where it is upgrading, an upgrade under the new
session id; and elsewhere nothing, for a client that polls under the new session id or for none. -/
structure Follows (deps : Deps) (builder : ClientBuilder) (upgrading polls : Bool)
    (handshake : HandshakePacket) (tr : Transcript) (result : Except Failure InnerSocket) :
    Prop where
  asked : requests tr = [] ∨ upgrading = true ∧ ∃ transport url,
    (builder.joined handshake).url.websocket = some (transport, url) ∧
    requests tr <+: upgradeRequests url (builder.converted deps)
  built : ∀ client, result = .ok client →
    if upgrading then ∃ transport url,
      (builder.joined handshake).url.websocket = some (transport, url) ∧
      requests tr = upgradeRequests url (builder.converted deps) ∧ Probed tr ∧
      client = ⟨transport, url, builder.converted deps, handshake⟩
    else polls = true ∧ client = ⟨.polling, Polling.baseUrl (builder.joined handshake).url,
      builder.converted deps, handshake⟩

end Building

/-! ## Building over a websocket alone -/

/-- The data came in a message of the websocket. -/
def Heard (tr : Transcript) (data : Bytes) : Prop :=
  ∃ item, Websocket.received item = some (.ok data) ∧
    (⟨.next, some item⟩ ∈ tr ∨ ⟨.nextInTime, some (some item)⟩ ∈ tr)

section Direct

variable {deps : Deps} {mode : Mode} {fuel : Nat} {builder : ClientBuilder} {tr : Transcript}

end Direct

end TfSocketio.Engineio
