/-
# Engineio.SessionId — what the urls of the builder's requests name.

The url of a request names the protocol's version, the transport, and the session.  The server
announces the id of a session in the handshake, so what is asked before that cannot name it
(`Request.Addressed`), and the client that has been built goes on under it (`InnerSocket.Named`).  A
websocket that is opened without a handshake names no session.
-/
import TfSocketio.Engineio.Negotiation

namespace TfSocketio.Engineio

open Text (Str)
open Dialogue (Exchange Runs requests)

/-- The url names the version of the protocol, the transport, and the session id if there is one,
each once. -/
structure Url.Names (url : Url) (transport : Str) (sid : List Str) : Prop where
  version : url.values "EIO".toList = [['4']]
  transport : url.values "transport".toList = [transport]
  sid : url.values "sid".toList = sid

/-- The url has none of the names that a client adds. -/
def Url.Plain (url : Url) : Prop :=
  url.values "EIO".toList = [] ∧ url.values "transport".toList = [] ∧
    url.values "sid".toList = []

@[simp] theorem Url.values_setScheme (url : Url) (scheme key : Str) :
    (url.setScheme scheme).values key = url.values key := rfl

/-- The session id of what is asked behind the transcript, if it names one: that of a handshake that
a response has announced.  A client whose transport is a websocket from the start names none. -/
def Knows (deps : Deps) (direct : Bool) (before : Transcript) (sid : List Str) : Prop :=
  if direct then sid = []
  else ∃ data handshake, Fetched before data ∧ Announces deps data handshake ∧
    sid = [handshake.sid]

/-- What the url of a request says, behind what has been asked before. -/
def Request.Addressed (deps : Deps) (direct : Bool) (before : Transcript) : Request → Prop
  -- the client asks for a session, and does not poll yet
  | .get url _ => url.Names "polling".toList []
  | .connect url _ => ∃ sid, Knows deps direct before sid ∧ url.Names "websocket".toList sid
  | .post url _ _ => ∃ sid, Knows deps direct before sid ∧ url.Names "polling".toList sid
  | .now => True
  | .send _ => True
  | .next => True
  | .nextInTime => True

/-- The name of a transport in the query. -/
def TransportType.name : TransportType → Str
  | .polling => "polling".toList
  | .websocketSecure => "websocket".toList
  | .websocket => "websocket".toList

section Sessions

variable {deps : Deps} {mode : Mode} {fuel : Nat} {builder : ClientBuilder} {tr : Transcript}

theorem Fetched.append_left {data : Bytes} (earlier : Transcript) (h : Fetched tr data) :
    Fetched (earlier ++ tr) data := by
  obtain ⟨url, headers, response, hmem, hrest⟩ := h
  exact ⟨url, headers, response, List.mem_append_right _ hmem, hrest⟩

theorem Fetched.append_right {data : Bytes} (later : Transcript) (h : Fetched tr data) :
    Fetched (tr ++ later) data := by
  obtain ⟨url, headers, response, hmem, hrest⟩ := h
  exact ⟨url, headers, response, List.mem_append_left _ hmem, hrest⟩

theorem Knows.append_left {direct : Bool} {sid : List Str} (earlier : Transcript)
    (h : Knows deps direct tr sid) : Knows deps direct (earlier ++ tr) sid := by
  cases direct with
  | true => exact h
  | false =>
      obtain ⟨data, handshake, hfetched, hrest⟩ := h
      exact ⟨data, handshake, hfetched.append_left earlier, hrest⟩

theorem Knows.append_right {direct : Bool} {sid : List Str} (later : Transcript)
    (h : Knows deps direct tr sid) : Knows deps direct (tr ++ later) sid := by
  cases direct with
  | true => exact h
  | false =>
      obtain ⟨data, handshake, hfetched, hrest⟩ := h
      exact ⟨data, handshake, hfetched.append_right later, hrest⟩

theorem Request.Addressed.append_left {direct : Bool} {request : Request} (earlier : Transcript)
    (h : request.Addressed deps direct tr) : request.Addressed deps direct (earlier ++ tr) := by
  cases request with
  | connect url headers =>
      obtain ⟨sid, hknows, hnames⟩ := h
      exact ⟨sid, hknows.append_left earlier, hnames⟩
  | post url headers body =>
      obtain ⟨sid, hknows, hnames⟩ := h
      exact ⟨sid, hknows.append_left earlier, hnames⟩
  | now => exact h
  | get url headers => exact h
  | send message => exact h
  | next => exact h
  | nextInTime => exact h

/-- Where a list of two parts is split at an element, one of the parts is. -/
theorem split_append {α : Type} {first later before after : List α} {x : α}
    (h : first ++ later = before ++ x :: after) :
    (∃ mid, first = before ++ x :: mid) ∨
      ∃ mid, before = first ++ mid ∧ later = mid ++ x :: after := by
  rcases List.append_eq_append_iff.mp h with ⟨mid, hbefore, hlater⟩ | ⟨mid, hfirst, hrest⟩
  · exact .inr ⟨mid, hbefore, hlater⟩
  · cases mid with
    | nil => exact .inr ⟨[], by simpa using hfirst.symm, hrest.symm⟩
    | cons y mid =>
        obtain ⟨rfl, -⟩ := List.cons.inj hrest
        exact .inl ⟨mid, hfirst⟩

/-- Every request is addressed. -/
def AllAddressed (deps : Deps) (direct : Bool) (tr : Transcript) : Prop :=
  ∀ before exchange after, tr = before ++ exchange :: after →
    exchange.request.Addressed deps direct before

/-- What is asked behind a transcript is addressed if it is so by itself, or knows of the session
that the transcript has. -/
theorem AllAddressed.append {direct : Bool} {later : Transcript} (h : AllAddressed deps direct tr)
    (hlater : ∀ mid exchange after, later = mid ++ exchange :: after →
      exchange.request.Addressed deps direct (tr ++ mid)) :
    AllAddressed deps direct (tr ++ later) := by
  intro before exchange after hsplit
  rcases split_append hsplit with ⟨mid, rfl⟩ | ⟨mid, rfl, hrest⟩
  · exact h before exchange mid rfl
  · exact hlater mid exchange after hrest

end Sessions

end TfSocketio.Engineio
