/-
# Engineio.Client — what the two clients do with the packets they read.

The blocking `Client::poll` takes one packet from its socket and handles it.  The asynchronous
client is a generator over the socket's stream, which handles each packet before it yields it.  The
two matches over packet kinds are `Connection.handle`; they differ in one place: a server that sends
an `Open` or a `Pong` packet makes the blocking client panic, and the asynchronous one fails.

`Alike` compares the two on the same bodies, up to the first `Close` packet and the first failure,
and `NeverPanics` looks at a caller that polls on behind a failure.  `react` is the meaning both are
reduced to: the turns on the items ahead, one after the other.
-/
import TfSocketio.Engineio.Socket
import Mathlib.Data.List.Forall2

namespace TfSocketio.Engineio

/-! ## One packet -/

/-- A callback that is invoked, or a packet that is sent. -/
inductive Effect where
  | onOpen
  | onPacket (packet : Packet)
  | onData (data : Bytes)
  | onClose
  | onError (error : Error)
  | emitted (packet : Packet)
  deriving DecidableEq, Repr

/-- What a call returns to its caller. -/
inductive Report where
  | packet (packet : Packet)
  | none
  | error (error : Error)
  /-- An `unreachable!` is reached. -/
  | panicked
  /-- The transport has nothing to return: the call blocks. -/
  | pending
  deriving DecidableEq, Repr

/-- One call: what it returns, and what it did before. -/
structure Turn where
  report : Report
  effects : List Effect
  deriving DecidableEq, Repr

def Turn.failed (turn : Turn) : Bool :=
  match turn.report with
  | .error _ => true
  | _ => false

/-- What handling a packet reads and writes: the connected flag, and what the transport's next emits
fail with (an exhausted list means success). -/
structure Connection where
  connected : Bool
  failures : List (Option Error)
  deriving DecidableEq, Repr

/-- Sends a packet to the server.  A failure invokes the error callback. -/
def Connection.emit (c : Connection) (packet : Packet) :
    Except Error Unit × List Effect × Connection :=
  if c.connected then
    match c.failures with
    | some e :: failures => (.error e, [.onError e], { c with failures })
    | .none :: failures => (.ok (), [.emitted packet], { c with failures })
    | [] => (.ok (), [.emitted packet], c)
  else (.error .illegalActionBeforeOpen, [.onError .illegalActionBeforeOpen], c)

/-- The match over packet kinds.  `unexpected` is what becomes of the kinds that only a client
sends. -/
def Connection.handle (unexpected : Report) (c : Connection) (packet : Packet) :
    Turn × Connection :=
  match packet.packetId with
  | .messageBinary => (⟨.packet packet, [.onPacket packet, .onData packet.data]⟩, c)
  | .message => (⟨.packet packet, [.onPacket packet, .onData packet.data]⟩, c)
  | .close => (⟨.packet packet, [.onPacket packet, .onClose]⟩, { c with connected := false })
  | .upgrade => (⟨.packet packet, [.onPacket packet]⟩, c)
  | .ping =>
      match c.emit ⟨.pong, []⟩ with
      | (.ok (), effects, c) => (⟨.packet packet, .onPacket packet :: effects⟩, c)
      | (.error e, effects, c) => (⟨.error e, .onPacket packet :: effects⟩, c)
  | .«open» => (⟨unexpected, [.onPacket packet]⟩, c)
  | .pong => (⟨unexpected, [.onPacket packet]⟩, c)
  | .noop => (⟨.packet packet, [.onPacket packet]⟩, c)

/-- The match of `Client::poll`: `unreachable!`. -/
def Connection.handlePacket : Connection → Packet → Turn × Connection :=
  Connection.handle .panicked

/-- The match of the asynchronous `Socket::handle_incoming_packet`. -/
def Connection.handleIncomingPacket : Connection → Packet → Turn × Connection :=
  Connection.handle (.error .invalidPacket)

/-- Opens the connection: the first `Pong` starts the ping cycle. -/
def Connection.connect (c : Connection) : Turn × Connection :=
  match { c with connected := true }.emit ⟨.pong, []⟩ with
  | (.ok (), effects, c) => (⟨.none, .onOpen :: effects⟩, c)
  | (.error e, effects, c) => (⟨.error e, .onOpen :: effects⟩, c)

/-! ## The two clients -/

/-- The blocking client. -/
structure Client where
  socket : Socket
  failures : List (Option Error)

def Client.connection (c : Client) : Connection := ⟨c.socket.connected, c.failures⟩

/-- The client behind a change of its connection. -/
def Client.withConnection (c : Client) (connection : Connection) : Client :=
  ⟨{ c.socket with connected := connection.connected }, connection.failures⟩

/-- Polls for the next packet. -/
def Client.poll (b64 : Base64Engine) (c : Client) : Turn × Client :=
  match c.socket.poll b64 with
  | (.packet packet, socket) =>
      let c := { c with socket }
      let (turn, connection) := c.connection.handlePacket packet
      (turn, c.withConnection connection)
  | (.none, socket) => (⟨.none, []⟩, { c with socket })
  | (.error e, socket) => (⟨.error e, []⟩, { c with socket })
  | (.pending, socket) => (⟨.pending, []⟩, { c with socket })

def Client.connect (c : Client) : Turn × Client :=
  let (turn, connection) := c.connection.connect
  (turn, c.withConnection connection)

namespace Async

/-- The asynchronous client.  `generator` is what is left of the socket's stream, unless an error
has ended it. -/
structure Client where
  connection : Connection
  generator : Option (List (Except Error Packet))

/-- The next item of the client's stream. -/
def Client.next (c : Client) : Turn × Client :=
  match c.generator with
  | none => (⟨.none, []⟩, c)
  | some [] => (⟨.pending, []⟩, c)
  | some (.error e :: _) => (⟨.error e, []⟩, { c with generator := none })
  | some (.ok packet :: items) =>
      let (turn, connection) := c.connection.handleIncomingPacket packet
      -- `?` in a `try_stream!` block: an error is the last item
      (turn, ⟨connection, if turn.failed then none else some items⟩)

def Client.connect (c : Client) : Turn × Client :=
  let (turn, connection) := c.connection.connect
  (turn, { c with connection })

/-- A connected client that has read nothing of what its transport will deliver. -/
def Client.reading (b64 : Base64Engine) (incoming : List (Except Error Bytes))
    (failures : List (Option Error)) : Client :=
  ⟨⟨true, failures⟩, some (Socket.stream b64 incoming)⟩

end Async

/-- A connected client that has read nothing of what its transport will deliver. -/
def Client.reading (incoming : List (Except Error Bytes)) (failures : List (Option Error)) :
    Client :=
  ⟨Socket.reading incoming, failures⟩

/-! ## The packets a connected client has ahead of it -/

/-- The items ahead of a blocking socket whose caller polls on: what is buffered, and the meaning of
what its transport will deliver. -/
def Socket.left (b64 : Base64Engine) (s : Socket) : List (Except Error Packet) :=
  (s.remainingPackets.getD []).map .ok ++ decodeAll b64 s.incoming

/-- The same through the first failure. -/
def Socket.ahead (b64 : Base64Engine) (s : Socket) : List (Except Error Packet) :=
  (s.remainingPackets.getD []).map .ok ++ decodeBodies b64 s.incoming

section Ahead

variable {b64 : Base64Engine}

theorem Socket.throughError_left (s : Socket) : throughError (s.left b64) = s.ahead b64 := by
  rw [Socket.left, throughError_append, throughError_decodeAll, Socket.ahead]

/-- A fetch takes the first item of the meaning of what is delivered. -/
theorem Socket.fetch_spec (s : Socket) (hr : s.remainingPackets.getD [] = [])
    (incoming : List (Except Error Bytes)) :
    match decodeAll b64 incoming with
    | [] =>
        ∃ s', s.fetch b64 incoming = (.pending, s') ∧ s'.connected = s.connected ∧
          s'.left b64 = []
    | .error e :: items =>
        ∃ s', s.fetch b64 incoming = (.error e, s') ∧ s'.connected = s.connected ∧
          s'.left b64 = items
    | .ok packet :: items =>
        ∃ s', s.fetch b64 incoming = (.packet packet, s') ∧ s'.connected = s.connected ∧
          s'.left b64 = items := by
  induction incoming with
  | nil =>
      refine ⟨{ s with incoming := [] }, rfl, rfl, ?_⟩
      simp [Socket.left, hr, decodeAll]
  | cons item rest ih =>
      rw [decodeAll_cons]
      rcases item with e | data
      · refine ⟨{ s with incoming := rest }, rfl, rfl, ?_⟩
        simp [Socket.left, hr]
      · by_cases hne : data = []
        · -- skipped on both sides
          subst hne
          simpa [Socket.fetch, decodeItem] using ih
        · cases hp : Payload.tryFrom b64 data with
          | error e =>
              simp only [decodeItem, hne, hp, if_false]
              refine ⟨{ s with incoming := rest }, by simp [Socket.fetch, hne, hp], rfl, ?_⟩
              simp [Socket.left, hr]
          | ok ps =>
              cases ps with
              | nil => exact absurd rfl (Payload.ne_nil_of_tryFrom hp)
              | cons p iter =>
                  simp only [decodeItem, hne, hp, if_false]
                  refine ⟨{ s with remainingPackets := some iter, incoming := rest }, ?_, rfl, rfl⟩
                  simp [Socket.fetch, hne, hp]

/-- A poll of a connected socket takes the first item that is left. -/
theorem Socket.poll_left {s : Socket} (hc : s.connected = true) :
    match s.left b64 with
    | [] => ∃ s', s.poll b64 = (.pending, s') ∧ s'.connected = true ∧ s'.left b64 = []
    | .error e :: items =>
        ∃ s', s.poll b64 = (.error e, s') ∧ s'.connected = true ∧ s'.left b64 = items
    | .ok packet :: items =>
        ∃ s', s.poll b64 = (.packet packet, s') ∧ s'.connected = true ∧ s'.left b64 = items := by
  have hfetch := fun hr => @Socket.fetch_spec b64 s hr s.incoming
  rw [hc] at hfetch
  rcases hr : s.remainingPackets with _ | _ | ⟨p, iter⟩
  · simpa [Socket.left, Socket.poll, hc, hr] using hfetch
  · simpa [Socket.left, Socket.poll, hc, hr] using hfetch
  · have hleft : s.left b64 = .ok p :: (iter.map .ok ++ decodeAll b64 s.incoming) := by
      simp [Socket.left, hr]
    rw [hleft]
    refine ⟨{ s with remainingPackets := some iter }, ?_, hc, rfl⟩
    simp [Socket.poll, hc, hr]

/-- It is the first item ahead of it. -/
theorem Socket.poll_spec {s : Socket} (hc : s.connected = true) :
    match s.ahead b64 with
    | [] => (s.poll b64).1 = .pending
    | .error e :: _ => (s.poll b64).1 = .error e
    | .ok packet :: items =>
        ∃ s', s.poll b64 = (.packet packet, s') ∧ s'.connected = true ∧ s'.ahead b64 = items := by
  have hpoll := @Socket.poll_left b64 s hc
  rw [← Socket.throughError_left]
  rcases hleft : s.left b64 with _ | ⟨e | packet, items⟩
  · rw [hleft] at hpoll
    obtain ⟨s', hs', -, -⟩ := hpoll
    exact congrArg Prod.fst hs'
  · rw [hleft] at hpoll
    obtain ⟨s', hs', -, -⟩ := hpoll
    exact congrArg Prod.fst hs'
  · rw [hleft] at hpoll
    obtain ⟨s', hs', hc', hitems⟩ := hpoll
    exact ⟨s', hs', hc', by rw [← Socket.throughError_left, hitems]⟩

end Ahead

/-! ## The same input, up to the first close -/

/-- A call that is not the last one: it returned a packet, and no `Close`. -/
def Turn.goesOn (turn : Turn) : Bool :=
  match turn.report with
  | .packet packet => packet.packetId != .close
  | _ => false

/-- The turns of up to `n` calls, through the first that returns a `Close` packet or no packet. -/
def turns {σ : Type} (call : σ → Turn × σ) : Nat → σ → List Turn
  | 0, _ => []
  | n + 1, s =>
      if (call s).1.goesOn then (call s).1 :: turns call n (call s).2 else [(call s).1]

/-- A caller that polls on behind an error goes on behind this call. -/
def Turn.pollsOn (turn : Turn) : Bool := turn.goesOn || turn.failed

/-- The turns of up to `n` calls of a caller that polls on behind an error, through the first that
returns a `Close` packet, panics or waits. -/
def polls {σ : Type} (call : σ → Turn × σ) : Nat → σ → List Turn
  | 0, _ => []
  | n + 1, s => (call s).1 :: if (call s).1.pollsOn then polls call n (call s).2 else []

/-- However often the caller polls on, there is no panic. -/
def NeverPanics {σ : Type} (call : σ → Turn × σ) (s : σ) : Prop :=
  ∀ n, ∀ turn ∈ polls call n s, turn.report ≠ .panicked

/-- The two reports of the same call: the same packet, an error value each, or both waiting. -/
inductive Report.Alike : Report → Report → Prop
  | packet (packet : Packet) : Alike (.packet packet) (.packet packet)
  | error (e e' : Error) : Alike (.error e) (.error e')
  | pending : Alike .pending .pending

/-- The `Pong` packets sent in a list of turns. -/
def pongs (turns : List Turn) : Nat :=
  (turns.map fun turn => turn.effects.count (.emitted ⟨.pong, []⟩)).sum

/-- The turns of both clients on the same input. -/
structure Alike (turns turns' : List Turn) : Prop where
  reports : List.Forall₂ Report.Alike (turns.map Turn.report) (turns'.map Turn.report)
  pongs : pongs turns = pongs turns'

/-- A packet of a kind that only a client sends. -/
def Packet.unexpected (packet : Packet) : Bool :=
  packet.packetId = .«open» || packet.packetId = .pong

/-- An `Open` or `Pong` packet is decoded before the first `Close` packet. -/
def UnexpectedAhead : List (Except Error Packet) → Prop
  | [] => False
  | .error _ :: items => UnexpectedAhead items
  | .ok packet :: items =>
      packet.unexpected ∨ packet.packetId ≠ .close ∧ UnexpectedAhead items

/-- The turns on a list of items, while every emit succeeds: the meaning of both clients. -/
def react (unexpected : Report) : List (Except Error Packet) → List Turn
  | [] => [⟨.pending, []⟩]
  | .error e :: _ => [⟨.error e, []⟩]
  | .ok packet :: items =>
      let turn := (Connection.handle unexpected ⟨true, []⟩ packet).1
      if turn.goesOn then turn :: react unexpected items else [turn]

/-- The turns on a list of items of a caller that polls on behind an error. -/
def reactOn (unexpected : Report) : List (Except Error Packet) → List Turn
  | [] => [⟨.pending, []⟩]
  | .error e :: items => ⟨.error e, []⟩ :: reactOn unexpected items
  | .ok packet :: items =>
      let turn := (Connection.handle unexpected ⟨true, []⟩ packet).1
      turn :: if turn.goesOn then reactOn unexpected items else []

section React

variable {b64 : Base64Engine}

/-- Behind a packet that is not the last, the connection is as before. -/
theorem Connection.handle_goesOn {unexpected : Report} {packet : Packet}
    (h : (Connection.handle unexpected ⟨true, []⟩ packet).1.goesOn = true) :
    (Connection.handle unexpected ⟨true, []⟩ packet).2 = ⟨true, []⟩ := by
  obtain ⟨packetId, data⟩ := packet
  cases packetId <;> first | rfl | simp [Connection.handle, Turn.goesOn] at h

theorem Turn.not_failed_of_goesOn {turn : Turn} (h : turn.goesOn = true) :
    turn.failed = false := by
  obtain ⟨report, effects⟩ := turn
  cases report <;> first | rfl | simp [Turn.goesOn] at h

/-- **The blocking client computes `react`.** -/
theorem Client.turns_eq (n : Nat) (s : Socket) (hc : s.connected = true) :
    turns (Client.poll b64) n ⟨s, []⟩ = (react .panicked (s.ahead b64)).take n := by
  induction n generalizing s with
  | zero => rfl
  | succ n ih =>
      have hpoll := @Socket.poll_spec b64 s hc
      rcases hahead : s.ahead b64 with _ | ⟨e | packet, items⟩
      · rw [hahead] at hpoll
        have hturn : (Client.poll b64 ⟨s, []⟩).1 = ⟨.pending, []⟩ := by
          rw [Client.poll]
          split <;> simp_all
        simp [turns, hturn, react, Turn.goesOn]
      · rw [hahead] at hpoll
        have hturn : (Client.poll b64 ⟨s, []⟩).1 = ⟨.error e, []⟩ := by
          rw [Client.poll]
          split <;> simp_all
        simp [turns, hturn, react, Turn.goesOn]
      · rw [hahead] at hpoll
        obtain ⟨s', hs', hc', hitems⟩ := hpoll
        have hcall : Client.poll b64 ⟨s, []⟩ =
            ((Connection.handle .panicked ⟨true, []⟩ packet).1,
              Client.withConnection ⟨s', []⟩
                (Connection.handle .panicked ⟨true, []⟩ packet).2) := by
          simp [Client.poll, hs', Client.connection, hc', Connection.handlePacket]
        by_cases hgo : (Connection.handle .panicked ⟨true, []⟩ packet).1.goesOn = true
        · have hrest := ih s' hc'
          rw [hitems] at hrest
          have hsame : Client.withConnection ⟨s', []⟩ ⟨true, []⟩ = ⟨s', []⟩ := by
            rw [Client.withConnection, ← hc']
          simp [turns, hcall, hgo, Connection.handle_goesOn hgo, hsame, hrest, react]
        · simp [turns, hcall, hgo, react]

/-- A turn of the blocking client is an error only where its socket fails. -/
theorem Connection.not_failed (packet : Packet) :
    (Connection.handle .panicked ⟨true, []⟩ packet).1.failed = false := by
  obtain ⟨packetId, data⟩ := packet
  cases packetId <;> rfl

/-- **The blocking client whose caller polls on computes `reactOn`.** -/
theorem Client.polls_eq (n : Nat) (s : Socket) (hc : s.connected = true) :
    polls (Client.poll b64) n ⟨s, []⟩ = (reactOn .panicked (s.left b64)).take n := by
  induction n generalizing s with
  | zero => rfl
  | succ n ih =>
      have hpoll := @Socket.poll_left b64 s hc
      rcases hleft : s.left b64 with _ | ⟨e | packet, items⟩
      · rw [hleft] at hpoll
        obtain ⟨s', hs', -, -⟩ := hpoll
        have hturn : (Client.poll b64 ⟨s, []⟩).1 = ⟨.pending, []⟩ := by
          simp [Client.poll, hs']
        simp [polls, hturn, reactOn, Turn.pollsOn, Turn.goesOn, Turn.failed]
      · rw [hleft] at hpoll
        obtain ⟨s', hs', hc', hitems⟩ := hpoll
        have hcall : Client.poll b64 ⟨s, []⟩ = (⟨.error e, []⟩, ⟨s', []⟩) := by
          simp [Client.poll, hs']
        have hrest := ih s' hc'
        rw [hitems] at hrest
        simp [polls, hcall, hrest, reactOn, Turn.pollsOn, Turn.failed]
      · rw [hleft] at hpoll
        obtain ⟨s', hs', hc', hitems⟩ := hpoll
        have hcall : Client.poll b64 ⟨s, []⟩ =
            ((Connection.handle .panicked ⟨true, []⟩ packet).1,
              Client.withConnection ⟨s', []⟩
                (Connection.handle .panicked ⟨true, []⟩ packet).2) := by
          simp [Client.poll, hs', Client.connection, hc', Connection.handlePacket]
        have hfailed := Connection.not_failed packet
        by_cases hgo : (Connection.handle .panicked ⟨true, []⟩ packet).1.goesOn = true
        · have hrest := ih s' hc'
          rw [hitems] at hrest
          have hsame : Client.withConnection ⟨s', []⟩ ⟨true, []⟩ = ⟨s', []⟩ := by
            rw [Client.withConnection, ← hc']
          simp [polls, hcall, hgo, Connection.handle_goesOn hgo, hsame, hrest, reactOn,
            Turn.pollsOn]
        · simp [polls, hcall, hgo, hfailed, reactOn, Turn.pollsOn]

/-- **The asynchronous client computes `react`.** -/
theorem Async.Client.turns_eq (n : Nat) (items : List (Except Error Packet)) :
    turns Async.Client.next n ⟨⟨true, []⟩, some items⟩ =
      (react (.error .invalidPacket) items).take n := by
  induction n generalizing items with
  | zero => rfl
  | succ n ih =>
      rcases items with _ | ⟨e | packet, items⟩
      · simp [turns, Async.Client.next, Turn.goesOn, react]
      · simp [turns, Async.Client.next, Turn.goesOn, react]
      · have hcall : Async.Client.next ⟨⟨true, []⟩, some (.ok packet :: items)⟩ =
            ((Connection.handle (.error .invalidPacket) ⟨true, []⟩ packet).1,
              ⟨(Connection.handle (.error .invalidPacket) ⟨true, []⟩ packet).2,
                if (Connection.handle (.error .invalidPacket) ⟨true, []⟩ packet).1.failed then none
                else some items⟩) := rfl
        by_cases hgo :
            (Connection.handle (.error .invalidPacket) ⟨true, []⟩ packet).1.goesOn = true
        · simp [turns, hcall, hgo, Turn.not_failed_of_goesOn hgo, Connection.handle_goesOn hgo, ih,
            react]
        · simp [turns, hcall, hgo, react]

/-- A packet of an expected kind is handled alike. -/
theorem Connection.handle_expected {packet : Packet} (h : packet.unexpected = false)
    (unexpected unexpected' : Report) (c : Connection) :
    Connection.handle unexpected c packet = Connection.handle unexpected' c packet := by
  obtain ⟨packetId, data⟩ := packet
  cases packetId <;> first | rfl | simp [Packet.unexpected] at h

/-- With every emit succeeding, it is reported. -/
theorem Connection.handle_report {packet : Packet} (h : packet.unexpected = false)
    (unexpected : Report) :
    (Connection.handle unexpected ⟨true, []⟩ packet).1.report = .packet packet := by
  obtain ⟨packetId, data⟩ := packet
  cases packetId <;> first | rfl | simp [Packet.unexpected] at h

/-- A packet of an unexpected kind is the last. -/
theorem Connection.handle_unexpected {packet : Packet} (h : packet.unexpected = true)
    (unexpected : Report) (c : Connection) :
    (Connection.handle unexpected c packet).1.report = unexpected := by
  obtain ⟨packetId, data⟩ := packet
  cases packetId <;> first | rfl | simp [Packet.unexpected] at h

/-- The asynchronous client never panics. -/
theorem Async.Client.neverPanics (c : Async.Client) : NeverPanics Async.Client.next c := by
  intro n
  induction n generalizing c with
  | zero => simp [polls]
  | succ n ih =>
      have hturn : c.next.1.report ≠ .panicked := by
        obtain ⟨connection, _ | _ | ⟨e | packet, items⟩⟩ := c
        · simp [Async.Client.next]
        · simp [Async.Client.next]
        · simp [Async.Client.next]
        · show (Connection.handle (.error .invalidPacket) connection packet).1.report ≠ .panicked
          obtain ⟨packetId, data⟩ := packet
          cases packetId
          case ping =>
            rcases hemit : connection.emit ⟨.pong, []⟩ with ⟨e | ⟨⟩, effects, connection'⟩ <;>
              simp [Connection.handle, hemit]
          all_goals simp [Connection.handle]
      intro turn hmem
      rcases List.mem_cons.mp hmem with rfl | hmem
      · exact hturn
      · split at hmem
        · exact ih _ turn hmem
        · simp at hmem

theorem Turn.goesOn_packet {packet : Packet} {turn : Turn} (h : turn.report = .packet packet) :
    turn.goesOn = (packet.packetId != .close) := by
  rw [Turn.goesOn, h]

/-- Of two lists of reports that are alike, the first holds no panic. -/
theorem not_panicked_of_alike {reports reports' : List Report}
    (h : List.Forall₂ Report.Alike reports reports') : ∀ report ∈ reports, report ≠ .panicked := by
  have hboth : List.Forall₂ (fun report report' => report ≠ .panicked ∧ Report.Alike report report')
      reports reports' := by
    refine h.imp fun report report' halike => ⟨?_, halike⟩
    rintro rfl
    nomatch halike
  exact ((List.forall₂_and_left _ _).mp hboth).1

/-- Without an unexpected packet ahead, the meaning is that of either client, and every report has
an equal in the other. -/
theorem react_expected {items : List (Except Error Packet)} (h : ¬ UnexpectedAhead items)
    (unexpected unexpected' : Report) :
    react unexpected items = react unexpected' items ∧
      ∀ turn ∈ react unexpected items, turn.report.Alike turn.report := by
  induction items with
  | nil => simpa [react] using Report.Alike.pending
  | cons item items ih =>
      rcases item with e | packet
      · simpa [react] using Report.Alike.error e e
      · have hpacket : packet.unexpected = false := by
          by_contra hne
          exact h (.inl (by simpa using hne))
        have hreport := Connection.handle_report hpacket unexpected
        have hgo := Turn.goesOn_packet hreport
        have hself : Report.Alike
            (Connection.handle unexpected ⟨true, []⟩ packet).1.report
            (Connection.handle unexpected ⟨true, []⟩ packet).1.report := by
          rw [hreport]
          exact .packet packet
        by_cases hclose : packet.packetId = .close
        · simp [react, ← Connection.handle_expected hpacket unexpected unexpected', hgo, hclose,
            hself]
        · obtain ⟨hsame, halike⟩ := ih fun hahead => h (.inr ⟨hclose, hahead⟩)
          simpa [react, ← Connection.handle_expected hpacket unexpected unexpected', hgo, hclose,
            hsame, hself] using hsame ▸ halike

theorem unexpectedAhead_of_throughError {items : List (Except Error Packet)}
    (h : UnexpectedAhead (throughError items)) : UnexpectedAhead items := by
  induction items with
  | nil => exact h
  | cons item items ih =>
      rcases item with e | packet
      · exact absurd h id
      · exact h.imp id (And.imp_right ih)

/-- A blocking caller that polls on meets a panic exactly with one ahead. -/
theorem reactOn_panics_iff (items : List (Except Error Packet)) :
    (∃ turn ∈ reactOn .panicked items, turn.report = .panicked) ↔ UnexpectedAhead items := by
  induction items with
  | nil => simp [reactOn, UnexpectedAhead]
  | cons item items ih =>
      rcases item with e | packet
      · rw [UnexpectedAhead, ← ih]
        simp [reactOn]
      · rw [UnexpectedAhead, ← ih]
        by_cases hpacket : packet.unexpected = true
        · have hreport := Connection.handle_unexpected hpacket .panicked ⟨true, []⟩
          simp [reactOn, hpacket, hreport]
        · have hreport := Connection.handle_report (by simpa using hpacket) .panicked
          have hgo := Turn.goesOn_packet hreport
          by_cases hclose : packet.packetId = .close
          · simp [reactOn, hgo, hclose, hreport, hpacket]
          · simp [reactOn, hgo, hclose, hreport, hpacket]

/-- **The clients react alike**, and neither panics however often it is polled behind a failure,
exactly when the server sends no `Open` and no `Pong` packet in an accepted body before its first
`Close` packet. -/
theorem turns_alike_iff {bodies : List Bytes} (h : ∀ body ∈ bodies, body ≠ []) :
    ((∀ n, Alike (turns (Client.poll b64) n (Client.reading (bodies.map .ok) []))
        (turns Async.Client.next n (Async.Client.reading b64 (bodies.map .ok) []))) ∧
      NeverPanics (Client.poll b64) (Client.reading (bodies.map .ok) []) ∧
      NeverPanics Async.Client.next (Async.Client.reading b64 (bodies.map .ok) [])) ↔
      ¬ UnexpectedAhead (decodeAll b64 (bodies.map .ok)) := by
  have hpolls : ∀ n, polls (Client.poll b64) n (Client.reading (bodies.map .ok) []) =
      (reactOn .panicked (decodeAll b64 (bodies.map .ok))).take n := by
    intro n
    rw [Client.reading, Client.polls_eq n _ rfl]
    rfl
  constructor
  · rintro ⟨-, hnever, -⟩ hahead
    obtain ⟨turn, hturn, hpanic⟩ := (reactOn_panics_iff _).mpr hahead
    -- the panic is seen in as many calls as the meaning is long
    have hall := hnever (reactOn .panicked (decodeAll b64 (bodies.map .ok))).length
    rw [hpolls, List.take_length] at hall
    exact hall turn hturn hpanic
  · intro hahead
    have hbodies : ¬ UnexpectedAhead (decodeBodies b64 (bodies.map .ok)) := by
      rw [← throughError_decodeAll]
      exact fun hthrough => hahead (unexpectedAhead_of_throughError hthrough)
    obtain ⟨hsame, halike⟩ := react_expected hbodies .panicked (.error .invalidPacket)
    refine ⟨fun n => ?_, fun n turn hturn hpanic => hahead ?_, Async.Client.neverPanics _⟩
    · have hsync : turns (Client.poll b64) n (Client.reading (bodies.map .ok) []) =
          (react .panicked (decodeBodies b64 (bodies.map .ok))).take n := by
        rw [Client.reading, Client.turns_eq n _ rfl]
        rfl
      have hasync : turns Async.Client.next n (Async.Client.reading b64 (bodies.map .ok) []) =
          (react (.error .invalidPacket) (decodeBodies b64 (bodies.map .ok))).take n := by
        have hitems : ∀ item ∈ bodies.map Except.ok, item ≠ (.ok [] : Except Error Bytes) := by
          intro item hitem
          obtain ⟨body, hbody, rfl⟩ := List.mem_map.mp hitem
          simpa using h body hbody
        rw [Async.Client.reading, Socket.stream_eq hitems, Async.Client.turns_eq]
      rw [hsync, hasync, ← hsame]
      refine ⟨?_, rfl⟩
      rw [List.forall₂_map_left_iff, List.forall₂_map_right_iff, List.forall₂_same]
      intro turn hturn
      exact halike turn (List.mem_of_mem_take hturn)
    · rw [hpolls] at hturn
      exact (reactOn_panics_iff _).mp ⟨turn, List.mem_of_mem_take hturn, hpanic⟩

end React

/-- Two bodies: a ping, and a payload of a message, a close and a packet behind it. -/
theorem turns_alike_close :
    Alike
        (turns (Client.poll .standard) 3
          (Client.reading ([[50], [52, 97, 0x1e, 49, 0x1e, 51]].map .ok) []))
        (turns Async.Client.next 3
          (Async.Client.reading .standard ([[50], [52, 97, 0x1e, 49, 0x1e, 51]].map .ok) [])) ∧
      NeverPanics (Client.poll .standard)
        (Client.reading ([[50], [52, 97, 0x1e, 49, 0x1e, 51]].map .ok) []) := by
  have hping : Payload.tryFrom .standard [50] = .ok [⟨.ping, []⟩] := rfl
  have hclose : Payload.tryFrom .standard [52, 97, 0x1e, 49, 0x1e, 51] =
      .ok [⟨.message, [97]⟩, ⟨.close, []⟩, ⟨.pong, []⟩] := rfl
  have hexpected : ¬ UnexpectedAhead
      (decodeAll .standard ([[50], [52, 97, 0x1e, 49, 0x1e, 51]].map .ok)) := by
    simp [decodeAll, decodeItem, hping, hclose, UnexpectedAhead, Packet.unexpected]
  obtain ⟨halike, hnever, -⟩ := (turns_alike_iff (by decide)).mpr hexpected
  exact ⟨halike 3, hnever⟩

/-- A server that sends a `Pong` packet, at once or behind a body that is rejected: the blocking
client reaches `unreachable!`. -/
theorem not_turns_alike_pong :
    (¬ ∀ (b64 : Base64Engine) (bodies : List Bytes), (∀ body ∈ bodies, body ≠ []) →
      ∀ n, Alike (turns (Client.poll b64) n (Client.reading (bodies.map .ok) []))
        (turns Async.Client.next n (Async.Client.reading b64 (bodies.map .ok) []))) ∧
      ¬ NeverPanics (Client.poll .standard) (Client.reading ([[55], [51]].map .ok) []) := by
  constructor
  · intro hall
    have halike := (hall .standard [[51]] (by decide) 1).reports
    have hsync : turns (Client.poll .standard) 1 (Client.reading [.ok [51]] []) =
        [⟨.panicked, [.onPacket ⟨.pong, []⟩]⟩] := rfl
    refine not_panicked_of_alike halike .panicked ?_ rfl
    rw [List.map_singleton, hsync]
    exact List.mem_singleton_self _
  · intro hnever
    have hsync : polls (Client.poll .standard) 2 (Client.reading ([[55], [51]].map .ok) []) =
        [⟨.error (.invalidPacketId 55), []⟩, ⟨.panicked, [.onPacket ⟨.pong, []⟩]⟩] := rfl
    have hturn := hnever 2 ⟨.panicked, [.onPacket ⟨.pong, []⟩]⟩
    rw [hsync] at hturn
    exact hturn (by simp) rfl

end TfSocketio.Engineio
