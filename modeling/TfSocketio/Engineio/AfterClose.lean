/-
# Engineio.AfterClose — what comes out of a client behind a `Close` packet.

Handling a `Close` packet clears the connected flag.  The blocking socket consults the flag before
every packet it hands over, the ones it holds already included (`Client.quiet`); they stay in its
buffer and come out after the next `connect`.  The asynchronous client never consults it: its
generator goes on with whatever stands behind the close, in the same payload or in a later one.
`quiet_iff` says what a server must not send for both to be quiet and for both to discard what
stands behind a close in its payload.
-/
import TfSocketio.Engineio.Client

namespace TfSocketio.Engineio

/-! ## Behind a close -/

/-- What the user of a client does. -/
inductive Op where
  | next
  | connect
  deriving DecidableEq, Repr

/-- The calls of a run and what became of each. -/
def calls {σ : Type} (next connect : σ → Turn × σ) : σ → List Op → List (Op × Turn)
  | _, [] => []
  | s, .next :: ops => (.next, (next s).1) :: calls next connect (next s).2 ops
  | s, .connect :: ops => (.connect, (connect s).1) :: calls next connect (connect s).2 ops

/-- The call processed a `Close` packet. -/
def Turn.closes (turn : Turn) : Bool := .onClose ∈ turn.effects

/-- The call yields no packet and invokes neither packet callback. -/
structure Turn.Silent (turn : Turn) : Prop where
  report : ∀ packet, turn.report ≠ .packet packet
  onPacket : ∀ packet, .onPacket packet ∉ turn.effects
  onData : ∀ data, .onData data ∉ turn.effects

/-- Once a `Close` packet has been processed, every read is silent until `connect` is called. -/
def Quiet (closed : Bool) : List (Op × Turn) → Prop
  | [] => True
  | (.next, turn) :: rest => (closed → turn.Silent) ∧ Quiet (closed || turn.closes) rest
  | (.connect, _) :: rest => Quiet false rest

/-- The first `Close` packet has another packet behind it, and is reached. -/
def BehindClose : List (Except Error Packet) → Prop
  | .ok packet :: items =>
      if packet.packetId = .close then ∃ behind rest, items = .ok behind :: rest
      else packet.unexpected = false ∧ BehindClose items
  | _ => False

def Effect.packet? : Effect → Option Packet
  | .onPacket packet => some packet
  | _ => none

/-- The packets that a run has processed. -/
def processed (log : List (Op × Turn)) : List Packet :=
  log.flatMap fun call => call.2.effects.filterMap Effect.packet?

/-- The packets of a payload; a buffer that is rejected has none. -/
def packetsOf (b64 : Base64Engine) : Except Error Bytes → List Packet
  | .error _ => []
  | .ok data =>
      match Payload.tryFrom b64 data with
      | .error _ => []
      | .ok packets => packets

/-- The packets of a payload through its first `Close`. -/
def throughClose : List Packet → List Packet
  | [] => []
  | packet :: packets =>
      packet :: if packet.packetId = .close then [] else throughClose packets

/-- What stands behind a `Close` packet in its payload is never processed. -/
def Discards (b64 : Base64Engine) (incoming : List (Except Error Bytes))
    (log : List (Op × Turn)) : Prop :=
  processed log <+: incoming.flatMap fun item => throughClose (packetsOf b64 item)

/-- Only the last packet of a payload may be a `Close`. -/
def CloseLast (packets : List Packet) : Prop :=
  ∀ packet ∈ packets.dropLast, packet.packetId ≠ .close

section Quiet

variable {b64 : Base64Engine}

theorem silent_of_no_effects {report : Report} (h : ∀ packet, report ≠ .packet packet) :
    Turn.Silent ⟨report, []⟩ :=
  ⟨h, fun _ => List.not_mem_nil, fun _ => List.not_mem_nil⟩

/-- Every packet that is handled is shown to the packet callback first. -/
theorem Connection.onPacket_mem_handle (unexpected : Report) (c : Connection) (packet : Packet) :
    .onPacket packet ∈ (Connection.handle unexpected c packet).1.effects := by
  obtain ⟨packetId, data⟩ := packet
  cases packetId
  case ping =>
    rcases hemit : c.emit ⟨.pong, []⟩ with ⟨e | ⟨⟩, effects, c'⟩ <;> simp [Connection.handle, hemit]
  all_goals exact List.mem_cons_self

theorem Connection.onClose_notMem_emit (c : Connection) (packet : Packet) :
    .onClose ∉ (c.emit packet).2.1 := by
  unfold Connection.emit
  repeat' split
  all_goals simp

/-- Only a `Close` packet closes, and it clears the connected flag. -/
theorem Connection.handle_closes {unexpected : Report} {c : Connection} {packet : Packet}
    (h : (Connection.handle unexpected c packet).1.closes = true) :
    packet.packetId = .close ∧ (Connection.handle unexpected c packet).2.connected = false := by
  obtain ⟨packetId, data⟩ := packet
  cases packetId
  case close => exact ⟨rfl, rfl⟩
  case ping =>
    have hnot := c.onClose_notMem_emit ⟨.pong, []⟩
    rcases hemit : c.emit ⟨.pong, []⟩ with ⟨e | ⟨⟩, effects, c'⟩ <;>
      simp_all [Connection.handle, Turn.closes]
  all_goals simp [Connection.handle, Turn.closes] at h

/-- **The blocking client is quiet behind a close**, whatever arrives and whatever its emits do: a
socket that is not connected hands nothing over. -/
theorem Client.quiet (c : Client) (closed : Bool) (h : closed = true → c.socket.connected = false)
    (ops : List Op) : Quiet closed (calls (Client.poll b64) Client.connect c ops) := by
  induction ops generalizing c closed with
  | nil => trivial
  | cons op ops ih =>
      cases op with
      | connect => exact ih _ false (by simp)
      | next =>
          by_cases hc : c.socket.connected = true
          · have hopen : closed = false := by
              by_contra hclosed
              simp [h (by simpa using hclosed)] at hc
            subst hopen
            refine ⟨by simp, ih _ _ ?_⟩
            rw [Bool.false_or]
            intro hcloses
            rw [Client.poll] at hcloses ⊢
            split at hcloses
            · rename_i packet socket hpoll
              exact (Connection.handle_closes hcloses).2
            all_goals simp [Turn.closes] at hcloses
          · have hpoll : Client.poll b64 c = (⟨.none, []⟩, c) := by
              simp [Client.poll, Socket.poll, hc]
            rw [calls, Quiet, hpoll]
            refine ⟨fun _ => silent_of_no_effects (by simp), ih c _ ?_⟩
            intro _
            simpa using hc

theorem Connection.emit_connected (c : Connection) (packet : Packet) :
    (c.emit packet).2.2.connected = c.connected := by
  unfold Connection.emit
  repeat' split
  all_goals simp_all

/-- What the blocking client holds behind a close is kept: `connect` releases it. -/
theorem Client.poll_connect {c : Client} {packet : Packet} {iter : List Packet}
    (h : c.socket.remainingPackets = some (packet :: iter)) :
    ∃ connection : Connection, (c.connect.2.poll b64).1 = (connection.handlePacket packet).1 := by
  have hc : c.connect.2.socket.connected = true := by
    have hemit := Connection.emit_connected { c.connection with connected := true } ⟨.pong, []⟩
    rcases hresult : Connection.emit { c.connection with connected := true } ⟨.pong, []⟩ with
      ⟨e | ⟨⟩, effects, connection⟩ <;>
      simp_all [Client.connect, Connection.connect, Client.withConnection]
  have hr : c.connect.2.socket.remainingPackets = some (packet :: iter) := h
  refine ⟨⟨true, c.connect.2.failures⟩, ?_⟩
  simp [Client.poll, Socket.poll, hc, hr, Client.connection]

/-- No packet is next in the generator. -/
def Spent (generator : Option (List (Except Error Packet))) : Prop :=
  ∀ packet items, generator ≠ some (.ok packet :: items)

theorem not_behindClose_of_spent {items : List (Except Error Packet)} (h : Spent (some items)) :
    ¬ BehindClose items := by
  rcases items with _ | ⟨e | packet, items⟩
  · exact id
  · exact id
  · exact absurd rfl (h packet items)

/-- A read of a generator without a packet is silent, and leaves it so. -/
theorem Async.Client.next_spent {c : Async.Client} (h : Spent c.generator) :
    c.next.1.Silent ∧ c.next.1.closes = false ∧ Spent c.next.2.generator := by
  obtain ⟨connection, generator⟩ := c
  rcases generator with _ | _ | ⟨e | packet, items⟩
  · exact ⟨silent_of_no_effects (by simp), rfl, h⟩
  · exact ⟨silent_of_no_effects (by simp), rfl, h⟩
  · exact ⟨silent_of_no_effects (by simp), rfl, by simp [Spent, Async.Client.next]⟩
  · exact absurd rfl (h packet items)

/-- A read of a packet, where the close ahead has nothing behind it: if it was the close, no packet
is next. -/
theorem Async.Client.next_packet {connection : Connection} {packet : Packet}
    {items : List (Except Error Packet)} (h : ¬ BehindClose (.ok packet :: items)) :
    let c : Async.Client := ⟨connection, some (.ok packet :: items)⟩
    (c.next.1.closes = true → Spent c.next.2.generator) ∧
      ∀ rest, c.next.2.generator = some rest → ¬ BehindClose rest := by
  have hgenerator : ∀ rest,
      (Async.Client.next ⟨connection, some (.ok packet :: items)⟩).2.generator = some rest →
        rest = items ∧
          (Connection.handle (.error .invalidPacket) connection packet).1.failed = false := by
    intro rest hrest
    by_cases hfailed : (Connection.handle (.error .invalidPacket) connection packet).1.failed = true
    · simp [Async.Client.next, Connection.handleIncomingPacket, hfailed] at hrest
    · have hitems : some items = some rest := by
        simpa [Async.Client.next, Connection.handleIncomingPacket, hfailed] using hrest
      exact ⟨(Option.some.inj hitems).symm, by simpa using hfailed⟩
  by_cases hclose : packet.packetId = .close
  · have hspent : Spent (some items) := by
      rintro behind rest hitems
      exact h (by simp [BehindClose, hclose, Option.some.inj hitems])
    refine ⟨fun _ => ?_, fun rest hrest => ?_⟩
    · intro behind rest hnext
      exact hspent behind rest (by rw [(hgenerator _ hnext).1])
    · rw [(hgenerator rest hrest).1]
      exact not_behindClose_of_spent hspent
  · refine ⟨fun hcloses => absurd (Connection.handle_closes hcloses).1 hclose, ?_⟩
    intro rest hrest
    obtain ⟨rfl, hfailed⟩ := hgenerator rest hrest
    -- an unexpected packet would have ended the generator
    have hexpected : packet.unexpected = false := by
      by_contra hne
      have hreport := Connection.handle_unexpected (by simpa using hne) (.error .invalidPacket)
        connection
      rw [Turn.failed, hreport] at hfailed
      simp at hfailed
    intro hbehind
    exact h (by simp [BehindClose, hclose, hexpected, hbehind])

/-- The asynchronous client is quiet if nothing stands behind the first close. -/
theorem Async.Client.quiet (c : Async.Client) (closed : Bool)
    (hspent : closed = true → Spent c.generator)
    (hahead : ∀ items, c.generator = some items → ¬ BehindClose items) (ops : List Op) :
    Quiet closed (calls Async.Client.next Async.Client.connect c ops) := by
  induction ops generalizing c closed with
  | nil => trivial
  | cons op ops ih =>
      cases op with
      | connect => exact ih _ false (by simp) hahead
      | next =>
          by_cases hs : Spent c.generator
          · obtain ⟨hsilent, hcloses, hs'⟩ := Async.Client.next_spent hs
            refine ⟨fun _ => hsilent, ih _ _ (fun _ => hs') ?_⟩
            intro items hitems
            rw [hitems] at hs'
            exact not_behindClose_of_spent hs'
          · have hopen : closed = false := by
              by_contra hclosed
              exact hs (hspent (by simpa using hclosed))
            subst hopen
            obtain ⟨packet, items, hitems⟩ : ∃ packet items,
                c.generator = some (.ok packet :: items) := by
              simpa [Spent] using hs
            obtain ⟨connection, generator⟩ := c
            subst hitems
            obtain ⟨hcloses, hrest⟩ := Async.Client.next_packet (hahead _ rfl)
            exact ⟨by simp, ih _ _ (by simpa using hcloses) hrest⟩

/-- A packet behind the first close comes out, if every emit succeeds. -/
theorem Async.Client.not_quiet {items : List (Except Error Packet)} (h : BehindClose items) :
    ∃ ops, ¬ Quiet false
      (calls Async.Client.next Async.Client.connect ⟨⟨true, []⟩, some items⟩ ops) := by
  induction items with
  | nil => exact absurd h id
  | cons item items ih =>
      rcases item with e | packet
      · exact absurd h id
      · by_cases hclose : packet.packetId = .close
        · obtain ⟨behind, rest, rfl⟩ : ∃ behind rest, items = .ok behind :: rest := by
            simpa [BehindClose, hclose] using h
          obtain ⟨packetId, data⟩ := packet
          obtain rfl : packetId = .close := hclose
          refine ⟨[.next, .next], ?_⟩
          rintro ⟨-, hsilent, -⟩
          have hyielded := Connection.onPacket_mem_handle (.error .invalidPacket) ⟨false, []⟩ behind
          exact (hsilent rfl).onPacket behind hyielded
        · obtain ⟨hexpected, hrest⟩ : packet.unexpected = false ∧ BehindClose items := by
            simpa [BehindClose, hclose] using h
          obtain ⟨ops, hops⟩ := ih hrest
          have hgo :
              (Connection.handle (.error .invalidPacket) ⟨true, []⟩ packet).1.goesOn = true := by
            rw [Turn.goesOn_packet (Connection.handle_report hexpected _)]
            simpa using hclose
          have hcall : Async.Client.next ⟨⟨true, []⟩, some (.ok packet :: items)⟩ =
              ((Connection.handle (.error .invalidPacket) ⟨true, []⟩ packet).1,
                ⟨⟨true, []⟩, some items⟩) := by
            simp [Async.Client.next, Connection.handleIncomingPacket,
              Turn.not_failed_of_goesOn hgo, Connection.handle_goesOn hgo]
          have hopen :
              (Connection.handle (.error .invalidPacket) ⟨true, []⟩ packet).1.closes = false := by
            by_contra hcloses
            exact hclose (Connection.handle_closes (by simpa using hcloses)).1
          refine ⟨.next :: ops, fun hquiet => hops ?_⟩
          simpa [calls, Quiet, hcall, hopen] using hquiet

end Quiet

/-! ## What is discarded -/

section Discards

variable {b64 : Base64Engine}

/-- The packets among the items. -/
def packetsIn (items : List (Except Error Packet)) : List Packet := items.filterMap Except.toOption

theorem packetsIn_decodeAll (incoming : List (Except Error Bytes)) :
    packetsIn (decodeAll b64 incoming) = incoming.flatMap (packetsOf b64) := by
  induction incoming with
  | nil => rfl
  | cons item incoming ih =>
      have hitem : packetsIn (decodeItem b64 item) = packetsOf b64 item := by
        rcases item with e | data
        · rfl
        · by_cases hne : data = []
          · subst hne
            rfl
          · cases hp : Payload.tryFrom b64 data with
            | error e => simp [decodeItem, packetsOf, packetsIn, hne, hp, Except.toOption]
            | ok packets =>
                simp [decodeItem, packetsOf, packetsIn, hne, hp, List.filterMap_map,
                  Function.comp_def, Except.toOption]
      rw [decodeAll_cons, packetsIn, List.filterMap_append, List.flatMap_cons, ← ih, ← hitem]
      rfl

/-- What the stream decodes is the beginning of what there is. -/
theorem packetsIn_stream (incoming : List (Except Error Bytes)) :
    packetsIn (Socket.stream b64 incoming) <+: incoming.flatMap (packetsOf b64) := by
  induction incoming with
  | nil => exact List.prefix_rfl
  | cons item incoming ih =>
      rw [List.flatMap_cons]
      rcases item with e | data
      · exact List.nil_prefix
      · cases hp : Payload.tryFrom b64 data with
        | error e =>
            have hnone : packetsIn (Socket.stream b64 (.ok data :: incoming)) = [] := by
              simp [Socket.stream, hp, packetsIn, Except.toOption]
            rw [hnone]
            exact List.nil_prefix
        | ok packets =>
            have hsome : packetsIn (Socket.stream b64 (.ok data :: incoming)) =
                packets ++ packetsIn (Socket.stream b64 incoming) := by
              simp [Socket.stream, hp, packetsIn, List.filterMap_map, Function.comp_def,
                Except.toOption]
            have hpackets : packetsOf b64 (.ok data) = packets := by simp [packetsOf, hp]
            rw [hsome, hpackets]
            exact (List.prefix_append_right_inj packets).mpr ih

theorem Connection.processed_emit (c : Connection) (packet : Packet) :
    (c.emit packet).2.1.filterMap Effect.packet? = [] := by
  unfold Connection.emit
  repeat' split
  all_goals rfl

/-- Handling a packet processes it. -/
theorem Connection.processed_handle (unexpected : Report) (c : Connection) (packet : Packet) :
    (Connection.handle unexpected c packet).1.effects.filterMap Effect.packet? = [packet] := by
  obtain ⟨packetId, data⟩ := packet
  cases packetId
  case ping =>
    have hnone := c.processed_emit ⟨.pong, []⟩
    rcases hemit : c.emit ⟨.pong, []⟩ with ⟨e | ⟨⟩, effects, c'⟩ <;>
      simp_all [Connection.handle, Effect.packet?]
  all_goals rfl

theorem Connection.processed_connect (c : Connection) :
    c.connect.1.effects.filterMap Effect.packet? = [] := by
  have hnone := Connection.processed_emit { c with connected := true } ⟨.pong, []⟩
  rcases hemit : Connection.emit { c with connected := true } ⟨.pong, []⟩ with
    ⟨e | ⟨⟩, effects, c'⟩ <;> simp_all [Connection.connect, Effect.packet?]

theorem processed_cons (op : Op) (turn : Turn) (log : List (Op × Turn)) :
    processed ((op, turn) :: log) = turn.effects.filterMap Effect.packet? ++ processed log :=
  List.flatMap_cons

/-- What the blocking client processes is the beginning of what is left. -/
theorem Client.processed_prefix (c : Client) (ops : List Op) :
    processed (calls (Client.poll b64) Client.connect c ops) <+:
      packetsIn (c.socket.left b64) := by
  induction ops generalizing c with
  | nil => exact List.nil_prefix
  | cons op ops ih =>
      cases op with
      | connect =>
          have hnone : c.connect.1.effects.filterMap Effect.packet? = [] :=
            c.connection.processed_connect
          rw [calls, processed_cons, hnone, List.nil_append]
          exact ih c.connect.2
      | next =>
          rw [calls, processed_cons]
          by_cases hc : c.socket.connected = true
          · have hpoll := @Socket.poll_left b64 c.socket hc
            rcases hleft : c.socket.left b64 with _ | ⟨e | packet, items⟩
            · -- there is nothing to poll, and nothing comes to be
              rw [hleft] at hpoll
              obtain ⟨s', hs', -, hitems⟩ := hpoll
              have hcall : c.poll b64 = (⟨.pending, []⟩, { c with socket := s' }) := by
                simp [Client.poll, hs']
              have hnext := ih { c with socket := s' }
              rw [hitems] at hnext
              rw [hcall]
              exact hnext
            · rw [hleft] at hpoll
              obtain ⟨s', hs', -, hitems⟩ := hpoll
              have hcall : c.poll b64 = (⟨.error e, []⟩, { c with socket := s' }) := by
                simp [Client.poll, hs']
              have hnext := ih { c with socket := s' }
              rw [hitems] at hnext
              rw [hcall]
              exact hnext
            · rw [hleft] at hpoll
              obtain ⟨s', hs', -, hitems⟩ := hpoll
              have hcall : c.poll b64 =
                  ((Connection.handle .panicked ⟨s'.connected, c.failures⟩ packet).1,
                    Client.withConnection { c with socket := s' }
                      (Connection.handle .panicked ⟨s'.connected, c.failures⟩ packet).2) := by
                simp [Client.poll, hs', Client.connection, Connection.handlePacket]
              have hnext := ih (Client.withConnection { c with socket := s' }
                (Connection.handle .panicked ⟨s'.connected, c.failures⟩ packet).2)
              have hsame : (Client.withConnection { c with socket := s' }
                  (Connection.handle .panicked ⟨s'.connected, c.failures⟩ packet).2).socket.left
                    b64 = items := hitems
              rw [hsame] at hnext
              rw [hcall, Connection.processed_handle]
              exact (List.prefix_append_right_inj [packet]).mpr hnext
          · have hpoll : Client.poll b64 c = (⟨.none, []⟩, c) := by
              simp [Client.poll, Socket.poll, hc]
            rw [hpoll]
            exact ih c

/-- A caller that connects before each poll gets everything that is left. -/
theorem Client.processed_all (b64 : Base64Engine) (s : Socket) :
    ∃ ops, processed (calls (Client.poll b64) Client.connect ⟨s, []⟩ ops) =
      packetsIn (s.left b64) := by
  generalize hleft : s.left b64 = items
  induction items generalizing s with
  | nil => exact ⟨[], rfl⟩
  | cons item items ih =>
      -- the socket that has been connected again holds what it held
      have hconnect : Client.connect ⟨s, []⟩ =
          (⟨.none, [.onOpen, .emitted ⟨.pong, []⟩]⟩, ⟨{ s with connected := true }, []⟩) := rfl
      have hpoll := @Socket.poll_left b64 { s with connected := true } rfl
      rw [show ({ s with connected := true } : Socket).left b64 = item :: items from hleft] at hpoll
      rcases item with e | packet
      · obtain ⟨s', hs', -, hitems⟩ := hpoll
        obtain ⟨ops, hops⟩ := ih s' hitems
        refine ⟨.connect :: .next :: ops, ?_⟩
        have hcall : Client.poll b64 ⟨{ s with connected := true }, []⟩ =
            (⟨.error e, []⟩, ⟨s', []⟩) := by simp [Client.poll, hs']
        simp only [calls, hconnect, hcall, processed_cons, hops]
        rfl
      · obtain ⟨s', hs', hc', hitems⟩ := hpoll
        have hcall : Client.poll b64 ⟨{ s with connected := true }, []⟩ =
            ((Connection.handle .panicked ⟨true, []⟩ packet).1,
              Client.withConnection ⟨s', []⟩
                (Connection.handle .panicked ⟨true, []⟩ packet).2) := by
          simp [Client.poll, hs', Client.connection, hc', Connection.handlePacket]
        have hfailures : (Connection.handle .panicked ⟨true, []⟩ packet).2.failures = [] := by
          obtain ⟨packetId, data⟩ := packet
          cases packetId <;> rfl
        obtain ⟨ops, hops⟩ := ih
          (Client.withConnection ⟨s', []⟩ (Connection.handle .panicked ⟨true, []⟩ packet).2).socket
          hitems
        refine ⟨.connect :: .next :: ops, ?_⟩
        have hrest : Client.withConnection ⟨s', []⟩
            (Connection.handle .panicked ⟨true, []⟩ packet).2 =
              ⟨(Client.withConnection ⟨s', []⟩
                (Connection.handle .panicked ⟨true, []⟩ packet).2).socket, []⟩ :=
          congrArg (Client.mk _) hfailures
        rw [hrest] at hcall
        simp only [calls, hconnect, hcall, processed_cons, hops, Connection.processed_handle]
        rfl

/-- What the asynchronous client processes is the beginning of what its generator holds. -/
theorem Async.Client.processed_prefix (c : Async.Client) (ops : List Op) :
    processed (calls Async.Client.next Async.Client.connect c ops) <+:
      packetsIn (c.generator.getD []) := by
  induction ops generalizing c with
  | nil => exact List.nil_prefix
  | cons op ops ih =>
      cases op with
      | connect =>
          have hnone : c.connect.1.effects.filterMap Effect.packet? = [] :=
            c.connection.processed_connect
          rw [calls, processed_cons, hnone, List.nil_append]
          exact ih c.connect.2
      | next =>
          rw [calls, processed_cons]
          obtain ⟨connection, generator⟩ := c
          rcases generator with _ | _ | ⟨e | packet, items⟩
          · exact ih ⟨connection, none⟩
          · exact ih ⟨connection, some []⟩
          · have hnext := ih ⟨connection, none⟩
            exact hnext.trans List.nil_prefix
          · have hprocessed := Connection.processed_handle (.error .invalidPacket) connection packet
            have hnext := ih (Async.Client.next ⟨connection, some (.ok packet :: items)⟩).2
            have hrest : packetsIn ((Async.Client.next
                ⟨connection, some (.ok packet :: items)⟩).2.generator.getD []) <+:
                  packetsIn items := by
              simp only [Async.Client.next]
              split
              · exact List.nil_prefix
              · exact List.prefix_rfl
            show (Connection.handle (.error .invalidPacket) connection packet).1.effects.filterMap
              Effect.packet? ++ _ <+: packet :: packetsIn items
            rw [hprocessed]
            exact (List.prefix_append_right_inj [packet]).mpr (hnext.trans hrest)

theorem throughClose_prefix (packets : List Packet) : throughClose packets <+: packets := by
  induction packets with
  | nil => exact List.prefix_rfl
  | cons packet packets ih =>
      rw [throughClose]
      split
      · exact (List.prefix_append_right_inj [packet]).mpr List.nil_prefix
      · exact (List.prefix_append_right_inj [packet]).mpr ih

/-- Nothing stands behind a `Close` exactly if only the last packet may be one. -/
theorem throughClose_eq_self {packets : List Packet} :
    throughClose packets = packets ↔ CloseLast packets := by
  induction packets with
  | nil => exact iff_of_true rfl (by simp [CloseLast])
  | cons packet packets ih =>
      cases packets with
      | nil => exact iff_of_true (by simp [throughClose]) (by simp [CloseLast])
      | cons next packets =>
          have hlast : CloseLast (packet :: next :: packets) ↔
              packet.packetId ≠ .close ∧ CloseLast (next :: packets) := by
            simp [CloseLast]
          rw [hlast, ← ih, throughClose]
          by_cases hclose : packet.packetId = .close
          · simp [hclose]
          · simp [hclose]

/-- Parts that are no longer together than the wholes are the wholes. -/
theorem eq_of_prefix_flatMap {α β : Type} {f g : α → List β} {l : List α}
    (hle : (l.flatMap f).length ≤ (l.flatMap g).length) (hpart : ∀ x, g x <+: f x) :
    ∀ x ∈ l, g x = f x := by
  have hall : ∀ l : List α, (l.flatMap g).length ≤ (l.flatMap f).length := by
    intro l
    induction l with
    | nil => exact Nat.le_refl _
    | cons x l ih =>
        have hx := (hpart x).length_le
        simp only [List.flatMap_cons, List.length_append]
        omega
  induction l with
  | nil => simp
  | cons x l ih =>
      have hx := (hpart x).length_le
      have hl := hall l
      simp only [List.flatMap_cons, List.length_append] at hle
      refine List.forall_mem_cons.mpr ⟨?_, ih (by omega)⟩
      exact (hpart x).eq_of_length (by omega)

/-- **Behind a close.**  In every run of either client, whatever its emits do, nothing comes out
between a `Close` packet and the next `connect`, and what stands behind a `Close` in its payload
never does: this holds exactly when no decoded packet of the stream stands behind the first `Close`
packet, and none behind a `Close` in any payload that is accepted. -/
theorem quiet_iff (incoming : List (Except Error Bytes)) :
    (∀ (failures : List (Option Error)) (ops : List Op),
      let sync := calls (Client.poll b64) Client.connect (Client.reading incoming failures) ops
      let async := calls Async.Client.next Async.Client.connect
        (Async.Client.reading b64 incoming failures) ops
      (Quiet false sync ∧ Discards b64 incoming sync) ∧
        Quiet false async ∧ Discards b64 incoming async) ↔
      ¬ BehindClose (Socket.stream b64 incoming) ∧
        ∀ item ∈ incoming, CloseLast (packetsOf b64 item) := by
  have hreading : ∀ failures : List (Option Error),
      packetsIn ((Client.reading incoming failures).socket.left b64) =
        incoming.flatMap (packetsOf b64) := fun _ => packetsIn_decodeAll incoming
  constructor
  · intro hall
    constructor
    · intro hbehind
      obtain ⟨ops, hops⟩ := Async.Client.not_quiet hbehind
      exact hops (hall [] ops).2.1
    · intro item hitem
      obtain ⟨ops, hops⟩ := Client.processed_all b64 (Socket.reading incoming)
      have hdiscards := (hall [] ops).1.2
      rw [Discards, Client.reading, hops] at hdiscards
      have hlength := hdiscards.length_le
      rw [show (Socket.reading incoming).left b64 = decodeAll b64 incoming from rfl,
        packetsIn_decodeAll] at hlength
      exact throughClose_eq_self.mp
        (eq_of_prefix_flatMap hlength (fun item => throughClose_prefix (packetsOf b64 item)) item
          hitem)
  · rintro ⟨hahead, hlast⟩ failures ops
    -- nothing is to be discarded
    have hkept : (incoming.flatMap fun item => throughClose (packetsOf b64 item)) =
        incoming.flatMap (packetsOf b64) :=
      List.flatMap_congr fun item hitem => throughClose_eq_self.mpr (hlast item hitem)
    refine ⟨⟨Client.quiet _ false (by simp) ops, ?_⟩, ?_, ?_⟩
    · rw [Discards, hkept, ← hreading failures]
      exact Client.processed_prefix _ ops
    · refine Async.Client.quiet _ false (by simp) ?_ ops
      intro items hitems
      obtain rfl := Option.some.inj hitems
      exact hahead
    · rw [Discards, hkept]
      exact (Async.Client.processed_prefix _ ops).trans (packetsIn_stream incoming)

end Discards

/-- A message behind a close, in one payload: the asynchronous client yields it, and the blocking
one does when it has been connected again. -/
theorem not_quiet_message :
    (¬ ∀ (b64 : Base64Engine) (incoming : List (Except Error Bytes))
      (failures : List (Option Error)) (ops : List Op),
      Quiet false (calls Async.Client.next Async.Client.connect
        (Async.Client.reading b64 incoming failures) ops)) ∧
    ¬ ∀ (b64 : Base64Engine) (incoming : List (Except Error Bytes))
      (failures : List (Option Error)) (ops : List Op),
      Discards b64 incoming
        (calls (Client.poll b64) Client.connect (Client.reading incoming failures) ops) := by
  constructor
  · intro hall
    obtain ⟨-, hsilent, -⟩ := hall .standard [.ok [49, 0x1e, 52, 97]] [] [.next, .next]
    have hreport := (hsilent rfl).report ⟨.message, [97]⟩
    exact hreport rfl
  · intro hall
    have hdiscards := hall .standard [.ok [49, 0x1e, 52, 97]] [] [.next, .connect, .next]
    have hlength := List.IsPrefix.length_le hdiscards
    exact absurd hlength (by decide)

end TfSocketio.Engineio
