/-
# Socketio.AttachmentCount — a packet's attachments and its count of them.

A packet carries its attachments and, as a `u8`, their number.  The encoder subtracts one from the
number of a packet with attachments, and the attachment loop of both sockets counts the number of a
header down to zero; neither checks the subtraction.  Here both subtractions are checked: the
encoder has no result where its own underflows, and the loop has a state for it.

`Origin` is everything in the crate that a packet comes from, the network included.
`attachments_bookkept` is the invariant of all of them, and what the loop does turn by turn;
`received_bookkept` is about all packets of a connection.
-/
import TfSocketio.Lib.Lts
import TfSocketio.Socketio.Acks
import TfSocketio.Socketio.Assembly

namespace TfSocketio.Socketio

open Engineio (Bytes)
open Text (Str)

/-! ## The checked subtractions -/

/-- The subtraction of two `u8`s, if it does not underflow. -/
def subU8 (a b : UInt8) : Option UInt8 := if b ≤ a then some (a - b) else none

/-- `Packet.dataText` with its subtraction checked. -/
def Packet.checkedDataText (packet : Packet) : Option Str :=
  if packet.attachments.isSome then
    (subU8 packet.attachmentCount 1).map fun num =>
      match packet.data with
      | some eventType => '[' :: (eventType ++ ',' :: (placeholder num.toNat ++ [']']))
      | none => '[' :: (placeholder num.toNat ++ [']'])
  else some (packet.data.getD [])

/-- `From<&Packet> for Bytes`, where its subtraction does not underflow. -/
def Packet.checkedBytes (packet : Packet) : Option Bytes :=
  packet.checkedDataText.map fun dataText =>
    Text.utf8 (packet.packetType.toChar ::
      (packet.countText ++ (packet.nspText ++ (packet.idText ++ dataText))))

/-- The attachment loop of `Socket::handle_engineio_packet`: at its head, or left for good. -/
inductive Collecting where
  | looping (attachmentsLeft : UInt8) (attachments : List Bytes)
  | failed (error : Error)
  /-- The stream's client had no next item to unwrap. -/
  | panicked
  | underflowed
  deriving DecidableEq, Repr

namespace Collecting

/-- The body of the loop, with what `next` is. -/
def turn (flavour : Flavour) (attachmentsLeft : UInt8) (attachments : List Bytes) :
    Arrival → Collecting
  | .packet packet =>
      if isMessage packet then
        match subU8 attachmentsLeft 1 with
        | some attachmentsLeft => .looping attachmentsLeft (attachments ++ [packet.data])
        | none => .underflowed
      else .failed (.invalidAttachmentPacketType packet.packetId.toU8)
  | .error e => .failed (.incompleteResponseFromEngineIo e)
  | .ended =>
      match flavour with
      | .sync => .failed .incompletePacket
      | .async => .panicked

/-- One turn of the loop: `while attachments_left > 0`. -/
def step (flavour : Flavour) : Collecting → Arrival → Option Collecting
  | .looping attachmentsLeft attachments, next =>
      if 0 < attachmentsLeft then some (turn flavour attachmentsLeft attachments next) else none
  | _, _ => none

/-- What the loop is left with, or that it waits for the next arrival. -/
def outcome : Collecting → Async.Streamed (List Bytes)
  | .looping attachmentsLeft attachments =>
      if 0 < attachmentsLeft then .returned .pending else .returned (.ok attachments)
  | .failed e => .returned (.error e)
  | .panicked => .panicked
  | .underflowed => .panicked

end Collecting

/-- `Socket::handle_engineio_packet` of a client, with what arrives behind the packet. -/
def Flavour.handleEngineioPacket (json : SerdeJson) (flavour : Flavour) (packet : Engineio.Packet)
    (arrivals : List Arrival) : Async.Streamed Packet × List Arrival :=
  match Packet.tryFrom json packet.data with
  | .error e => (.returned (.error e), arrivals)
  | .ok socketPacket =>
      if 0 < socketPacket.attachmentCount then
        let (s, arrivals) :=
          Lts.consume (Collecting.step flavour) (.looping socketPacket.attachmentCount []) arrivals
        (s.outcome.map fun attachments => { socketPacket with attachments := some attachments },
          arrivals)
      else (.returned (.ok socketPacket), arrivals)

/-! ## Where packets come from -/

def Payload.isBinary {json : SerdeJson} : Payload json → Bool
  | .binary _ _ => true
  | _ => false

/-- The attachments of a packet with the payload. -/
def Payload.attached {json : SerdeJson} : Payload json → Option (List Bytes)
  | .binary binData _ => some [binData]
  | _ => none

/-- Whatever makes a packet. -/
inductive Origin (json : SerdeJson) where
  | newFromPayload (payload : Payload json) (event : Event) (nsp : Str) (id : Option Int)
  | ackFromPayload (payload : Payload json) (nsp : Str) (ackId : Option Int)
  /-- `Packet::new`, as `connect` calls it. -/
  | opening (nsp : Str) (auth : Option json.Value)
  /-- `Packet::new`, as `disconnect` calls it. -/
  | disconnect (nsp : Str)
  | tryFrom (payload : Bytes)
  | handleEngineioPacket (flavour : Flavour) (packet : Engineio.Packet) (arrivals : List Arrival)

namespace Origin

variable {json : SerdeJson}

def Produces : Origin json → Packet → Prop
  | .newFromPayload payload event nsp id, packet =>
      Packet.newFromPayload json payload event nsp id = .ok packet
  | .ackFromPayload payload nsp ackId, packet =>
      Packet.ackFromPayload json payload nsp ackId = .ok packet
  | .opening nsp auth, packet => Packet.opening json nsp auth = packet
  | .disconnect nsp, packet => Packet.disconnect nsp = packet
  | .tryFrom payload, packet => Packet.tryFrom json payload = .ok packet
  | .handleEngineioPacket flavour header arrivals, packet =>
      (flavour.handleEngineioPacket json header arrivals).1 = .returned (.ok packet)

/-- A binary payload, or a header that announces attachments. -/
def Attaches : Origin json → Prop
  | .newFromPayload payload _ _ _ => payload.isBinary
  | .ackFromPayload payload _ _ => payload.isBinary
  | .handleEngineioPacket _ header _ =>
      ∃ socketPacket, Packet.tryFrom json header.data = .ok socketPacket ∧
        0 < socketPacket.attachmentCount
  | _ => False

end Origin

/-- What holds of a packet, wherever it comes from. -/
structure Bookkept {json : SerdeJson} (origin : Origin json) (packet : Packet) : Prop where
  attached : packet.attachments.isSome ↔ origin.Attaches
  counted : ∀ attachments, packet.attachments = some attachments →
    attachments.length = packet.attachmentCount.toNat ∧ 1 ≤ attachments.length
  encodes : packet.checkedBytes = some packet.toBytes

/-- What holds of the loop after it has read the arrivals. -/
structure CountedDown (count : UInt8) (arrivals : List Arrival) (s : Collecting) : Prop where
  checked : s ≠ .underflowed
  collected : ∀ attachmentsLeft attachments, s = .looping attachmentsLeft attachments →
    Collected arrivals.length arrivals attachments
  counted : ∀ attachmentsLeft attachments, s = .looping attachmentsLeft attachments →
    attachmentsLeft.toNat + arrivals.length = count.toNat

/-! ## The loop, turn by turn -/

theorem one_le_of_pos {a : UInt8} (h : 0 < a) : 1 ≤ a := by
  rw [UInt8.lt_iff_toNat_lt] at h
  rw [UInt8.le_iff_toNat_le]
  exact h

theorem subU8_one {a : UInt8} (h : 0 < a) : subU8 a 1 = some (a - 1) := by
  rw [subU8, if_pos (one_le_of_pos h)]

theorem toNat_sub_one {a : UInt8} (h : 0 < a) : (a - 1).toNat + 1 = a.toNat := by
  rw [UInt8.toNat_sub_of_le _ _ (one_le_of_pos h)]
  rw [UInt8.lt_iff_toNat_lt] at h
  show a.toNat - 1 + 1 = a.toNat
  exact Nat.sub_add_cancel h

section Collecting

variable {flavour : Flavour} {attachmentsLeft : UInt8} {attachments : List Bytes}

theorem Collecting.turn_message (hleft : 0 < attachmentsLeft) {packet : Engineio.Packet}
    (hm : isMessage packet = true) :
    Collecting.turn flavour attachmentsLeft attachments (.packet packet) =
      .looping (attachmentsLeft - 1) (attachments ++ [packet.data]) := by
  rw [Collecting.turn, if_pos hm, subU8_one hleft]

theorem Collecting.step_looping (hleft : 0 < attachmentsLeft) (next : Arrival) :
    Collecting.step flavour (.looping attachmentsLeft attachments) next =
      some (Collecting.turn flavour attachmentsLeft attachments next) := by
  rw [Collecting.step, if_pos hleft]

/-- **What a turn does**: it reads a message and counts it, or it leaves the loop. -/
theorem Collecting.step_cases {s s' : Collecting} {next : Arrival}
    (h : Collecting.step flavour s next = some s') :
    ∃ attachmentsLeft attachments,
      s = .looping attachmentsLeft attachments ∧ 0 < attachmentsLeft ∧
        ((∃ packet, next = .packet packet ∧ isMessage packet = true ∧
            s' = .looping (attachmentsLeft - 1) (attachments ++ [packet.data])) ∨
          (∃ e, s' = .failed e) ∨ s' = .panicked) := by
  cases s with
  | looping attachmentsLeft attachments =>
      by_cases hleft : 0 < attachmentsLeft
      · refine ⟨attachmentsLeft, attachments, rfl, hleft, ?_⟩
        rw [Collecting.step_looping hleft] at h
        obtain rfl := Option.some.inj h
        rcases next with packet | e | _
        · by_cases hm : isMessage packet = true
          · exact .inl ⟨packet, rfl, hm, Collecting.turn_message hleft hm⟩
          · refine .inr (.inl ⟨.invalidAttachmentPacketType packet.packetId.toU8, ?_⟩)
            rw [Collecting.turn, if_neg hm]
        · exact .inr (.inl ⟨_, rfl⟩)
        · cases flavour with
          | sync => exact .inr (.inl ⟨_, rfl⟩)
          | async => exact .inr (.inr rfl)
      · rw [Collecting.step, if_neg hleft] at h
        cases h
  | failed e => cases h
  | panicked => cases h
  | underflowed => cases h

end Collecting

/-- A message behind those that are collected. -/
theorem Collected.concat {arrivals : List Arrival} {attachments : List Bytes}
    (h : Collected arrivals.length arrivals attachments) {packet : Engineio.Packet}
    (hm : isMessage packet = true) :
    Collected (arrivals ++ [Arrival.packet packet]).length (arrivals ++ [Arrival.packet packet])
      (attachments ++ [packet.data]) := by
  obtain ⟨⟨packets, rest, hsplit, hpackets, rfl⟩, hcount⟩ := h
  -- as many messages as arrivals leave nothing behind them
  obtain rfl : rest = [] := by
    rw [← List.length_eq_zero_iff]
    have hlength := congrArg List.length hsplit
    rw [List.length_append, List.length_map] at hlength
    rw [List.length_map] at hcount
    omega
  refine ⟨⟨packets ++ [packet], [], ?_, ?_, ?_⟩, ?_⟩
  · rw [hsplit]
    simp
  · intro other hother
    rcases List.mem_append.mp hother with hother | hother
    · exact hpackets other hother
    · obtain rfl := List.mem_singleton.mp hother
      exact hm
  · rw [List.map_append]
    rfl
  · rw [List.length_append, List.length_append, hcount]
    rfl

section CountedDown

variable {flavour : Flavour} {count : UInt8} {arrivals : List Arrival} {s s' : Collecting}

theorem countedDown_init (count : UInt8) : CountedDown count [] (.looping count []) where
  checked := by simp
  collected attachmentsLeft attachments hs := by
    obtain ⟨rfl, rfl⟩ := Collecting.looping.inj hs
    exact ⟨⟨[], [], rfl, by simp, rfl⟩, rfl⟩
  counted attachmentsLeft attachments hs := by
    obtain ⟨rfl, rfl⟩ := Collecting.looping.inj hs
    rfl

/-- One more turn. -/
theorem CountedDown.step (hs : CountedDown count arrivals s) {next : Arrival}
    (h : Collecting.step flavour s next = some s') :
    CountedDown count (arrivals ++ [next]) s' := by
  obtain ⟨attachmentsLeft, attachments, rfl, hleft, hturn⟩ := Collecting.step_cases h
  have hcollected := hs.collected attachmentsLeft attachments rfl
  have hcounted := hs.counted attachmentsLeft attachments rfl
  rcases hturn with ⟨packet, rfl, hm, rfl⟩ | ⟨e, rfl⟩ | rfl
  · refine ⟨by simp, ?_, ?_⟩
    · intro attachmentsLeft' attachments' heq
      obtain ⟨-, rfl⟩ := Collecting.looping.inj heq
      exact hcollected.concat hm
    · intro attachmentsLeft' attachments' heq
      obtain ⟨rfl, -⟩ := Collecting.looping.inj heq
      have hsub := toNat_sub_one hleft
      rw [List.length_append, List.length_singleton]
      omega
  · exact ⟨by simp, by simp, by simp⟩
  · exact ⟨by simp, by simp, by simp⟩

/-- **Every run of the loop counts down.** -/
theorem countedDown_of_run
    (h : Lts.run (Collecting.step flavour) (.looping count []) arrivals = some s) :
    CountedDown count arrivals s :=
  Lts.invariant_labels (P := CountedDown count) (fun _ _ _ _ hs h => hs.step h)
    (countedDown_init count) h

/-- As long as there are messages and the count is not spent, each turn reads one. -/
theorem run_messages (flavour : Flavour) (attachmentsLeft : UInt8) (attachments : List Bytes)
    {packets : List Engineio.Packet} (hm : ∀ packet ∈ packets, isMessage packet = true)
    (hle : packets.length ≤ attachmentsLeft.toNat) :
    ∃ left : UInt8, left.toNat + packets.length = attachmentsLeft.toNat ∧
      Lts.run (Collecting.step flavour) (.looping attachmentsLeft attachments)
          (packets.map Arrival.packet) =
        some (.looping left (attachments ++ packets.map Engineio.Packet.data)) := by
  induction packets generalizing attachmentsLeft attachments with
  | nil =>
      refine ⟨attachmentsLeft, rfl, ?_⟩
      rw [List.map_nil, List.map_nil, List.append_nil]
      rfl
  | cons packet packets ih =>
      obtain ⟨hpacket, hpackets⟩ := List.forall_mem_cons.mp hm
      rw [List.length_cons] at hle
      have hleft : 0 < attachmentsLeft := by
        rw [UInt8.lt_iff_toNat_lt]
        show 0 < attachmentsLeft.toNat
        omega
      have hsub := toNat_sub_one hleft
      obtain ⟨left, hlength, hrun⟩ :=
        ih (attachmentsLeft - 1) (attachments ++ [packet.data]) hpackets (by omega)
      refine ⟨left, ?_, ?_⟩
      · rw [List.length_cons]
        omega
      · rw [List.map_cons, Lts.run_cons, Collecting.step_looping hleft,
          Collecting.turn_message hleft hpacket, Option.bind_some, hrun, List.map_cons,
          List.append_assoc]
        rfl

/-- **The countdown is over after exactly `count` payloads.** -/
theorem run_messages_iff (flavour : Flavour) (count : UInt8) {packets : List Engineio.Packet}
    (hm : ∀ packet ∈ packets, isMessage packet = true) :
    Lts.run (Collecting.step flavour) (.looping count []) (packets.map Arrival.packet) =
        some (.looping 0 (packets.map Engineio.Packet.data)) ↔
      packets.length = count.toNat := by
  constructor
  · intro hrun
    have hcounted := (countedDown_of_run hrun).counted 0 _ rfl
    rw [List.length_map] at hcounted
    show packets.length = count.toNat
    rw [← hcounted]
    exact (Nat.zero_add _).symm
  · intro hlength
    obtain ⟨left, hleft, hrun⟩ := run_messages flavour count [] hm (Nat.le_of_eq hlength)
    obtain rfl : left = 0 := by
      apply UInt8.toNat_inj.mp
      show left.toNat = 0
      omega
    exact hrun

end CountedDown

/-! ## The loops of `collectAttachments` -/

section Refines

variable {flavour : Flavour} {attachmentsLeft : UInt8} {attachments : List Bytes}

/-- At zero the loop is left, with what it has read. -/
theorem Collecting.consume_zero (hleft : ¬ 0 < attachmentsLeft) (arrivals : List Arrival) :
    Lts.consume (Collecting.step flavour) (.looping attachmentsLeft attachments) arrivals =
      (.looping attachmentsLeft attachments, arrivals) := by
  apply Lts.consume_of_stuck
  intro next
  rw [Collecting.step, if_neg hleft]

theorem Collecting.consume_message (hleft : 0 < attachmentsLeft) {packet : Engineio.Packet}
    (hm : isMessage packet = true) (arrivals : List Arrival) :
    Lts.consume (Collecting.step flavour) (.looping attachmentsLeft attachments)
        (.packet packet :: arrivals) =
      Lts.consume (Collecting.step flavour)
        (.looping (attachmentsLeft - 1) (attachments ++ [packet.data])) arrivals := by
  apply Lts.consume_of_step
  rw [Collecting.step_looping hleft, Collecting.turn_message hleft hm]

/-- A turn that leaves the loop is the last one. -/
theorem Collecting.consume_left (hleft : 0 < attachmentsLeft) {next : Arrival} {s : Collecting}
    (hturn : Collecting.turn flavour attachmentsLeft attachments next = s)
    (hs : ∀ next, Collecting.step flavour s next = none) (arrivals : List Arrival) :
    Lts.consume (Collecting.step flavour) (.looping attachmentsLeft attachments)
        (next :: arrivals) = (s, arrivals) := by
  rw [Lts.consume_of_step (Collecting.step_looping hleft next), hturn]
  exact Lts.consume_of_stuck hs arrivals

theorem Polled.map_map {α β γ : Type} (f : α → β) (g : β → γ) (outcome : Polled α) :
    (outcome.map f).map g = outcome.map fun value => g (f value) := by
  cases outcome <;> rfl

theorem Async.Streamed.map_map {α β γ : Type} (f : α → β) (g : β → γ)
    (outcome : Async.Streamed α) :
    (outcome.map f).map g = outcome.map fun value => g (f value) := by
  cases outcome with
  | returned outcome => exact congrArg _ (Polled.map_map f g outcome)
  | panicked => rfl

/-- What the attachment loop of a client, over the number of attachments, makes of the arrivals. -/
def Flavour.Collects (flavour : Flavour) (n : Nat) (arrivals : List Arrival)
    (outcome : Async.Streamed (List Bytes)) (rest : List Arrival) : Prop :=
  match flavour with
  | .sync => ∃ polled, outcome = .returned polled ∧
      collectAttachments n (arrivals.map Arrival.polled) = (polled, rest.map Arrival.polled)
  | .async =>
      Async.collectAttachments n (arrivals.map Arrival.streamed) =
        (outcome, rest.map Arrival.streamed)

theorem Flavour.collects_zero (flavour : Flavour) (arrivals : List Arrival) :
    flavour.Collects 0 arrivals (.returned (.ok [])) arrivals := by
  cases flavour with
  | sync => exact ⟨.ok [], rfl, rfl⟩
  | async => rfl

theorem Flavour.collects_nil (flavour : Flavour) (n : Nat) :
    flavour.Collects (n + 1) [] (.returned .pending) [] := by
  cases flavour with
  | sync => exact ⟨.pending, rfl, rfl⟩
  | async => rfl

theorem Flavour.Collects.message {n : Nat} {arrivals rest : List Arrival}
    {outcome : Async.Streamed (List Bytes)} (h : flavour.Collects n arrivals outcome rest)
    {packet : Engineio.Packet} (hm : isMessage packet = true) :
    flavour.Collects (n + 1) (.packet packet :: arrivals)
      (outcome.map (packet.data :: ·)) rest := by
  cases flavour with
  | sync =>
      obtain ⟨polled, rfl, hcollect⟩ := h
      refine ⟨polled.map (packet.data :: ·), rfl, ?_⟩
      simp [collectAttachments, Arrival.polled, hm, hcollect]
  | async =>
      have hcollect : Async.collectAttachments n (arrivals.map Arrival.streamed) =
          (outcome, rest.map Arrival.streamed) := h
      simp [Flavour.Collects, Async.collectAttachments, Arrival.streamed, hm, hcollect]

/-- What ends the loop on any other arrival. -/
theorem Flavour.collects_left (flavour : Flavour) (attachmentsLeft : UInt8)
    (attachments : List Bytes) (n : Nat) {next : Arrival}
    (hnext : ∀ packet, next = .packet packet → ¬ isMessage packet = true)
    (arrivals : List Arrival) :
    ∃ (s : Collecting) (outcome : Async.Streamed (List Bytes)),
      Collecting.turn flavour attachmentsLeft attachments next = s ∧
      (∀ next', Collecting.step flavour s next' = none) ∧
      s.outcome = outcome.map (attachments ++ ·) ∧
      flavour.Collects (n + 1) (next :: arrivals) outcome arrivals := by
  rcases next with packet | e | _
  · have hm : ¬ isMessage packet = true := hnext packet rfl
    refine ⟨.failed (.invalidAttachmentPacketType packet.packetId.toU8), .returned (.error _), ?_,
      fun _ => rfl, rfl, ?_⟩
    · rw [Collecting.turn, if_neg hm]
    · cases flavour with
      | sync =>
          refine ⟨_, rfl, ?_⟩
          simp [collectAttachments, Arrival.polled, hm]
      | async => simp [Flavour.Collects, Async.collectAttachments, Arrival.streamed, hm]
  · refine ⟨.failed (.incompleteResponseFromEngineIo e), .returned (.error _), rfl, fun _ => rfl,
      rfl, ?_⟩
    cases flavour with
    | sync => exact ⟨_, rfl, rfl⟩
    | async => rfl
  · cases flavour with
    | sync =>
        exact ⟨.failed .incompletePacket, .returned (.error _), rfl, fun _ => rfl, rfl, _, rfl, rfl⟩
    | async => exact ⟨.panicked, .panicked, rfl, fun _ => rfl, rfl, rfl⟩

/-- **The countdown of a `u8` is the recursion over a number**, for both loops. -/
theorem consume_collects (flavour : Flavour) (attachmentsLeft : UInt8) (attachments : List Bytes)
    (arrivals : List Arrival) :
    ∃ (s : Collecting) (rest : List Arrival) (outcome : Async.Streamed (List Bytes)),
      Lts.consume (Collecting.step flavour) (.looping attachmentsLeft attachments) arrivals =
        (s, rest) ∧
      s.outcome = outcome.map (attachments ++ ·) ∧
      flavour.Collects attachmentsLeft.toNat arrivals outcome rest := by
  generalize hn : attachmentsLeft.toNat = n
  induction n generalizing attachmentsLeft attachments arrivals with
  | zero =>
      have hleft : ¬ 0 < attachmentsLeft := by
        rw [UInt8.lt_iff_toNat_lt, hn]
        exact Nat.lt_irrefl 0
      refine ⟨.looping attachmentsLeft attachments, arrivals, .returned (.ok []),
        Collecting.consume_zero hleft arrivals, ?_, flavour.collects_zero arrivals⟩
      rw [Collecting.outcome, if_neg hleft]
      show _ = Async.Streamed.returned (.ok (attachments ++ []))
      rw [List.append_nil]
  | succ n ih =>
      have hleft : 0 < attachmentsLeft := by
        rw [UInt8.lt_iff_toNat_lt, hn]
        exact Nat.succ_pos n
      have hsub : (attachmentsLeft - 1).toNat = n := by
        have h := toNat_sub_one hleft
        omega
      cases arrivals with
      | nil =>
          refine ⟨.looping attachmentsLeft attachments, [], .returned .pending, rfl, ?_,
            flavour.collects_nil n⟩
          rw [Collecting.outcome, if_pos hleft]
          rfl
      | cons next arrivals =>
          by_cases hnext : ∃ packet, next = .packet packet ∧ isMessage packet = true
          · obtain ⟨packet, rfl, hm⟩ := hnext
            obtain ⟨s, rest, outcome, hconsume, houtcome, hcollects⟩ :=
              ih (attachmentsLeft - 1) (attachments ++ [packet.data]) arrivals hsub
            refine ⟨s, rest, outcome.map (packet.data :: ·), ?_, ?_, hcollects.message hm⟩
            · rw [Collecting.consume_message hleft hm, hconsume]
            · rw [houtcome, Async.Streamed.map_map]
              simp only [List.append_assoc, List.singleton_append]
          · have hother : ∀ packet, next = .packet packet → ¬ isMessage packet = true :=
              fun packet hpacket hm => hnext ⟨packet, hpacket, hm⟩
            obtain ⟨s, outcome, hturn, hstuck, houtcome, hcollects⟩ :=
              flavour.collects_left attachmentsLeft attachments n hother arrivals
            exact ⟨s, arrivals, outcome, Collecting.consume_left hleft hturn hstuck arrivals,
              houtcome, hcollects⟩

/-- From the start of the loop. -/
theorem collects_of_start (flavour : Flavour) (count : UInt8) (arrivals : List Arrival) :
    ∃ (s : Collecting) (rest : List Arrival),
      Lts.consume (Collecting.step flavour) (.looping count []) arrivals = (s, rest) ∧
      flavour.Collects count.toNat arrivals s.outcome rest := by
  obtain ⟨s, rest, outcome, hconsume, houtcome, hcollects⟩ :=
    consume_collects flavour count [] arrivals
  have hsame : outcome.map ([] ++ ·) = outcome := by
    rcases outcome with (_ | _ | _ | _) | _ <;> rfl
  rw [hsame] at houtcome
  exact ⟨s, rest, hconsume, houtcome ▸ hcollects⟩

/-- The blocking socket's `handle_engineio_packet` counts down. -/
theorem Flavour.handleEngineioPacket_sync (json : SerdeJson) (packet : Engineio.Packet)
    (arrivals : List Arrival) :
    ∃ (outcome : Polled Packet) (rest : List Arrival),
      Flavour.sync.handleEngineioPacket json packet arrivals = (.returned outcome, rest) ∧
      Socketio.handleEngineioPacket json packet (arrivals.map Arrival.polled) =
        (outcome, rest.map Arrival.polled) := by
  cases hdecode : Packet.tryFrom json packet.data with
  | error e =>
      refine ⟨.error e, arrivals, ?_, ?_⟩
      · simp [Flavour.handleEngineioPacket, hdecode]
      · simp [Socketio.handleEngineioPacket, hdecode]
  | ok socketPacket =>
      by_cases hcount : 0 < socketPacket.attachmentCount
      · obtain ⟨s, rest, hconsume, polled, houtcome, hcollect⟩ :=
          collects_of_start .sync socketPacket.attachmentCount arrivals
        refine ⟨polled.map fun attachments =>
          { socketPacket with attachments := some attachments }, rest, ?_, ?_⟩
        · simp [Flavour.handleEngineioPacket, hdecode, hcount, hconsume, houtcome,
            Async.Streamed.map]
        · simp [Socketio.handleEngineioPacket, hdecode, hcount, hcollect]
      · refine ⟨.ok socketPacket, arrivals, ?_, ?_⟩
        · simp [Flavour.handleEngineioPacket, hdecode, hcount]
        · simp [Socketio.handleEngineioPacket, hdecode, hcount]

/-- The stream's `handle_engineio_packet` counts down. -/
theorem Flavour.handleEngineioPacket_async (json : SerdeJson) (packet : Engineio.Packet)
    (arrivals : List Arrival) :
    ∃ (outcome : Async.Streamed Packet) (rest : List Arrival),
      Flavour.async.handleEngineioPacket json packet arrivals = (outcome, rest) ∧
      Async.handleEngineioPacket json packet (arrivals.map Arrival.streamed) =
        (outcome, rest.map Arrival.streamed) := by
  cases hdecode : Packet.tryFrom json packet.data with
  | error e =>
      refine ⟨.returned (.error e), arrivals, ?_, ?_⟩
      · simp [Flavour.handleEngineioPacket, hdecode]
      · simp [Async.handleEngineioPacket, hdecode]
  | ok socketPacket =>
      by_cases hcount : 0 < socketPacket.attachmentCount
      · obtain ⟨s, rest, hconsume, hcollects⟩ :=
          collects_of_start .async socketPacket.attachmentCount arrivals
        have hcollect : Async.collectAttachments socketPacket.attachmentCount.toNat
            (arrivals.map Arrival.streamed) = (s.outcome, rest.map Arrival.streamed) := hcollects
        refine ⟨s.outcome.map fun attachments =>
          { socketPacket with attachments := some attachments }, rest, ?_, ?_⟩
        · simp [Flavour.handleEngineioPacket, hdecode, hcount, hconsume]
        · simp [Async.handleEngineioPacket, hdecode, hcount, hcollect]
      · refine ⟨.returned (.ok socketPacket), arrivals, ?_, ?_⟩
        · simp [Flavour.handleEngineioPacket, hdecode, hcount]
        · simp [Async.handleEngineioPacket, hdecode, hcount]

end Refines

/-! ## The packets of every origin -/

/-- Where attachments are counted, the encoder's subtraction does not underflow. -/
theorem Packet.checkedBytes_eq {packet : Packet}
    (h : packet.attachments.isSome = true → 0 < packet.attachmentCount) :
    packet.checkedBytes = some packet.toBytes := by
  have hdata : packet.checkedDataText = some packet.dataText := by
    by_cases hsome : packet.attachments.isSome = true
    · rw [Packet.checkedDataText, if_pos hsome, subU8_one (h hsome), Packet.dataText, if_pos hsome]
      rfl
    · rw [Packet.checkedDataText, if_neg hsome, Packet.dataText, if_neg hsome]
  rw [Packet.checkedBytes, hdata]
  rfl

section Origins

variable {json : SerdeJson} {origin : Origin json} {packet : Packet}

theorem bookkept_of_none (hnone : packet.attachments = none) (horigin : ¬ origin.Attaches) :
    Bookkept origin packet where
  attached := by
    rw [hnone]
    simpa using horigin
  counted attachments hsome := by
    rw [hnone] at hsome
    cases hsome
  encodes := by
    apply Packet.checkedBytes_eq
    rw [hnone]
    simp

theorem bookkept_of_some {attachments : List Bytes} (hsome : packet.attachments = some attachments)
    (hlength : attachments.length = packet.attachmentCount.toNat)
    (hcount : 0 < packet.attachmentCount) (horigin : origin.Attaches) :
    Bookkept origin packet where
  attached := by
    rw [hsome]
    simpa using horigin
  counted attachments' hsome' := by
    obtain rfl : attachments = attachments' := Option.some.inj (hsome ▸ hsome')
    rw [UInt8.lt_iff_toNat_lt] at hcount
    refine ⟨hlength, ?_⟩
    rw [hlength]
    exact hcount
  encodes := Packet.checkedBytes_eq fun _ => hcount

/-- A constructor that attaches what its payload has. -/
theorem bookkept_of_payload {payload : Payload json} (horigin : origin.Attaches ↔ payload.isBinary)
    (hattachments : packet.attachments = payload.attached)
    (hcount : packet.attachmentCount = if payload.isBinary then 1 else 0) :
    Bookkept origin packet := by
  cases payload with
  | binary binData ackId =>
      have hone : packet.attachmentCount = 1 := hcount
      apply bookkept_of_some hattachments
      · rw [hone]
        rfl
      · rw [hone]
        decide
      · exact horigin.mpr rfl
  | text data ackId =>
      apply bookkept_of_none hattachments
      rw [horigin]
      exact Bool.false_ne_true
  | string strData ackId =>
      apply bookkept_of_none hattachments
      rw [horigin]
      exact Bool.false_ne_true

theorem newFromPayload_attachments {payload : Payload json} {event : Event} {nsp : Str}
    {id : Option Int} (h : Packet.newFromPayload json payload event nsp id = .ok packet) :
    packet.attachments = payload.attached ∧
      packet.attachmentCount = if payload.isBinary then 1 else 0 := by
  cases payload with
  | binary binData ackId =>
      obtain rfl := Except.ok.inj h
      exact ⟨rfl, rfl⟩
  | text data ackId =>
      obtain rfl := Except.ok.inj h
      exact ⟨rfl, rfl⟩
  | string strData ackId =>
      obtain rfl := Except.ok.inj h
      exact ⟨rfl, rfl⟩

theorem ackFromPayload_attachments {payload : Payload json} {nsp : Str} {ackId : Option Int}
    (h : Packet.ackFromPayload json payload nsp ackId = .ok packet) :
    packet.attachments = payload.attached ∧
      packet.attachmentCount = if payload.isBinary then 1 else 0 := by
  cases payload with
  | binary binData _ =>
      obtain rfl := Except.ok.inj h
      exact ⟨rfl, rfl⟩
  | text data _ =>
      obtain rfl := Except.ok.inj h
      exact ⟨rfl, rfl⟩
  | string strData _ =>
      obtain rfl := Except.ok.inj h
      exact ⟨rfl, rfl⟩

/-- The last stage of the decoder writes the id and the data. -/
theorem decodeIdAndData_attachments {decoded : Packet} {payload : Str}
    (h : decodeIdAndData json decoded payload = .ok packet) :
    packet.attachments = decoded.attachments := by
  rw [decodeIdAndData] at h
  split at h
  split at h
  · obtain rfl := Except.ok.inj h
    rfl
  · split at h
    · cases h
    · split at h
      · obtain rfl := Except.ok.inj h
        rfl
      · cases h

/-- **The decoder attaches nothing**, whatever the text announces. -/
theorem tryFrom_attachments {payload : Bytes} (h : Packet.tryFrom json payload = .ok packet) :
    packet.attachments = none := by
  rw [Packet.tryFrom] at h
  split at h
  · cases h
  · rename_i text htext
    cases text with
    | nil => cases h
    | cons idChar text =>
        simp only [Packet.ofText, bind, Except.bind] at h
        split at h
        · cases h
        · split at h
          · cases h
          · split at h
            · cases h
            · exact decodeIdAndData_attachments h

theorem Async.Streamed.map_eq_ok {α β : Type} {f : α → β} {outcome : Async.Streamed α} {value : β}
    (h : outcome.map f = .returned (.ok value)) :
    ∃ a, outcome = .returned (.ok a) ∧ f a = value := by
  rcases outcome with (a | _ | _ | _) | _
  · exact ⟨a, rfl, by simpa [Async.Streamed.map] using h⟩
  all_goals simp [Async.Streamed.map, Polled.map] at h

theorem Collecting.outcome_eq_ok {s : Collecting} {attachments : List Bytes}
    (h : s.outcome = .returned (.ok attachments)) : s = .looping 0 attachments := by
  cases s with
  | looping attachmentsLeft read =>
      by_cases hleft : 0 < attachmentsLeft
      · rw [Collecting.outcome, if_pos hleft] at h
        cases h
      · rw [Collecting.outcome, if_neg hleft] at h
        obtain rfl : read = attachments := by simpa using h
        obtain rfl : attachmentsLeft = 0 := UInt8.toNat_inj.mp (toNat_eq_zero hleft)
        rfl
  | failed e => cases h
  | panicked => cases h
  | underflowed => cases h

/-- Where the loop is left without an error, it has read as many attachments as it counted. -/
theorem length_of_consume {flavour : Flavour} {count : UInt8} {arrivals : List Arrival}
    {attachments : List Bytes}
    (h : (Lts.consume (Collecting.step flavour) (.looping count []) arrivals).1.outcome =
      .returned (.ok attachments)) :
    attachments.length = count.toNat := by
  obtain ⟨taken, -, hrun⟩ := Lts.exists_run_consume (Collecting.step flavour) (.looping count [])
    arrivals
  rw [Collecting.outcome_eq_ok h] at hrun
  have hs := countedDown_of_run hrun
  rw [(hs.collected 0 attachments rfl).count, ← hs.counted 0 attachments rfl]
  exact (Nat.zero_add _).symm

/-- A header, with what the loop has collected behind it. -/
theorem bookkept_handleEngineioPacket {flavour : Flavour} {header : Engineio.Packet}
    {arrivals : List Arrival}
    (h : (flavour.handleEngineioPacket json header arrivals).1 = .returned (.ok packet)) :
    Bookkept (@Origin.handleEngineioPacket json flavour header arrivals) packet := by
  cases hdecode : Packet.tryFrom json header.data with
  | error e => simp [Flavour.handleEngineioPacket, hdecode] at h
  | ok socketPacket =>
      by_cases hcount : 0 < socketPacket.attachmentCount
      · have hmap : (Lts.consume (Collecting.step flavour)
            (.looping socketPacket.attachmentCount []) arrivals).1.outcome.map
              (fun attachments => { socketPacket with attachments := some attachments }) =
            .returned (.ok packet) := by
          simpa [Flavour.handleEngineioPacket, hdecode, hcount] using h
        obtain ⟨attachments, houtcome, rfl⟩ := Async.Streamed.map_eq_ok hmap
        exact bookkept_of_some rfl (length_of_consume houtcome) hcount
          ⟨socketPacket, hdecode, hcount⟩
      · obtain rfl : socketPacket = packet := by
          simpa [Flavour.handleEngineioPacket, hdecode, hcount] using h
        apply bookkept_of_none (tryFrom_attachments hdecode)
        rintro ⟨announced, hannounced, hpos⟩
        obtain rfl : socketPacket = announced := Except.ok.inj (hdecode.symm.trans hannounced)
        exact hcount hpos

/-- **Every origin keeps the book.** -/
theorem Origin.Produces.bookkept (h : origin.Produces packet) : Bookkept origin packet := by
  cases origin with
  | newFromPayload payload event nsp id =>
      obtain ⟨hattachments, hcount⟩ := newFromPayload_attachments h
      exact bookkept_of_payload Iff.rfl hattachments hcount
  | ackFromPayload payload nsp ackId =>
      obtain ⟨hattachments, hcount⟩ := ackFromPayload_attachments h
      exact bookkept_of_payload Iff.rfl hattachments hcount
  | opening nsp auth =>
      obtain rfl : Packet.opening json nsp auth = packet := h
      exact bookkept_of_none rfl id
  | disconnect nsp =>
      obtain rfl : Packet.disconnect nsp = packet := h
      exact bookkept_of_none rfl id
  | tryFrom payload => exact bookkept_of_none (tryFrom_attachments h) id
  | handleEngineioPacket flavour header arrivals => exact bookkept_handleEngineioPacket h

end Origins

/-! ## The packets the sockets return -/

section Received

variable {json : SerdeJson}

/-- A packet that a client put together from what arrived. -/
def FromArrivals (json : SerdeJson) (flavour : Flavour) (packet : Packet) : Prop :=
  ∃ header arrivals, (@Origin.handleEngineioPacket json flavour header arrivals).Produces packet

theorem pollIncoming_fromArrivals (arrivals : List Arrival) :
    ∃ (outcome : Polled Packet) (rest : List Arrival),
      pollIncoming json (arrivals.map Arrival.polled) = (outcome, rest.map Arrival.polled) ∧
      ∀ packet, outcome = .ok packet → FromArrivals json .sync packet := by
  induction arrivals with
  | nil => exact ⟨.pending, [], rfl, by simp⟩
  | cons next arrivals ih =>
      rcases next with packet | e | _
      · by_cases hm : isMessage packet = true
        · obtain ⟨outcome, rest, hcounted, hhandled⟩ :=
            Flavour.handleEngineioPacket_sync json packet arrivals
          refine ⟨outcome, rest, ?_, ?_⟩
          · simp [pollIncoming, Arrival.polled, hm, hhandled]
          · rintro socketPacket rfl
            exact ⟨packet, arrivals, congrArg Prod.fst hcounted⟩
        · obtain ⟨outcome, rest, hpoll, hproduced⟩ := ih
          refine ⟨outcome, rest, ?_, hproduced⟩
          simp [pollIncoming, Arrival.polled, hm, hpoll]
      · exact ⟨.error (.incompleteResponseFromEngineIo e), arrivals, rfl, by simp⟩
      · exact ⟨.none, arrivals, rfl, by simp⟩

theorem nextIncoming_fromArrivals (arrivals : List Arrival) :
    ∃ (outcome : Async.Streamed Packet) (rest : List Arrival),
      Async.nextIncoming json (arrivals.map Arrival.streamed) =
        (outcome, rest.map Arrival.streamed) ∧
      ∀ packet, outcome = .returned (.ok packet) → FromArrivals json .async packet := by
  induction arrivals with
  | nil => exact ⟨.returned .pending, [], rfl, by simp⟩
  | cons next arrivals ih =>
      rcases next with packet | e | _
      · by_cases hm : isMessage packet = true
        · obtain ⟨outcome, rest, hcounted, hhandled⟩ :=
            Flavour.handleEngineioPacket_async json packet arrivals
          refine ⟨outcome, rest, ?_, ?_⟩
          · simp [Async.nextIncoming, Arrival.streamed, hm, hhandled]
          · rintro socketPacket rfl
            exact ⟨packet, arrivals, congrArg Prod.fst hcounted⟩
        · obtain ⟨outcome, rest, hnext, hproduced⟩ := ih
          refine ⟨outcome, rest, ?_, hproduced⟩
          simp [Async.nextIncoming, Arrival.streamed, hm, hnext]
      · exact ⟨.returned (.error (.incompleteResponseFromEngineIo e)), arrivals, rfl, by simp⟩
      · exact ⟨.returned .none, arrivals, rfl, by simp⟩

/-- Over any number of polls, the blocking socket returns such packets only. -/
theorem received_fromArrivals (n : Nat) (s : Socket) (arrivals : List Arrival)
    (hs : s.engineClient.incoming = arrivals.map Arrival.polled) {packet : Packet}
    (h : .ok packet ∈ Socket.received json n s) : FromArrivals json .sync packet := by
  induction n generalizing s arrivals with
  | zero => cases h
  | succ n ih =>
      obtain ⟨outcome, rest, hpoll, hproduced⟩ := @pollIncoming_fromArrivals json arrivals
      cases outcome with
      | ok socketPacket =>
          simp only [Socket.received, Socket.poll, hs, hpoll] at h
          rcases List.mem_cons.mp h with heq | hmem
          · obtain rfl : packet = socketPacket := by simpa using heq
            exact hproduced packet rfl
          · exact ih _ rest rfl hmem
      | none => simp [Socket.received, Socket.poll, hs, hpoll] at h
      | error e => simp [Socket.received, Socket.poll, hs, hpoll] at h
      | pending => simp [Socket.received, Socket.poll, hs, hpoll] at h

/-- So does the stream. -/
theorem streamed_fromArrivals (n : Nat) (connected : Bool) (arrivals : List Arrival)
    {packet : Packet} (h : .returned (.ok packet) ∈
      Async.Socket.received json n ⟨arrivals.map Arrival.streamed, connected⟩) :
    FromArrivals json .async packet := by
  induction n generalizing arrivals connected with
  | zero => cases h
  | succ n ih =>
      obtain ⟨outcome, rest, hnext, hproduced⟩ := @nextIncoming_fromArrivals json arrivals
      rcases outcome with (socketPacket | _ | e | _) | _
      · simp only [Async.Socket.received, Async.Socket.next, hnext] at h
        rcases List.mem_cons.mp h with heq | hmem
        · obtain rfl : packet = socketPacket := by simpa using heq
          exact hproduced packet rfl
        · exact ih _ rest hmem
      all_goals simp [Async.Socket.received, Async.Socket.next, hnext] at h

/-- **A whole connection.**  Every packet that a socket returns has the attachments that its header
announced, if any, and can be encoded. -/
theorem received_bookkept (json : SerdeJson) (n : Nat) (arrivals : List Arrival) (packet : Packet) :
    (.ok packet ∈ Socket.received json n (Socket.opened (arrivals.map Arrival.polled)) →
      ∃ header behind,
        Bookkept (@Origin.handleEngineioPacket json .sync header behind) packet) ∧
    (.returned (.ok packet) ∈
        Async.Socket.received json n (Async.Socket.opened (arrivals.map Arrival.streamed)) →
      ∃ header behind,
        Bookkept (@Origin.handleEngineioPacket json .async header behind) packet) := by
  constructor
  · intro h
    obtain ⟨header, behind, hproduces⟩ := received_fromArrivals n _ arrivals rfl h
    exact ⟨header, behind, hproduces.bookkept⟩
  · intro h
    obtain ⟨header, behind, hproduces⟩ := streamed_fromArrivals n true arrivals h
    exact ⟨header, behind, hproduces.bookkept⟩

end Received

/-! ## The invariant -/

/-- **The attachments of every packet are as many as it counts.**  A packet has attachments exactly
if it was made from a binary payload or its header announced some, and then at least one; its
encoding does not underflow.  The loop that collects them does not either, and is at zero after as
many payloads as announced. -/
theorem attachments_bookkept (json : SerdeJson) :
    (∀ (origin : Origin json) (packet : Packet),
      origin.Produces packet → Bookkept origin packet) ∧
    ∀ (flavour : Flavour) (count : UInt8),
      (∀ (arrivals : List Arrival) (s : Collecting),
        Lts.run (Collecting.step flavour) (.looping count []) arrivals = some s →
          CountedDown count arrivals s) ∧
      ∀ packets : List Engineio.Packet, (∀ packet ∈ packets, isMessage packet) →
        (Lts.run (Collecting.step flavour) (.looping count []) (packets.map Arrival.packet) =
            some (.looping 0 (packets.map Engineio.Packet.data)) ↔
          packets.length = count.toNat) := by
  refine ⟨fun origin packet h => h.bookkept, fun flavour count => ⟨?_, ?_⟩⟩
  · intro arrivals s hrun
    exact countedDown_of_run hrun
  · intro packets hm
    exact run_messages_iff flavour count hm

section Example

theorem handleEngineioPacket_attachment :
    Flavour.async.handleEngineioPacket .integers attachmentHeader
        [.packet ⟨.messageBinary, [7]⟩, .ended] =
      (.returned (.ok { announced with attachments := some [[7]] }), [.ended]) := by
  rw [Flavour.handleEngineioPacket, tryFrom_attachmentHeader]
  rfl

/-- A binary event that the stream puts together, and two attachments counted down. -/
theorem bookkept_attachment :
    Bookkept (@Origin.handleEngineioPacket .integers .async attachmentHeader
        [.packet ⟨.messageBinary, [7]⟩, .ended]) { announced with attachments := some [[7]] } ∧
      CountedDown 2 [.packet ⟨.messageBinary, [7]⟩] (.looping 1 [[7]]) ∧
      Lts.run (Collecting.step .sync) (.looping 2 [])
          [.packet ⟨.messageBinary, [7]⟩, .packet ⟨.message, [8]⟩] =
        some (.looping 0 [[7], [8]]) := by
  have hproduces : (@Origin.handleEngineioPacket .integers .async attachmentHeader
      [.packet ⟨.messageBinary, [7]⟩, .ended]).Produces
        { announced with attachments := some [[7]] } := by
    show (Flavour.async.handleEngineioPacket _ _ _).1 = _
    rw [handleEngineioPacket_attachment]
  obtain ⟨hbookkept, hloop⟩ := attachments_bookkept .integers
  refine ⟨hbookkept _ _ hproduces, (hloop .sync 2).1 _ _ rfl, ?_⟩
  exact ((hloop .sync 2).2 [⟨.messageBinary, [7]⟩, ⟨.message, [8]⟩]
    (by simp [isMessage])).mpr rfl

end Example

end TfSocketio.Socketio
