/-
# Socketio.TornSend — what a receiver makes of sends that fail.

`Socket::send` emits the header of a binary packet before its attachment, and nothing takes the
header back when the attachment fails.  A send that fails before its header leaves no trace
(`lost`); one that fails behind it is `torn`, and the receiver waits for an attachment that never
comes.  `received_untorn` says that without a torn send the receiver reads exactly the packets whose
sends succeeded; `received_torn` that the first packet on the wire behind a torn one is swallowed as
its attachment.
-/
import TfSocketio.Socketio.Assembly

namespace TfSocketio.Socketio

open Engineio (Bytes)

/-! ## Sends one by one -/

/-- One call of `Socket::send`: the packet, what the call returned and what it emitted. -/
structure Attempt where
  packet : Packet
  result : Except Error Unit
  emitted : List Engineio.Packet

/-- The sends of packets one after the other, as `Socket.sendAll` makes them. -/
def Socket.attempts (s : Socket) : List Packet → List Attempt
  | [] => []
  | packet :: packets =>
      let (result, s') := s.send packet
      ⟨packet, result, s'.engineClient.emitted.drop s.engineClient.emitted.length⟩ ::
        s'.attempts packets

/-- The send succeeded. -/
def Attempt.Whole (attempt : Attempt) : Prop :=
  attempt.result = .ok () ∧ attempt.emitted = attempt.packet.enginePackets

/-- The send failed and left nothing on the wire. -/
def Attempt.Lost (attempt : Attempt) : Prop :=
  (∃ e, attempt.result = .error e) ∧ attempt.emitted = []

/-- The send failed behind the header. -/
def Attempt.Torn (attempt : Attempt) : Prop :=
  (∃ e, attempt.result = .error e) ∧
    attempt.emitted = [⟨.message, attempt.packet.toBytes⟩] ∧
    attempt.packet.attachmentCount = 1

/-- The packets whose sends succeeded. -/
def succeeded (attempts : List Attempt) : List Packet :=
  attempts.filterMap fun attempt =>
    match attempt.result with
    | .ok () => some attempt.packet
    | .error _ => none

section Attempts

variable {json : SerdeJson}

/-- What one emit adds to the wire. -/
theorem EngineClient.emit_cases (client : EngineClient) (packet : Engineio.Packet) :
    (∃ failures, client.emit packet =
      (.ok (), { client with failures, emitted := client.emitted ++ [packet] })) ∨
    ∃ e failures, client.emit packet = (.error e, { client with failures }) := by
  rcases client with ⟨connected, failures, emitted, incoming⟩
  cases connected with
  | false => exact .inr ⟨.illegalActionBeforeOpen, failures, rfl⟩
  | true =>
      rcases failures with _ | ⟨_ | e, failures⟩
      · exact .inl ⟨[], rfl⟩
      · exact .inl ⟨failures, rfl⟩
      · exact .inr ⟨e, failures, rfl⟩

/-- A send of a built packet is whole, lost or torn. -/
theorem Socket.send_cases {packet : Packet} (hbuilt : Built json packet) (s : Socket) :
    ∃ emitted, (s.send packet).2.engineClient.emitted = s.engineClient.emitted ++ emitted ∧
      (Attempt.Whole ⟨packet, (s.send packet).1, emitted⟩ ∨
        Attempt.Lost ⟨packet, (s.send packet).1, emitted⟩ ∨
        Attempt.Torn ⟨packet, (s.send packet).1, emitted⟩) := by
  by_cases hopen : (s.engineClient.connected && s.connected) = true
  · rcases s.engineClient.emit_cases ⟨.message, packet.toBytes⟩ with
      ⟨failures, hheader⟩ | ⟨e, failures, hheader⟩
    · rcases hbuilt.attachments with ⟨-, hnone⟩ | ⟨data, hcount, hsome⟩
      · have hsend : s.send packet = (.ok (), { s with engineClient := { s.engineClient with
            failures, emitted := s.engineClient.emitted ++ packet.enginePackets } }) := by
          simp [Socket.send, hopen, Packet.enginePackets, hnone, EngineClient.emitAll, hheader]
        rw [hsend]
        exact ⟨packet.enginePackets, rfl, .inl ⟨rfl, rfl⟩⟩
      · rcases EngineClient.emit_cases { s.engineClient with
            failures, emitted := s.engineClient.emitted ++ [⟨.message, packet.toBytes⟩] }
            ⟨.messageBinary, data⟩ with ⟨failures', hdata⟩ | ⟨e, failures', hdata⟩
        · have hsend : s.send packet = (.ok (), { s with engineClient := { s.engineClient with
              failures := failures',
              emitted := s.engineClient.emitted ++ packet.enginePackets } }) := by
            simp [Socket.send, hopen, Packet.enginePackets, hsome, EngineClient.emitAll, hheader,
              hdata]
          rw [hsend]
          exact ⟨packet.enginePackets, rfl, .inl ⟨rfl, rfl⟩⟩
        · have hsend : s.send packet = (.error (.incompleteResponseFromEngineIo e),
              { s with engineClient := { s.engineClient with
                failures := failures',
                emitted := s.engineClient.emitted ++ [⟨.message, packet.toBytes⟩] } }) := by
            simp [Socket.send, hopen, Packet.enginePackets, hsome, EngineClient.emitAll, hheader,
              hdata]
          rw [hsend]
          exact ⟨_, rfl, .inr (.inr ⟨⟨_, rfl⟩, rfl, hcount⟩)⟩
    · have hsend : s.send packet = (.error (.incompleteResponseFromEngineIo e),
          { s with engineClient := { s.engineClient with failures } }) := by
        simp [Socket.send, hopen, Packet.enginePackets, EngineClient.emitAll, hheader]
      rw [hsend]
      exact ⟨[], (List.append_nil _).symm, .inr (.inl ⟨⟨_, rfl⟩, rfl⟩)⟩
  · have hsend : s.send packet = (.error .illegalActionBeforeOpen, s) := by
      simp [Socket.send, hopen]
    rw [hsend]
    exact ⟨[], (List.append_nil _).symm, .inr (.inl ⟨⟨_, rfl⟩, rfl⟩)⟩

/-- The attempts are whole, lost or torn, and what they emit one after the other is what the sends
put on the wire. -/
theorem Socket.attempts_spec {packets : List Packet} (h : ∀ packet ∈ packets, Built json packet)
    (s : Socket) :
    (s.sendAll packets).2.engineClient.emitted =
        s.engineClient.emitted ++ (s.attempts packets).flatMap Attempt.emitted ∧
      (s.sendAll packets).1 = (s.attempts packets).map Attempt.result ∧
      (s.attempts packets).map Attempt.packet = packets ∧
      ∀ attempt ∈ s.attempts packets, attempt.Whole ∨ attempt.Lost ∨ attempt.Torn := by
  induction packets generalizing s with
  | nil => simp [Socket.sendAll, Socket.attempts]
  | cons packet packets ih =>
      obtain ⟨hbuilt, hpackets⟩ := List.forall_mem_cons.mp h
      obtain ⟨emitted, hemitted, hkind⟩ := Socket.send_cases hbuilt s
      obtain ⟨hwire, hresults, hsame, hkinds⟩ := ih hpackets (s.send packet).2
      have hdrop : (s.send packet).2.engineClient.emitted.drop s.engineClient.emitted.length =
          emitted := by
        rw [hemitted, List.drop_left]
      have hattempts : s.attempts (packet :: packets) =
          ⟨packet, (s.send packet).1, emitted⟩ :: (s.send packet).2.attempts packets := by
        simp only [Socket.attempts, hdrop]
      rw [hattempts]
      refine ⟨?_, ?_, ?_, ?_⟩
      · simp only [Socket.sendAll, hwire, hemitted, List.flatMap_cons, List.append_assoc]
      · simp only [Socket.sendAll, hresults, List.map_cons]
      · simp only [List.map_cons, hsame]
      · exact List.forall_mem_cons.mpr ⟨hkind, hkinds⟩

/-! ## What is read of them -/

/-- Nothing is on the wire behind a torn send. -/
def Untorn : List Attempt → Prop
  | [] => True
  | attempt :: attempts => (attempt.Torn → ∀ later ∈ attempts, later.Lost) ∧ Untorn attempts

theorem emitted_of_lost {attempts : List Attempt} (h : ∀ attempt ∈ attempts, attempt.Lost) :
    attempts.flatMap Attempt.emitted = [] ∧ succeeded attempts = [] := by
  induction attempts with
  | nil => exact ⟨rfl, rfl⟩
  | cons attempt attempts ih =>
      obtain ⟨⟨⟨e, herror⟩, hnone⟩, hrest⟩ := List.forall_mem_cons.mp h
      obtain ⟨hemitted, hsucceeded⟩ := ih hrest
      rw [succeeded] at hsucceeded
      simp [succeeded, herror, hnone, hemitted, hsucceeded]

/-- A packet that was sent whole is read, and reading goes on behind it. -/
theorem Socket.received_whole {packet : Packet} (hbuilt : Built json packet) (rest : Incoming)
    (n : Nat) (s : Socket)
    (hs : s.engineClient.incoming = arriving packet.enginePackets ++ rest) :
    ∃ s', s'.engineClient.incoming = rest ∧
      Socket.received json (n + 1) s = .ok packet :: Socket.received json n s' := by
  have hpoll := pollIncoming_enginePackets hbuilt rest
  refine ⟨{ engineClient := { s.engineClient with incoming := rest }
            connected := handleSocketioPacket s.connected packet }, rfl, ?_⟩
  simp [Socket.received, Socket.poll, hs, hpoll]

/-- The header of a torn send is read together with the packet behind it. -/
theorem pollIncoming_torn {packet : Packet} (hbuilt : Built json packet)
    (hcount : packet.attachmentCount = 1) {next : Engineio.Packet} (hnext : isMessage next = true)
    (rest : Incoming) :
    pollIncoming json (.ok (some ⟨.message, packet.toBytes⟩) :: .ok (some next) :: rest) =
      (.ok { packet with attachments := some [next.data] }, rest) := by
  have hdecode := hbuilt.readable.tryFrom_toBytes
  have hpos : (0 : UInt8) < 1 := by decide
  have hone : (1 : UInt8).toNat = 1 := rfl
  have hcollect : collectAttachments 1 (.ok (some next) :: rest) = (.ok [next.data], rest) := by
    rw [collectAttachments, if_pos hnext]
    rfl
  have hmessage : isMessage ⟨.message, packet.toBytes⟩ = true := rfl
  rw [pollIncoming, if_pos hmessage]
  simp [handleEngineioPacket, hdecode, hcount, hpos, hone, hcollect]

/-- With nothing behind it, the header of a torn send keeps the receiver waiting. -/
theorem pollIncoming_header {packet : Packet} (hbuilt : Built json packet)
    (hcount : packet.attachmentCount = 1) :
    (pollIncoming json [.ok (some ⟨.message, packet.toBytes⟩)]).1 = .pending := by
  have hdecode := hbuilt.readable.tryFrom_toBytes
  have hpos : (0 : UInt8) < 1 := by decide
  have hone : (1 : UInt8).toNat = 1 := rfl
  have hmessage : isMessage ⟨.message, packet.toBytes⟩ = true := rfl
  rw [pollIncoming, if_pos hmessage]
  simp [handleEngineioPacket, hdecode, hcount, hpos, hone, collectAttachments, Polled.map]

theorem Socket.received_pending {n : Nat} {s : Socket}
    (h : (pollIncoming json s.engineClient.incoming).1 = .pending) :
    Socket.received json n s = [Polled.pending].take n := by
  cases n with
  | zero => rfl
  | succ n =>
      rcases hpoll : pollIncoming json s.engineClient.incoming with ⟨result, rest⟩
      rw [hpoll] at h
      obtain rfl : result = .pending := h
      simp [Socket.received, Socket.poll, hpoll]

/-- Without a torn send, the receiver reads the packets whose sends succeeded. -/
theorem received_untorn {attempts : List Attempt}
    (hkinds : ∀ attempt ∈ attempts, attempt.Whole ∨ attempt.Lost ∨ attempt.Torn)
    (hbuilt : ∀ attempt ∈ attempts, Built json attempt.packet) (huntorn : Untorn attempts) (n : Nat)
    (s : Socket) (hs : s.engineClient.incoming = arriving (attempts.flatMap Attempt.emitted)) :
    Socket.received json n s =
      ((succeeded attempts).map Polled.ok ++ [Polled.pending]).take n := by
  induction attempts generalizing n s with
  | nil => exact Socket.received_pending (by rw [hs]; rfl)
  | cons attempt attempts ih =>
      obtain ⟨hkind, hkinds⟩ := List.forall_mem_cons.mp hkinds
      obtain ⟨hpacket, hbuilt⟩ := List.forall_mem_cons.mp hbuilt
      obtain ⟨hlast, huntorn⟩ := huntorn
      rcases hkind with ⟨hok, hemitted⟩ | ⟨⟨e, herror⟩, hemitted⟩ | htorn
      · have hsucceeded : succeeded (attempt :: attempts) =
            attempt.packet :: succeeded attempts := by
          rw [succeeded, List.filterMap_cons, hok]
          rfl
        rw [hsucceeded]
        cases n with
        | zero => rfl
        | succ n =>
            rw [List.flatMap_cons, arriving_append, hemitted] at hs
            obtain ⟨s', hs', hreceived⟩ := Socket.received_whole hpacket _ n s hs
            rw [hreceived, ih hkinds hbuilt huntorn n s' hs']
            rfl
      · have hsucceeded : succeeded (attempt :: attempts) = succeeded attempts := by
          rw [succeeded, List.filterMap_cons, herror]
          rfl
        rw [hsucceeded]
        apply ih hkinds hbuilt huntorn n s
        rw [hs, List.flatMap_cons, hemitted, List.nil_append]
      · obtain ⟨⟨e, herror⟩, hemitted, hcount⟩ := htorn
        obtain ⟨hnone, hnobody⟩ := emitted_of_lost (hlast ⟨⟨e, herror⟩, hemitted, hcount⟩)
        have hsucceeded : succeeded (attempt :: attempts) = [] := by
          rw [succeeded, List.filterMap_cons, herror]
          exact hnobody
        rw [hsucceeded]
        apply Socket.received_pending
        rw [hs, List.flatMap_cons, hemitted, hnone]
        exact pollIncoming_header hpacket hcount

/-- Sends that are whole or lost are read as the packets that succeeded, whatever follows. -/
theorem received_before {before : List Attempt}
    (hkinds : ∀ attempt ∈ before, attempt.Whole ∨ attempt.Lost)
    (hbuilt : ∀ attempt ∈ before, Built json attempt.packet) (rest : Incoming) (n : Nat)
    (s : Socket)
    (hs : s.engineClient.incoming = arriving (before.flatMap Attempt.emitted) ++ rest) :
    ∃ s', s'.engineClient.incoming = rest ∧
      Socket.received json ((succeeded before).length + n) s =
        (succeeded before).map Polled.ok ++ Socket.received json n s' := by
  induction before generalizing s with
  | nil => exact ⟨s, hs, by simp [succeeded]⟩
  | cons attempt before ih =>
      obtain ⟨hkind, hkinds⟩ := List.forall_mem_cons.mp hkinds
      obtain ⟨hpacket, hbuilt⟩ := List.forall_mem_cons.mp hbuilt
      rcases hkind with ⟨hok, hemitted⟩ | ⟨⟨e, herror⟩, hemitted⟩
      · have hsucceeded : succeeded (attempt :: before) = attempt.packet :: succeeded before := by
          rw [succeeded, List.filterMap_cons, hok]
          rfl
        rw [List.flatMap_cons, arriving_append, hemitted, List.append_assoc] at hs
        obtain ⟨s₁, hs₁, hfirst⟩ := Socket.received_whole hpacket _
          ((succeeded before).length + n) s hs
        obtain ⟨s', hs', hmore⟩ := ih hkinds hbuilt s₁ hs₁
        refine ⟨s', hs', ?_⟩
        rw [hsucceeded, List.length_cons, show (succeeded before).length + 1 + n =
          (succeeded before).length + n + 1 by omega, hfirst, hmore]
        rfl
      · have hsucceeded : succeeded (attempt :: before) = succeeded before := by
          rw [succeeded, List.filterMap_cons, herror]
          rfl
        rw [hsucceeded]
        apply ih hkinds hbuilt s
        rw [hs, List.flatMap_cons, hemitted, List.nil_append]

theorem Attempt.not_torn_of_lost {attempt : Attempt} (h : attempt.Lost) : ¬ attempt.Torn := by
  rintro ⟨-, hemitted, -⟩
  rw [h.2] at hemitted
  cases hemitted

/-- A list with an element that fails a predicate has a first one. -/
theorem exists_first {α : Type} {p : α → Prop} {l : List α} (h : ¬ ∀ x ∈ l, p x) :
    ∃ before x after, l = before ++ x :: after ∧ (∀ y ∈ before, p y) ∧ ¬ p x := by
  induction l with
  | nil => exact absurd (fun x hx => absurd hx List.not_mem_nil) h
  | cons x l ih =>
      by_cases hx : p x
      · have hrest : ¬ ∀ y ∈ l, p y := fun hall => h (List.forall_mem_cons.mpr ⟨hx, hall⟩)
        obtain ⟨before, y, after, rfl, hbefore, hy⟩ := ih hrest
        exact ⟨x :: before, y, after, rfl, List.forall_mem_cons.mpr ⟨hx, hbefore⟩, hy⟩
      · exact ⟨[], x, l, rfl, by simp, hx⟩

/-- The first torn send, and the first one behind it that puts something on the wire. -/
structure TornAt (attempts before : List Attempt) (torn : Attempt) (lost : List Attempt)
    (next : Attempt) (after : List Attempt) : Prop where
  split : attempts = before ++ torn :: (lost ++ next :: after)
  before_not_torn : ∀ attempt ∈ before, ¬ attempt.Torn
  torn : torn.Torn
  lost : ∀ attempt ∈ lost, attempt.Lost
  next_not_lost : ¬ next.Lost

theorem exists_tornAt {attempts : List Attempt} (h : ¬ Untorn attempts) :
    ∃ before torn lost next after, TornAt attempts before torn lost next after := by
  induction attempts with
  | nil => exact absurd trivial h
  | cons attempt attempts ih =>
      by_cases htorn : attempt.Torn
      · by_cases hlost : ∀ later ∈ attempts, later.Lost
        · have huntorn : ∀ later : List Attempt, (∀ a ∈ later, a.Lost) → Untorn later := by
            intro later hall
            induction later with
            | nil => exact trivial
            | cons a later ihl =>
                obtain ⟨ha, hrest⟩ := List.forall_mem_cons.mp hall
                exact ⟨fun ht => absurd ht (Attempt.not_torn_of_lost ha), ihl hrest⟩
          exact absurd ⟨fun _ => hlost, huntorn attempts hlost⟩ h
        · obtain ⟨lost, next, after, rfl, hall, hnext⟩ := exists_first hlost
          exact ⟨[], attempt, lost, next, after, rfl, by simp, htorn, hall, hnext⟩
      · have hrest : ¬ Untorn attempts := fun hu => h ⟨fun ht => absurd ht htorn, hu⟩
        obtain ⟨before, torn, lost, next, after, hat⟩ := ih hrest
        refine ⟨attempt :: before, torn, lost, next, after, ?_, ?_, hat.torn, hat.lost,
          hat.next_not_lost⟩
        · rw [hat.split]
          rfl
        · exact List.forall_mem_cons.mpr ⟨htorn, hat.before_not_torn⟩

/-- What goes out behind a torn send is read as its attachment. -/
theorem received_torn {attempts before : List Attempt} {torn : Attempt} {lost : List Attempt}
    {next : Attempt} {after : List Attempt}
    (hkinds : ∀ attempt ∈ attempts, attempt.Whole ∨ attempt.Lost ∨ attempt.Torn)
    (hbuilt : ∀ attempt ∈ attempts, Built json attempt.packet)
    (hat : TornAt attempts before torn lost next after) (s : Socket)
    (hs : s.engineClient.incoming = arriving (attempts.flatMap Attempt.emitted)) :
    Socket.received json ((succeeded before).length + 1) s =
      (succeeded before).map Polled.ok ++
        [.ok { torn.packet with attachments := some [next.packet.toBytes] }] := by
  have hmem : ∀ attempt ∈ before, attempt ∈ attempts := by
    intro attempt hattempt
    rw [hat.split]
    exact List.mem_append_left _ hattempt
  have htorn : torn ∈ attempts := by
    rw [hat.split]
    exact List.mem_append_right _ List.mem_cons_self
  have hnext : next ∈ attempts := by
    rw [hat.split]
    exact List.mem_append_right _ (List.mem_cons_of_mem _ (List.mem_append_right _
      List.mem_cons_self))
  obtain ⟨-, hheader, hcount⟩ := hat.torn
  obtain ⟨more, hemitted⟩ : ∃ more, next.emitted = ⟨.message, next.packet.toBytes⟩ :: more := by
    rcases hkinds next hnext with ⟨-, hwhole⟩ | hlost | ⟨-, hone, -⟩
    · exact ⟨_, hwhole⟩
    · exact absurd hlost hat.next_not_lost
    · exact ⟨[], hone⟩
  have hkept : ∀ attempt ∈ before, attempt.Whole ∨ attempt.Lost := by
    intro attempt hattempt
    rcases hkinds attempt (hmem attempt hattempt) with hwhole | hlost | ht
    · exact .inl hwhole
    · exact .inr hlost
    · exact absurd ht (hat.before_not_torn attempt hattempt)
  have hincoming : s.engineClient.incoming = arriving (before.flatMap Attempt.emitted) ++
      (.ok (some ⟨.message, torn.packet.toBytes⟩) ::
        .ok (some ⟨.message, next.packet.toBytes⟩) ::
          arriving (more ++ after.flatMap Attempt.emitted)) := by
    rw [hs, hat.split]
    simp only [List.flatMap_append, List.flatMap_cons, hheader, (emitted_of_lost hat.lost).1,
      hemitted, arriving_append, List.nil_append, List.cons_append, arriving_cons]
  obtain ⟨s', hs', hreceived⟩ := received_before hkept
    (fun attempt hattempt => hbuilt attempt (hmem attempt hattempt)) _ 1 s hincoming
  have hpoll := @pollIncoming_torn json torn.packet (hbuilt torn htorn) hcount
    ⟨.message, next.packet.toBytes⟩ rfl (arriving (more ++ after.flatMap Attempt.emitted))
  rw [← hs'] at hpoll
  rw [hreceived]
  simp [Socket.received, Socket.poll, hpoll]

/-- What sends have put on the wire. -/
def Socket.wireAfter (s : Socket) (packets : List Packet) : List Engineio.Packet :=
  (s.sendAll packets).2.engineClient.emitted.drop s.engineClient.emitted.length

/-- **Failing sends.**  Whichever emits fail while packets are sent one after the other: if nothing
is on the wire behind a torn send, both receivers read exactly the packets whose sends succeeded;
otherwise they read those in front of the first torn one, and then a packet nobody sent, the torn
one with the text of the next packet on the wire as its attachment. -/
theorem received_sendAll {packets : List Packet} (h : ∀ packet ∈ packets, Built json packet)
    (s : Socket) :
    (∀ n, streamedFrom json n (s.wireAfter packets) =
        (polledFrom json n (s.wireAfter packets)).map .returned) ∧
      (Untorn (s.attempts packets) → ∀ n, polledFrom json n (s.wireAfter packets) =
        ((succeeded (s.attempts packets)).map Polled.ok ++ [Polled.pending]).take n) ∧
      (¬ Untorn (s.attempts packets) → ∃ before torn lost next after,
        TornAt (s.attempts packets) before torn lost next after ∧
          polledFrom json ((succeeded before).length + 1) (s.wireAfter packets) =
            (succeeded before).map Polled.ok ++
              [.ok { torn.packet with attachments := some [next.packet.toBytes] }]) := by
  obtain ⟨hwire, -, hpackets, hkinds⟩ := Socket.attempts_spec h s
  have hbuilt : ∀ attempt ∈ s.attempts packets, Built json attempt.packet := by
    intro attempt hattempt
    apply h
    rw [← hpackets]
    exact List.mem_map_of_mem hattempt
  have hemitted : s.wireAfter packets = (s.attempts packets).flatMap Attempt.emitted := by
    rw [Socket.wireAfter, hwire, List.drop_left]
  rw [hemitted]
  refine ⟨fun n => by rw [streamedFrom_eq, polledFrom_eq], ?_, ?_⟩
  · intro huntorn n
    exact received_untorn hkinds hbuilt huntorn n (Socket.opened _) rfl
  · intro htorn
    obtain ⟨before, torn, lost, next, after, hat⟩ := exists_tornAt htorn
    exact ⟨before, torn, lost, next, after, hat,
      received_torn hkinds hbuilt hat (Socket.opened _) rfl⟩

end Attempts

/-- A connection whose second emit fails. -/
def tearing : Socket where
  engineClient :=
    { connected := true, failures := [none, some .incompleteIo], emitted := [], incoming := [] }
  connected := true

/-- The attachment of the first packet fails, and the second packet is its attachment then. -/
theorem received_sendAll_tearing :
    ∃ before torn lost next after,
      TornAt (tearing.attempts [placeholderEvent, largestAck]) before torn lost next after ∧
        polledFrom .integers ((succeeded before).length + 1)
            (tearing.wireAfter [placeholderEvent, largestAck]) =
          (succeeded before).map Polled.ok ++
            [.ok { torn.packet with attachments := some [next.packet.toBytes] }] := by
  have hbuilt : ∀ packet ∈ [placeholderEvent, largestAck], Built .integers packet := by
    simp only [List.forall_mem_cons]
    exact ⟨built_placeholderEvent, built_largestAck, fun _ h => by cases h⟩
  refine (received_sendAll hbuilt tearing).2.2 fun huntorn => ?_
  have hlost := huntorn.1 ⟨⟨_, rfl⟩, rfl, rfl⟩ _ List.mem_cons_self
  exact absurd hlost.2 (List.cons_ne_nil _ _)

end TfSocketio.Socketio
