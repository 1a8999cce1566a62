/-
# Socketio.Isolation — packets of other namespaces.

A client handles the packets of its own namespace only.  Its inner socket has no namespace, and sets
its flag at every `Connect`, `ConnectError` and `Disconnect` that it reads.  The reader of the
asynchronous client does not look at the namespace either before it finds out, at whatever it reads
next, that a teardown is announced; then it aborts its tasks.  So what a send returns may depend on
the packets of other namespaces at any time, and what user code is called and which acks are
outstanding may while a teardown goes on.

A run of the client is compared with what becomes of it when such packets are inserted into what it
reads: what it then no longer reads or runs is passed over.  `unaffected_iff` is the exact condition
for user code not to notice.
-/
import TfSocketio.Socketio.TwoRuns

namespace TfSocketio.Socketio

open Text (Str)

namespace Traffic

variable {json : SerdeJson}

/-! ## What the sends return -/

section Sends

variable (flavour : Flavour) {reader : FromStr json} {registrations : Registrations}

/-- What a step makes of the flags. -/
def flagsAfter (flags : Flags) : Label json → Flags
  | .packet packet => { flags with connected := handleSocketioPacket flags.connected packet }
  | .engineClosed => { flags with engineConnected := false }
  | .disconnect _ => ⟨false, false⟩
  | .install engineConnected connected => ⟨engineConnected, connected⟩
  | .session =>
      match flavour with
      | .sync => ⟨true, true⟩
      | .async => flags
  | _ => flags

def Label.isSend : Label json → Bool
  | .emit .. => true
  | .ack .. => true
  | .emitWithAck .. => true
  | _ => false

/-- A send that gets as far as the flag of the socket finds the same flag. -/
def SameFlag (flags flags' : Flags) (label : Label json) : Prop :=
  label.isSend = true → flags.engineConnected = true → flags.connected = flags'.connected

/-- What a label returns to user code. -/
def returned (s : Traffic json) : Label json → List (Except Error Unit)
  | .emit event data failures => [((s.client.failing failures).emit event data).1]
  | .ack data ackId failures => [((s.client.failing failures).ack data ackId).1]
  | .emitWithAck event data timeout id now failures =>
      [((s.client.failing failures).emitWithAck event data timeout s.registered id now).1]
  | _ => []

variable {flavour} {s t s' : Traffic json} {label : Label json}

theorem send_effect (failures : List (Option Engineio.Error))
    {operation : RawClient → Except Error Unit × RawClient} {packet : Str → Packet}
    {entries : List Ack} (hop : Sends operation packet entries) :
    (s.send failures operation).client.socket.flags = s.client.socket.flags ∧
      (s.send failures operation).client.nsp = s.client.nsp := by
  simp only [send, hop _]
  exact ⟨Socket.send_flags _ _, rfl⟩

/-- Of what a step changes, what it returns and what it does to the flags. -/
theorem step_effect (hs : s.step flavour reader registrations label = some s') :
    s'.outcomes = s.outcomes ++ s.returned label ∧
      s'.client.socket.flags = flagsAfter flavour s.client.socket.flags label ∧
      s'.client.nsp = s.client.nsp := by
  have hnil : s.outcomes = s.outcomes ++ [] := (List.append_nil _).symm
  cases step_cases hs with
  | packet packet =>
      obtain ⟨reason, stage, threads, hframe⟩ :=
        readPacket_frame flavour reader registrations s packet
      rw [hframe]
      exact ⟨hnil, rfl, rfl⟩
  | pollError text =>
      obtain ⟨stage, threads, hframe⟩ := readError_frame flavour reader registrations s text
      rw [hframe]
      exact ⟨hnil, rfl, rfl⟩
  | streamEnd =>
      obtain ⟨stage, threads, hframe⟩ := endStream_frame reader registrations s
      rw [hframe]
      exact ⟨hnil, rfl, rfl⟩
  | work i now thread work rest =>
      obtain ⟨outstandingAcks, closeCallback, calls, hframe⟩ :=
        perform_frame flavour reader s now work
      rw [hframe]
      exact ⟨hnil, rfl, rfl⟩
  | emit event data failures =>
      obtain ⟨packet, hop⟩ := RawClient.sends_emit event data
      exact ⟨rfl, send_effect failures hop⟩
  | ack data ackId failures =>
      obtain ⟨packet, hop⟩ := RawClient.sends_ack data ackId
      exact ⟨rfl, send_effect failures hop⟩
  | emitWithAck event data timeout id now failures =>
      obtain ⟨packet, hop⟩ :=
        RawClient.sends_emitWithAck event data timeout s.registered id now
      exact ⟨rfl, send_effect failures hop⟩
  | engineClosed => exact ⟨hnil, rfl, rfl⟩
  | announce => exact ⟨hnil, rfl, rfl⟩
  | stopReader => exact ⟨hnil, rfl, rfl⟩
  | stopIdle => exact ⟨hnil, rfl, rfl⟩
  | disconnectSync => exact ⟨hnil, Socket.disconnect_flags _, rfl⟩
  | disconnectAsync => exact ⟨hnil, Socket.disconnect_flags _, rfl⟩
  | abortTasks => exact ⟨hnil, rfl, rfl⟩
  | install => exact ⟨hnil, rfl, rfl⟩
  | sessionSync hsync =>
      subst hsync
      exact ⟨hnil, rfl, rfl⟩
  | sessionAsync hasync =>
      subst hasync
      exact ⟨hnil, rfl, rfl⟩
  | giveUp => exact ⟨hnil, rfl, rfl⟩

/-- Of related states, a label returns the same exactly under the condition on the flag. -/
theorem Common.returned_iff (h : Common s t) (label : Label json) :
    (s.returned label).length = (t.returned label).length ∧
      (s.returned label = t.returned label ↔
        SameFlag s.client.socket.flags t.client.socket.flags label) := by
  have hsend : ∀ {operation packet entries} (failures : List (Option Engineio.Error)),
      Sends operation packet entries →
        ([(operation (s.client.failing failures)).1] = [(operation (t.client.failing failures)).1] ↔
          (s.client.socket.engineClient.connected = true →
            s.client.socket.connected = t.client.socket.connected)) := by
    intro operation packet entries failures hop
    have hnsp : (t.client.failing failures).nsp = (s.client.failing failures).nsp := h.nsp.symm
    rw [hop, hop, List.singleton_inj, hnsp]
    exact Socket.send_result_iff (a := (s.client.failing failures).socket)
      (b := (t.client.failing failures).socket) h.engineConnected rfl _
  cases label with
  | emit event data failures =>
      obtain ⟨packet, hop⟩ := RawClient.sends_emit event data
      refine ⟨rfl, (hsend failures hop).trans ?_⟩
      simp [SameFlag, Label.isSend, Socket.flags]
  | ack data ackId failures =>
      obtain ⟨packet, hop⟩ := RawClient.sends_ack data ackId
      refine ⟨rfl, (hsend failures hop).trans ?_⟩
      simp [SameFlag, Label.isSend, Socket.flags]
  | emitWithAck event data timeout id now failures =>
      obtain ⟨packet, hop⟩ :=
        RawClient.sends_emitWithAck event data timeout s.registered id now
      simp only [returned, ← h.registered]
      refine ⟨rfl, (hsend failures hop).trans ?_⟩
      simp [SameFlag, Label.isSend, Socket.flags]
  | _ => simp [returned, SameFlag, Label.isSend]

end Sends

/-! ## Noninterference -/

/-- User code was called with the same, is to be called with the same, and was returned the same. -/
def Unaffected (s t : Traffic json) : Prop := CalledAlike s t ∧ s.outcomes = t.outcomes

/-- What is known of the run with the inserted packets beside the run without. -/
structure Drift where
  flags : Flags
  /-- Its reader has found out at an inserted packet that a teardown is announced. -/
  stopped : Bool

/-- A packet is read, if the run without reads, and the reader has not stopped. -/
def Drift.read (d : Drift) (t : Traffic json) (packet : Packet) : Drift :=
  if !d.stopped && t.canRead then
    { d with flags.connected := handleSocketioPacket d.flags.connected packet }
  else d

/-- What comes of it at a label of the run without, and at an inserted packet. -/
def Drift.after (flavour : Flavour) (d : Drift) (t : Traffic json) : Label json ⊕ Packet → Drift
  | .inl (.packet packet) => d.read t packet
  | .inl label => { d with flags := flagsAfter flavour d.flags label }
  | .inr packet =>
      { d.read t packet with stopped := d.stopped || (t.canRead && t.quits flavour) }

/-- A send that gets as far as the flag of the socket finds the flag of the run without, and once
the reader has stopped no task tells that has been aborted there. -/
def Unnoticed (d : Drift) (t : Traffic json) (label : Label json) : Prop :=
  SameFlag d.flags t.client.socket.flags label ∧ (d.stopped = true → ¬ Telling t label)

section Runs

variable {flavour : Flavour} {reader : FromStr json} {registrations : Registrations} {nsp : Str}

/-- The run with the inserted packets follows the run without. -/
structure Follows (flavour : Flavour) (nsp : Str) (d : Drift) (s t : Traffic json) : Prop where
  nsp : s.client.nsp = nsp
  flags : d.flags = s.client.socket.flags
  settled : flavour = .async → Settled t
  progress : d.stopped = false ∧ Same s t ∨ d.stopped = true ∧ flavour = .async ∧ Behind s t

theorem Follows.common {d : Drift} {s t : Traffic json} (h : Follows flavour nsp d s t) :
    Common s t := by
  rcases h.progress with ⟨-, hsame⟩ | ⟨-, -, hbehind⟩
  · exact hsame.toCommon
  · exact hbehind.toCommon

/-- What both have been returned is the same exactly if it was, and the label returns the same. -/
theorem Common.outcomes_iff {s t : Traffic json} (h : Common s t) (label : Label json) :
    s.outcomes ++ s.returned label = t.outcomes ++ t.returned label ↔
      s.outcomes = t.outcomes ∧ SameFlag s.client.socket.flags t.client.socket.flags label := by
  obtain ⟨hlength, hreturned⟩ := h.returned_iff label
  rw [← hreturned]
  constructor
  · exact fun heq => List.append_inj' heq hlength
  · rintro ⟨heq, heq'⟩
    rw [heq, heq']

theorem Drift.after_of_running (flavour : Flavour) {d : Drift} {t t' : Traffic json}
    {label : Label json} (hd : d.stopped = false)
    (ht : t.step flavour reader registrations label = some t') :
    d.after flavour t (.inl label) = { d with flags := flagsAfter flavour d.flags label } := by
  cases step_cases ht with
  | packet packet hread => simp [Drift.after, Drift.read, hd, hread, flagsAfter]
  | _ => rfl

/-- What becomes of the run with the inserted packets, once its reader has stopped. -/
theorem Behind.effect {d : Drift} {s t t' : Traffic json} (h : Behind s t)
    (hd : d.stopped = true) (hflags : d.flags = s.client.socket.flags) {label : Label json}
    (ht : t.step .async reader registrations label = some t') :
    (Lts.attempt (Traffic.step .async reader registrations) s label).outcomes =
        s.outcomes ++ s.returned label ∧
      (d.after .async t (.inl label)).flags =
        (Lts.attempt (Traffic.step .async reader registrations) s label).client.socket.flags ∧
      (Lts.attempt (Traffic.step .async reader registrations) s label).client.nsp =
        s.client.nsp := by
  have hnil : s.outcomes = s.outcomes ++ [] := (List.append_nil _).symm
  cases hs : s.step .async reader registrations label with
  | some s' =>
      obtain ⟨houtcomes, hafter, hnsp⟩ := step_effect hs
      rw [Lts.attempt_of_step hs, hafter, ← hflags]
      refine ⟨houtcomes, ?_, hnsp⟩
      cases step_cases ht with
      | packet packet => simp [Traffic.step, h.canRead] at hs
      | _ => rfl
  | none =>
      rw [Lts.attempt_of_stuck hs, ← hflags]
      cases step_cases ht with
      | packet packet =>
          refine ⟨hnil, ?_, rfl⟩
          simp [Drift.after, Drift.read, hd]
      | pollError text => exact ⟨hnil, rfl, rfl⟩
      | streamEnd => exact ⟨hnil, rfl, rfl⟩
      | work => exact ⟨hnil, rfl, rfl⟩
      | emit => cases hs
      | ack => cases hs
      | emitWithAck => cases hs
      | engineClosed => cases hs
      | announce => cases hs
      | stopReader => simp [Traffic.step, h.stopped] at hs
      | stopIdle => simp [Traffic.step, h.stopped] at hs
      | disconnectSync _ hsync => cases hsync
      | disconnectAsync => cases hs
      | abortTasks => cases hs
      | install _ _ hreconnecting => exact absurd hreconnecting h.stopping
      | sessionSync hsync => cases hsync
      | sessionAsync _ hreconnecting => exact absurd hreconnecting h.stopping
      | giveUp _ hreconnecting => exact absurd hreconnecting h.stopping

/-- A step of the run without keeps user code unaffected exactly if it does not notice. -/
theorem Follows.kept {d : Drift} {s t t' : Traffic json} (h : Follows flavour nsp d s t)
    {label : Label json} (ht : t.step flavour reader registrations label = some t') :
    Follows flavour nsp (d.after flavour t (.inl label))
        (Lts.attempt (step flavour reader registrations) s label) t' ∧
      (Unaffected (Lts.attempt (step flavour reader registrations) s label) t' ↔
        Unaffected s t ∧ Unnoticed d t label) := by
  obtain ⟨houtcomes', -, -⟩ := step_effect ht
  have hiff := h.common.outcomes_iff label
  have hsettled : flavour = .async → Settled t' := by
    rintro rfl
    exact (h.settled rfl).step ht
  rcases h.progress with ⟨hd, hsame⟩ | ⟨hd, rfl, hbehind⟩
  · obtain ⟨s', hs, hsame'⟩ := hsame.step ht
    obtain ⟨houtcomes, hflags, hnsp⟩ := step_effect hs
    have hafter := Drift.after_of_running flavour hd ht
    rw [Lts.attempt_of_step hs]
    constructor
    · refine ⟨hnsp.trans h.nsp, ?_, hsettled, .inl ⟨?_, hsame'⟩⟩
      · rw [hafter, hflags, h.flags]
      · rw [hafter]
        exact hd
    · have hcalled : CalledAlike s t := ⟨hsame.calls, hsame.acks⟩
      have hcalled' : CalledAlike s' t' := ⟨hsame'.calls, hsame'.acks⟩
      rw [Unaffected, Unaffected, Unnoticed, h.flags, hd, houtcomes, houtcomes', hiff]
      simp [hcalled, hcalled']
  · obtain ⟨hbehind', hcalled⟩ := hbehind.step (h.settled rfl) ht
    obtain ⟨houtcomes, hflags, hnsp⟩ := hbehind.effect hd h.flags ht
    have hstopped : (d.after .async t (.inl label)).stopped = true := by
      cases label with
      | packet packet =>
          simp only [Drift.after, Drift.read]
          split <;> exact hd
      | _ => exact hd
    constructor
    · exact ⟨hnsp.trans h.nsp, hflags, hsettled, .inr ⟨hstopped, rfl, hbehind'⟩⟩
    · rw [Unaffected, Unaffected, Unnoticed, h.flags, houtcomes, houtcomes', hiff, hcalled]
      simp only [hd, forall_const]
      tauto

variable (reader registrations) in
/-- A packet of another namespace is read. -/
theorem Same.readForeign {s t : Traffic json} (h : Same s t) (hread : t.canRead = true)
    {packet : Packet} (hforeign : packet.nsp ≠ s.client.nsp) :
    (t.quits flavour = false ∧ Same (s.readPacket flavour reader registrations packet) t ∨
        t.quits flavour = true ∧ flavour = .async ∧
          Behind (s.readPacket flavour reader registrations packet) t) ∧
      (Unaffected (s.readPacket flavour reader registrations packet) t ↔ Unaffected s t) := by
  have hflag : Same (s.setConnected (handleSocketioPacket s.client.socket.connected packet)) t :=
    h.setConnected _ t.client.socket.connected
  rw [Traffic.readPacket, hflag.quits]
  cases hquits : t.quits flavour with
  | true =>
      obtain ⟨hasync, hmanual⟩ : flavour = .async ∧ t.reason = .manual := by
        simpa [Traffic.quits] using hquits
      have hreading : t.stage = .reading := by
        simp only [Traffic.canRead, Bool.and_eq_true, decide_eq_true_eq] at hread
        exact hread.1
      exact ⟨.inr ⟨rfl, hasync, hflag.quit_left hmanual hreading⟩, Iff.rfl⟩
  | false =>
      have hnone : handlerOf s.client.nsp packet = none := if_neg hforeign
      have hignored : Traffic.handlePacket flavour reader registrations
          (s.setConnected (handleSocketioPacket s.client.socket.connected packet)) packet =
            s.setConnected (handleSocketioPacket s.client.socket.connected packet) := by
        rw [Traffic.handlePacket]
        simp only [Traffic.setConnected, hnone]
      rw [if_neg Bool.false_ne_true, hignored]
      exact ⟨.inl ⟨rfl, hflag⟩, Iff.rfl⟩

/-- An inserted packet of another namespace leaves alone what user code has seen so far. -/
theorem Follows.inserted {d : Drift} {s t : Traffic json} (h : Follows flavour nsp d s t)
    {packet : Packet} (hforeign : packet.nsp ≠ nsp) :
    Follows flavour nsp (d.after flavour t (.inr packet))
        (Lts.attempt (step flavour reader registrations) s (.packet packet)) t ∧
      (Unaffected (Lts.attempt (step flavour reader registrations) s (.packet packet)) t ↔
        Unaffected s t) := by
  rcases h.progress with ⟨hd, hsame⟩ | ⟨hd, rfl, hbehind⟩
  · cases hread : t.canRead with
    | false =>
        have hs : s.step flavour reader registrations (.packet packet) = none := by
          simp [step, hsame.canRead, hread]
        have hafter : d.after flavour t (.inr packet) = d := by
          simp [Drift.after, Drift.read, hread]
        rw [Lts.attempt_of_stuck hs, hafter]
        exact ⟨h, Iff.rfl⟩
    | true =>
        have hs : s.step flavour reader registrations (.packet packet) =
            some (s.readPacket flavour reader registrations packet) :=
          if_pos (hsame.canRead.trans hread)
        have hafter : d.after flavour t (.inr packet) =
            ⟨flagsAfter flavour d.flags (.packet packet : Label json), t.quits flavour⟩ := by
          simp [Drift.after, Drift.read, hd, hread, flagsAfter]
        obtain ⟨-, hflags, hnsp⟩ := step_effect hs
        rw [Lts.attempt_of_step hs, hafter]
        obtain ⟨hprogress, hunaffected⟩ := hsame.readForeign reader registrations hread
          (h.nsp ▸ hforeign)
        refine ⟨⟨hnsp.trans h.nsp, ?_, h.settled, hprogress⟩, hunaffected⟩
        rw [hflags, ← h.flags]
  · have hs : s.step .async reader registrations (.packet packet) = none := by
      simp [step, hbehind.canRead]
    have hafter : d.after .async t (.inr packet) = d := by
      simp only [Drift.after, Drift.read, hd, Bool.not_true, Bool.false_and, Bool.true_or]
      rw [if_neg Bool.false_ne_true, ← hd]
    rw [Lts.attempt_of_stuck hs, hafter]
    exact ⟨h, Iff.rfl⟩

variable {trace : List (Label json ⊕ Packet)}

/-- At no label of the run, from the beginning, are the inserted packets noticed. -/
def NeverNoticed (flavour : Flavour) (reader : FromStr json) (registrations : Registrations)
    (nsp : Str) (trace : List (Label json ⊕ Packet)) : Prop :=
  Lts.Beside (step flavour reader registrations) (Drift.after flavour) Unnoticed
    ⟨⟨true, true⟩, false⟩ (init json registrations nsp) trace

/-- **Isolation of namespaces.**  Packets of other namespaces that are inserted into what a client
reads leave alone what user code it calls, which acks it keeps outstanding and what its sends return
exactly if no send on a connected engine.io client finds the socket's flag changed by them, and no
task that is aborted because one of them is read while a teardown is announced still calls user code
or takes acks out. -/
theorem unaffected_iff (hforeign : ∀ packet, .inr packet ∈ trace → packet.nsp ≠ nsp)
    {t : Traffic json}
    (h : Lts.run (step flavour reader registrations) (init json registrations nsp)
      (Lts.original trace) = some t) :
    Unaffected (Lts.attempts (step flavour reader registrations) (init json registrations nsp)
        (Lts.inserted .packet trace)) t ↔
      NeverNoticed flavour reader registrations nsp trace := by
  have h0 : Follows flavour nsp ⟨⟨true, true⟩, false⟩ (init json registrations nsp)
      (init json registrations nsp) := by
    refine ⟨rfl, rfl, fun _ => ?_, .inl ⟨rfl, .refl _⟩⟩
    simp [Settled, init]
  rw [Lts.insertion (Follows flavour nsp) Unaffected (fun _ _ _ _ _ hR ht => hR.kept ht)
    (fun _ _ _ _ hpacket hR => hR.inserted hpacket) hforeign h0 h]
  exact and_iff_right ⟨⟨rfl, rfl⟩, rfl⟩

end Runs

/-- A packet of another namespace, and an emit. -/
def emitAfter (packet : Packet) : List (Label .integers ⊕ Packet) :=
  [.inr packet, .inl (.emit .message (.text [] none) [])]

/-- An event of another namespace. -/
def foreignEvent : Packet := ⟨.event, "/other".toList, some "[1]".toList, none, 0, none⟩

theorem unaffected_event :
    ∃ t, Lts.run (step .sync .integers .all) (init .integers .all ['/'])
        (Lts.original (emitAfter foreignEvent)) = some t ∧
      (Unaffected (Lts.attempts (step .sync .integers .all) (init .integers .all ['/'])
          (Lts.inserted .packet (emitAfter foreignEvent))) t ↔
        NeverNoticed .sync .integers .all ['/'] (emitAfter foreignEvent)) :=
  ⟨_, rfl, unaffected_iff (by simp [emitAfter, foreignEvent]) rfl⟩

/-- An event of the own namespace, a teardown, a packet of another namespace, and the task of the
event. -/
def taskAfter (packet : Packet) : List (Label .integers ⊕ Packet) :=
  [.inl (.packet ⟨.binaryEvent, ['/'], some "\"a\"".toList, none, 1, some [[1]]⟩), .inl .announce,
    .inr packet, .inl (.work 0 0)]

/-- The server disconnects another namespace, and the client cannot send any more; and an event of
another namespace silences a task, while the user disconnects the asynchronous client. -/
theorem foreign_affects :
    (∃ t, Lts.run (step .sync .integers .all) (init .integers .all ['/'])
        (Lts.original (emitAfter (.disconnect "/other".toList))) = some t ∧
      (Lts.attempts (step .sync .integers .all) (init .integers .all ['/'])
        (Lts.inserted .packet (emitAfter (.disconnect "/other".toList)))).outcomes =
          [.error .illegalActionBeforeOpen] ∧
      t.outcomes = [.ok ()]) ∧
    ∃ t, Lts.run (step .async .integers .all) (init .integers .all ['/'])
        (Lts.original (taskAfter foreignEvent)) = some t ∧
      (Lts.attempts (step .async .integers .all) (init .integers .all ['/'])
        (Lts.inserted .packet (taskAfter foreignEvent))).calls = [] ∧
      t.calls = [.callback (.on (.custom ['a']) (.binary [1] none))] :=
  ⟨⟨_, rfl, rfl, rfl⟩, _, rfl, rfl, rfl⟩

end Traffic

end TfSocketio.Socketio
