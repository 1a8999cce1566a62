/-
# Socketio.Callers — many callers on one socket.

The clients let any number of callers hold the socket at once, and a send is one engine.io emit
after another.  Here a step is one call entering `Socket::send` or one of its emits, in any
interleaving, and any emit may fail.

Every send carries a serial number, and so does every engine.io packet it emits; the code has no
such number, it only says which attachment belongs to which header.  `Intact` is the state of the
wire the callers rely on, `Undisturbed` the exact condition on a step that keeps it.
-/
import TfSocketio.Lib.Lts
import TfSocketio.Socketio.Socket
import Mathlib.Logic.Function.Basic

namespace TfSocketio.Socketio

/-! ## The steps -/

/-- One call of `Socket::send`. -/
structure Send where
  serial : Nat
  packet : Packet

/-- The engine.io packets of a send. -/
def Send.block (send : Send) : List (Nat × Engineio.Packet) :=
  send.packet.enginePackets.map fun packet => (send.serial, packet)

structure Callers where
  socket : Socket
  /-- The send each caller is in, with the engine.io packets it has yet to emit. -/
  current : Nat → Option (Send × List Engineio.Packet)
  started : Nat
  /-- The engine.io packets that went out. -/
  log : List (Nat × Engineio.Packet)
  /-- The sends that returned `Ok`, in that order. -/
  sent : List Send

namespace Callers

/-- No call has been made yet; `failures` is what the emits to come will fail with. -/
def init (failures : List (Option Engineio.Error)) : Callers where
  socket := {
    engineClient := { connected := true, failures, emitted := [], incoming := [] }
    connected := true }
  current _ := none
  started := 0
  log := []
  sent := []

inductive Label where
  /-- A caller's `emit`, `emit_with_ack` or `ack` has built a packet and sends it. -/
  | start (caller : Nat) (packet : Packet)
  /-- A caller's send emits its next engine.io packet. -/
  | emit (caller : Nat)

def step (s : Callers) : Label → Option Callers
  | .start i packet =>
      match s.current i with
      | some _ => none
      | none =>
          if s.socket.engineClient.connected && s.socket.connected then
            some { s with
              current := Function.update s.current i
                (some (⟨s.started, packet⟩, packet.enginePackets))
              started := s.started + 1 }
          else some s
  | .emit i =>
      match s.current i with
      | some (send, packet :: rest) =>
          match s.socket.engineClient.emit packet with
          | (.ok (), engineClient) =>
              some { s with
                socket := { s.socket with engineClient }
                current := Function.update s.current i
                  (if rest = [] then none else some (send, rest))
                log := s.log ++ [(send.serial, packet)]
                sent := if rest = [] then s.sent ++ [send] else s.sent }
          | (.error _, engineClient) =>
              -- the `?` after the emit: the send returns and its other packets are never emitted
              some { s with
                socket := { s.socket with engineClient }
                current := Function.update s.current i none }
      | some (_, []) => none
      | none => none

/-- What the next emit fails with, if it does. -/
def failure (s : Callers) : Option Engineio.Error := s.socket.engineClient.failures.head?.join

/-- A caller has emitted some of the packets of its send, and not all of them. -/
def MidSend (s : Callers) (i : Nat) : Prop :=
  ∃ send rest, s.current i = some (send, rest) ∧ rest ≠ send.packet.enginePackets

/-- An emit that succeeds finds no other caller in the middle of a send, and an emit that fails is
the first one of its send. -/
def Undisturbed (s : Callers) : Label → Prop
  | .start _ _ => True
  | .emit i =>
      match s.failure with
      | none => ∀ j, j ≠ i → ¬ s.MidSend j
      | some _ => ¬ s.MidSend i

/-- The packets that went out are the blocks of the sends that returned, one after the other, and
then the beginning of the block of at most one send in progress. -/
def Intact (s : Callers) : Prop :=
  ∃ part, s.log = s.sent.flatMap Send.block ++ part ∧
    (part = [] ∨ ∃ i send rest, s.current i = some (send, rest) ∧
      send.block = part ++ rest.map fun packet => (send.serial, packet))

/-- A receiver of what went out polls exactly the packets sent, if it can decode them. -/
def Reassembled (json : SerdeJson) (s : Callers) : Prop :=
  (∀ send ∈ s.sent, Built json send.packet) →
    (Socket.polls json s.sent.length
      (Socket.opened (arriving s.socket.engineClient.emitted))).1 =
      s.sent.map fun send => .ok send.packet

/-- Binary sends are atomic: every header that went out is followed by its own attachments, and the
receiver reassembles the packets. -/
structure Atomic (json : SerdeJson) (s : Callers) : Prop where
  intact : s.Intact
  reassembled : s.Reassembled json

/-! ## What every run keeps -/

structure Invariant (s : Callers) : Prop where
  engineConnected : s.socket.engineClient.connected = true
  connected : s.socket.connected = true
  emitted : s.socket.engineClient.emitted = s.log.map Prod.snd
  log_lt : ∀ entry ∈ s.log, entry.1 < s.started
  sent_lt : ∀ send ∈ s.sent, send.serial < s.started
  current_lt : ∀ i send rest, s.current i = some (send, rest) → send.serial < s.started
  current_inj : ∀ i j a b rest rest', s.current i = some (a, rest) → s.current j = some (b, rest') →
    a.serial = b.serial → i = j
  sent_ne : ∀ send ∈ s.sent, ∀ i a rest, s.current i = some (a, rest) → send.serial ≠ a.serial
  /-- What a send has emitted and what it has yet to emit is its block. -/
  progress : ∀ i send rest, s.current i = some (send, rest) →
    rest ≠ [] ∧ send.block =
      (s.log.filter fun entry => entry.1 = send.serial) ++
        rest.map fun packet => (send.serial, packet)

theorem invariant_init (failures : List (Option Engineio.Error)) : (init failures).Invariant where
  engineConnected := rfl
  connected := rfl
  emitted := rfl
  log_lt := by simp [init]
  sent_lt := by simp [init]
  current_lt := by simp [init]
  current_inj := by simp [init]
  sent_ne := by simp [init]
  progress := by simp [init]

end Callers

theorem EngineClient.emit_of_success {client : EngineClient} (hc : client.connected = true)
    (hf : client.failures.head?.join = none) (packet : Engineio.Packet) :
    client.emit packet = (.ok (), { client with
      failures := client.failures.tail, emitted := client.emitted ++ [packet] }) := by
  obtain ⟨connected, failures, emitted, incoming⟩ := client
  obtain rfl : connected = true := hc
  rcases failures with _ | ⟨_ | e, failures⟩
  · rfl
  · rfl
  · simp at hf

theorem EngineClient.emit_of_failure {client : EngineClient} {e : Engineio.Error}
    (hc : client.connected = true) (hf : client.failures.head?.join = some e)
    (packet : Engineio.Packet) :
    client.emit packet = (.error e, { client with failures := client.failures.tail }) := by
  obtain ⟨connected, failures, emitted, incoming⟩ := client
  obtain rfl : connected = true := hc
  rcases failures with _ | ⟨_ | e', failures⟩
  · simp at hf
  · simp at hf
  · obtain rfl : e' = e := by simpa using hf
    rfl

namespace Callers

/-! ## What a step can do -/

/-- A caller has entered `Socket::send`. -/
def afterStart (s : Callers) (i : Nat) (packet : Packet) : Callers := { s with
    current := Function.update s.current i (some (⟨s.started, packet⟩, packet.enginePackets))
    started := s.started + 1 }

/-- A caller's send has emitted a packet, and has returned if that was its last one. -/
def afterEmit (s : Callers) (i : Nat) (send : Send) (packet : Engineio.Packet)
    (rest : List Engineio.Packet) : Callers := { s with
    socket := { s.socket with engineClient := { s.socket.engineClient with
      failures := s.socket.engineClient.failures.tail
      emitted := s.socket.engineClient.emitted ++ [packet] } }
    current := Function.update s.current i (if rest = [] then none else some (send, rest))
    log := s.log ++ [(send.serial, packet)]
    sent := if rest = [] then s.sent ++ [send] else s.sent }

/-- A caller's send has returned an error. -/
def afterFail (s : Callers) (i : Nat) : Callers := { s with
    socket := { s.socket with engineClient := { s.socket.engineClient with
      failures := s.socket.engineClient.failures.tail } }
    current := Function.update s.current i none }

section Fields

variable (s : Callers) (i : Nat) (send : Send) (packet : Engineio.Packet)
  (rest : List Engineio.Packet)

@[simp] theorem afterStart_current (packet : Packet) : (s.afterStart i packet).current =
    Function.update s.current i (some (⟨s.started, packet⟩, packet.enginePackets)) := rfl

@[simp] theorem afterStart_log (packet : Packet) : (s.afterStart i packet).log = s.log := rfl

@[simp] theorem afterEmit_emitted :
    (s.afterEmit i send packet rest).socket.engineClient.emitted =
      s.socket.engineClient.emitted ++ [packet] := rfl

@[simp] theorem afterEmit_current : (s.afterEmit i send packet rest).current =
    Function.update s.current i (if rest = [] then none else some (send, rest)) := rfl

@[simp] theorem afterEmit_log :
    (s.afterEmit i send packet rest).log = s.log ++ [(send.serial, packet)] := rfl

@[simp] theorem afterEmit_sent : (s.afterEmit i send packet rest).sent =
    if rest = [] then s.sent ++ [send] else s.sent := rfl

@[simp] theorem afterFail_current :
    (s.afterFail i).current = Function.update s.current i none := rfl

end Fields

/-- **Everything a step can do.** -/
theorem step_cases {s s' : Callers} {a : Label} (hs : s.Invariant) (h : step s a = some s') :
    (∃ i packet, a = .start i packet ∧ s.current i = none ∧ s' = s.afterStart i packet) ∨
    (∃ i send packet rest, a = .emit i ∧ s.current i = some (send, packet :: rest) ∧
      s.failure = none ∧ s' = s.afterEmit i send packet rest) ∨
    (∃ i send packet rest e, a = .emit i ∧ s.current i = some (send, packet :: rest) ∧
      s.failure = some e ∧ s' = s.afterFail i) := by
  cases a with
  | start i packet =>
      simp only [step] at h
      split at h
      · simp at h
      · rename_i hi
        rw [if_pos (by simp [hs.engineConnected, hs.connected])] at h
        exact .inl ⟨i, packet, rfl, hi, (Option.some.inj h).symm⟩
  | emit i =>
      simp only [step] at h
      split at h
      · rename_i send packet rest hi
        cases hf : s.failure with
        | none =>
            rw [EngineClient.emit_of_success hs.engineConnected hf] at h
            exact .inr (.inl ⟨i, send, packet, rest, rfl, hi, rfl, (Option.some.inj h).symm⟩)
        | some e =>
            rw [EngineClient.emit_of_failure hs.engineConnected hf] at h
            exact .inr (.inr ⟨i, send, packet, rest, e, rfl, hi, rfl, (Option.some.inj h).symm⟩)
      · simp at h
      · simp at h

/-- What a caller is in after another caller's state was changed. -/
theorem current_update {s : Callers} {i j : Nat} {next : Option (Send × List Engineio.Packet)}
    {send : Send} {rest : List Engineio.Packet}
    (h : Function.update s.current i next j = some (send, rest)) :
    (j = i ∧ next = some (send, rest)) ∨ (j ≠ i ∧ s.current j = some (send, rest)) := by
  by_cases hj : j = i
  · subst hj
    exact .inl ⟨rfl, by simpa using h⟩
  · exact .inr ⟨hj, by simpa [hj] using h⟩

theorem enginePackets_ne_nil (packet : Packet) : packet.enginePackets ≠ [] := by
  simp [Packet.enginePackets]

theorem Invariant.start {s : Callers} (hs : s.Invariant) {i : Nat} (hi : s.current i = none)
    (packet : Packet) : (s.afterStart i packet).Invariant where
  engineConnected := hs.engineConnected
  connected := hs.connected
  emitted := hs.emitted
  log_lt entry he := Nat.lt_succ_of_lt (hs.log_lt entry he)
  sent_lt send hm := Nat.lt_succ_of_lt (hs.sent_lt send hm)
  current_lt j send rest h := by
    rcases current_update h with ⟨rfl, hn⟩ | ⟨hj, hc⟩
    · obtain ⟨rfl, rfl⟩ := Prod.mk.inj (Option.some.inj hn)
      exact Nat.lt_succ_self _
    · exact Nat.lt_succ_of_lt (hs.current_lt j send rest hc)
  current_inj j k a b rest rest' hj hk hab := by
    rcases current_update hj with ⟨rfl, hjn⟩ | ⟨hji, hjc⟩ <;>
      rcases current_update hk with ⟨rfl, hkn⟩ | ⟨hki, hkc⟩
    · rfl
    · obtain ⟨rfl, rfl⟩ := Prod.mk.inj (Option.some.inj hjn)
      have hlt := hs.current_lt k b rest' hkc
      exact absurd hab (by simp only; omega)
    · obtain ⟨rfl, rfl⟩ := Prod.mk.inj (Option.some.inj hkn)
      have hlt := hs.current_lt j a rest hjc
      exact absurd hab (by simp only; omega)
    · exact hs.current_inj j k a b rest rest' hjc hkc hab
  sent_ne send hm j a rest h := by
    rcases current_update h with ⟨rfl, hn⟩ | ⟨hj, hc⟩
    · obtain ⟨rfl, rfl⟩ := Prod.mk.inj (Option.some.inj hn)
      exact Nat.ne_of_lt (hs.sent_lt send hm)
    · exact hs.sent_ne send hm j a rest hc
  progress j send rest h := by
    rcases current_update h with ⟨rfl, hn⟩ | ⟨hj, hc⟩
    · obtain ⟨rfl, rfl⟩ := Prod.mk.inj (Option.some.inj hn)
      have hfresh : (s.log.filter fun entry => entry.1 = s.started) = [] := by
        rw [List.filter_eq_nil_iff]
        intro entry he
        have hlt := hs.log_lt entry he
        simp only [decide_eq_true_eq]
        omega
      refine ⟨enginePackets_ne_nil packet, ?_⟩
      simp only [afterStart_log, hfresh, List.nil_append, Send.block]
    · exact hs.progress j send rest hc

/-- What the callers are in after an emit: its own send, if packets of it are left, or what they
were in before. -/
theorem afterEmit_cases {s : Callers} {i j : Nat} {send a : Send} {packet : Engineio.Packet}
    {rest restj : List Engineio.Packet}
    (h : (s.afterEmit i send packet rest).current j = some (a, restj)) :
    (j = i ∧ rest ≠ [] ∧ send = a ∧ rest = restj) ∨ (j ≠ i ∧ s.current j = some (a, restj)) := by
  rw [afterEmit_current] at h
  rcases current_update h with ⟨rfl, hn⟩ | hold
  · split at hn
    · simp at hn
    · rename_i hrest
      obtain ⟨ha, hrestj⟩ := Prod.mk.inj (Option.some.inj hn)
      exact .inl ⟨rfl, hrest, ha, hrestj⟩
  · exact .inr hold

/-- A send that an emit leaves as returned had returned before, or is the one that emitted its last
packet. -/
theorem mem_sent_afterEmit {s : Callers} {i : Nat} {send send' : Send} {packet : Engineio.Packet}
    {rest : List Engineio.Packet} (h : send' ∈ (s.afterEmit i send packet rest).sent) :
    send' ∈ s.sent ∨ rest = [] ∧ send' = send := by
  rw [afterEmit_sent] at h
  split at h
  · rename_i hrest
    rcases List.mem_append.mp h with hold | hnew
    · exact .inl hold
    · exact .inr ⟨hrest, List.mem_singleton.mp hnew⟩
  · exact .inl h

theorem Invariant.emit {s : Callers} (hs : s.Invariant) {i : Nat} {send : Send}
    {packet : Engineio.Packet} {rest : List Engineio.Packet}
    (hi : s.current i = some (send, packet :: rest)) :
    (s.afterEmit i send packet rest).Invariant where
  engineConnected := hs.engineConnected
  connected := hs.connected
  emitted := by simp [hs.emitted]
  log_lt entry he := by
    rcases List.mem_append.mp he with he | he
    · exact hs.log_lt entry he
    · obtain rfl := List.mem_singleton.mp he
      exact hs.current_lt i send _ hi
  sent_lt send' hm := by
    rcases mem_sent_afterEmit hm with hm | ⟨-, rfl⟩
    · exact hs.sent_lt send' hm
    · exact hs.current_lt i send' _ hi
  current_lt j a rest' h := by
    rcases afterEmit_cases h with ⟨rfl, -, rfl, -⟩ | ⟨-, hc⟩
    · exact hs.current_lt j send _ hi
    · exact hs.current_lt j a rest' hc
  current_inj j k a b restj restk hj hk hab := by
    have horigin : ∀ j a restj, (s.afterEmit i send packet rest).current j = some (a, restj) →
        ∃ r, s.current j = some (a, r) := by
      intro j a restj h
      rcases afterEmit_cases h with ⟨rfl, -, rfl, -⟩ | ⟨-, hc⟩
      · exact ⟨_, hi⟩
      · exact ⟨_, hc⟩
    obtain ⟨r, hj⟩ := horigin j a restj hj
    obtain ⟨r', hk⟩ := horigin k b restk hk
    exact hs.current_inj j k a b r r' hj hk hab
  sent_ne send' hm j a restj h := by
    rcases afterEmit_cases h with ⟨rfl, hrest, rfl, -⟩ | ⟨hj, hc⟩
    · rw [afterEmit_sent, if_neg hrest] at hm
      exact hs.sent_ne send' hm j send _ hi
    · rcases mem_sent_afterEmit hm with hm | ⟨-, rfl⟩
      · exact hs.sent_ne send' hm j a restj hc
      · exact fun e => hj (hs.current_inj j i a send' _ _ hc hi e.symm)
  progress j a restj h := by
    rcases afterEmit_cases h with ⟨rfl, hrest, rfl, rfl⟩ | ⟨hj, hc⟩
    · refine ⟨hrest, ?_⟩
      rw [(hs.progress j send _ hi).2]
      simp
    · have hne : send.serial ≠ a.serial := fun e =>
        hj (hs.current_inj i j send a _ _ hi hc e).symm
      refine ⟨(hs.progress j a restj hc).1, ?_⟩
      rw [(hs.progress j a restj hc).2]
      simp [hne]

theorem Invariant.fail {s : Callers} (hs : s.Invariant) (i : Nat) : (s.afterFail i).Invariant := by
  have horigin : ∀ j a rest, Function.update s.current i none j = some (a, rest) →
      s.current j = some (a, rest) := by
    intro j a rest h
    rcases current_update h with ⟨rfl, hn⟩ | ⟨hj, hc⟩
    · simp at hn
    · exact hc
  exact {
    engineConnected := hs.engineConnected
    connected := hs.connected
    emitted := hs.emitted
    log_lt := hs.log_lt
    sent_lt := hs.sent_lt
    current_lt := fun j a rest h => hs.current_lt j a rest (horigin j a rest h)
    current_inj := fun j k a b rest rest' hj hk =>
      hs.current_inj j k a b rest rest' (horigin j a rest hj) (horigin k b rest' hk)
    sent_ne := fun send hm j a rest h => hs.sent_ne send hm j a rest (horigin j a rest h)
    progress := fun j a rest h => hs.progress j a rest (horigin j a rest h) }

theorem invariant_step (s : Callers) (a : Label) (s' : Callers) (hs : s.Invariant)
    (h : step s a = some s') : s'.Invariant := by
  rcases step_cases hs h with ⟨i, packet, rfl, hi, rfl⟩ | ⟨i, send, packet, rest, rfl, hi, -, rfl⟩ |
    ⟨i, send, packet, rest, e, rfl, -, -, rfl⟩
  · exact hs.start hi packet
  · exact hs.emit hi
  · exact hs.fail i

/-! ## One caller alone -/

theorem emits_alone {s : Callers} (hs : s.Invariant) {i : Nat} {send : Send}
    {rest : List Engineio.Packet} (hi : s.current i = some (send, rest)) :
    ∃ n s', Lts.run step s (List.replicate n (.emit i)) = some s' ∧ s'.current i = none ∧
      s'.socket =
        { s.socket with engineClient := (s.socket.engineClient.emitAll rest).2 } := by
  induction rest generalizing s with
  | nil => exact absurd rfl (hs.progress i send [] hi).1
  | cons packet rest ih =>
      cases hf : s.failure with
      | some e =>
          have hemit := EngineClient.emit_of_failure hs.engineConnected hf packet
          refine ⟨1, s.afterFail i, ?_, by simp, ?_⟩
          · simp [Lts.run, step, hi, hemit, afterFail]
          · simp [EngineClient.emitAll, hemit, afterFail]
      | none =>
          have hemit := EngineClient.emit_of_success hs.engineConnected hf packet
          have hstep : step s (.emit i) = some (s.afterEmit i send packet rest) := by
            simp [step, hi, hemit, afterEmit]
          by_cases hrest : rest = []
          · refine ⟨1, s.afterEmit i send packet rest, ?_, by simp [hrest], ?_⟩
            · simp [Lts.run, hstep]
            · simp [EngineClient.emitAll, hemit, hrest, afterEmit]
          · obtain ⟨n, s', hrun, hnone, hsocket⟩ := ih (hs.emit hi) (by simp [hrest])
            refine ⟨n + 1, s', ?_, hnone, ?_⟩
            · rw [List.replicate_succ, Lts.run_cons, hstep]
              exact hrun
            · rw [hsocket]
              simp [EngineClient.emitAll, hemit, afterEmit]

/-- The steps of a send that nobody interrupts leave the socket as `Socket::send` does. -/
theorem send_alone {s : Callers} (hs : s.Invariant) {i : Nat} (hi : s.current i = none)
    (packet : Packet) :
    ∃ n s', Lts.run step s (.start i packet :: List.replicate n (.emit i)) = some s' ∧
      s'.current i = none ∧ s'.socket = (s.socket.send packet).2 := by
  have hstart : step s (.start i packet) = some (s.afterStart i packet) := by
    simp [step, hi, hs.engineConnected, hs.connected, afterStart]
  have hcurrent : (s.afterStart i packet).current i =
      some (⟨s.started, packet⟩, packet.enginePackets) := by simp
  obtain ⟨n, s', hrun, hnone, hsocket⟩ := emits_alone (hs.start hi packet) hcurrent
  refine ⟨n, s', ?_, hnone, ?_⟩
  · rw [Lts.run_cons, hstart]
    exact hrun
  · rw [hsocket]
    simp only [afterStart, Socket.send, hs.engineConnected, hs.connected, Bool.and_self, if_true]
    split <;> simp_all

/-! ## When the wire stays intact -/

/-- A caller is in the middle of a send exactly when some of the send is on the wire. -/
theorem Invariant.midSend_iff {s : Callers} (hs : s.Invariant) {i : Nat} {send : Send}
    {rest : List Engineio.Packet} (hi : s.current i = some (send, rest)) :
    s.MidSend i ↔ ∃ entry ∈ s.log, entry.1 = send.serial := by
  obtain ⟨-, hblock⟩ := hs.progress i send rest hi
  have hfilter : rest ≠ send.packet.enginePackets ↔
      (s.log.filter fun entry => entry.1 = send.serial) ≠ [] := by
    constructor
    · intro hne he
      rw [he, List.nil_append, Send.block] at hblock
      have := congrArg (List.map Prod.snd) hblock
      simp [Function.comp_def] at this
      exact hne this.symm
    · rintro hne rfl
      have hlen := congrArg List.length hblock
      simp only [Send.block, List.length_append, List.length_map] at hlen
      exact hne (List.length_eq_zero_iff.mp (by omega))
  have hexists : (s.log.filter fun entry => entry.1 = send.serial) ≠ [] ↔
      ∃ entry ∈ s.log, entry.1 = send.serial := by
    simp [List.filter_eq_nil_iff]
  rw [← hexists, ← hfilter]
  constructor
  · rintro ⟨send', rest', hi', hne⟩
    rw [hi] at hi'
    obtain ⟨rfl, rfl⟩ := Prod.mk.inj (Option.some.inj hi')
    exact hne
  · exact fun hne => ⟨send, rest, hi, hne⟩

theorem serial_of_mem_block {send : Send} {entry : Nat × Engineio.Packet} (h : entry ∈ send.block) :
    entry.1 = send.serial := by
  obtain ⟨packet, -, rfl⟩ := List.mem_map.mp h
  rfl

/-- In an intact log, what a send in progress has emitted is at the end. -/
theorem serial_of_mem_part {s : Callers} {i : Nat} {send : Send} {rest : List Engineio.Packet}
    {part : List (Nat × Engineio.Packet)} (hs : s.Invariant)
    (hlog : s.log = s.sent.flatMap Send.block ++ part) (hi : s.current i = some (send, rest))
    {entry : Nat × Engineio.Packet} (he : entry ∈ s.log) (hserial : entry.1 = send.serial) :
    entry ∈ part := by
  rw [hlog] at he
  rcases List.mem_append.mp he with he | he
  · obtain ⟨send', hm, hb⟩ := List.mem_flatMap.mp he
    have := serial_of_mem_block hb
    exact absurd (this.symm.trans hserial) (hs.sent_ne send' hm i send rest hi)
  · exact he

/-- A new send leaves the wire as it is. -/
theorem Intact.start {s : Callers} (h : s.Intact) {i : Nat} (hi : s.current i = none)
    (packet : Packet) : (s.afterStart i packet).Intact := by
  obtain ⟨part, hlog, hpart⟩ := h
  refine ⟨part, hlog, ?_⟩
  rcases hpart with hnil | ⟨k, send, rest, hk, hblock⟩
  · exact .inl hnil
  · have hki : k ≠ i := by
      rintro rfl
      rw [hi] at hk
      simp at hk
    exact .inr ⟨k, send, rest, by simpa [hki] using hk, hblock⟩

/-- A successful emit keeps the wire intact exactly when no other caller is in the middle of a
send. -/
theorem Intact.emit_iff {s : Callers} (hs : s.Invariant) (h : s.Intact) {i : Nat} {send : Send}
    {packet : Engineio.Packet} {rest : List Engineio.Packet}
    (hi : s.current i = some (send, packet :: rest)) :
    (s.afterEmit i send packet rest).Intact ↔
      ∀ j, j ≠ i → ¬ s.MidSend j := by
  have hafter := hs.emit hi
  obtain ⟨-, hprogress⟩ := hs.progress i send _ hi
  constructor
  · rintro ⟨part, hlog, hpart⟩ j hj hmid
    obtain ⟨sendj, restj, hcj, -⟩ := id hmid
    obtain ⟨entry, he, hserial⟩ := (hs.midSend_iff hcj).mp hmid
    -- the other send's packets are in the unfinished part, and so is what was just emitted
    have hcj' : (s.afterEmit i send packet rest).current j = some (sendj, restj) := by
      simpa [hj] using hcj
    have hmem : entry ∈ part :=
      serial_of_mem_part hafter hlog hcj' (List.mem_append_left _ he) hserial
    rcases hpart with hnil | ⟨k, sendk, restk, -, hblock⟩
    · simp [hnil] at hmem
    · have hlast : (send.serial, packet) ∈ part := by
        have hne : part ≠ [] := List.ne_nil_of_mem hmem
        have hget := congrArg List.getLast? hlog
        rw [afterEmit_log, List.getLast?_concat, List.getLast?_append_of_ne_nil _ hne] at hget
        exact List.mem_of_getLast? hget.symm
      have hserials : ∀ entry ∈ part, entry.1 = sendk.serial := fun entry he =>
        serial_of_mem_block (by rw [hblock]; exact List.mem_append_left _ he)
      have heq : sendj.serial = send.serial := by
        rw [← hserial, hserials _ hmem, ← hserials _ hlast]
      exact hj (hs.current_inj j i sendj send _ _ hcj hi heq)
  · intro hothers
    obtain ⟨part, hlog, hpart⟩ := h
    -- the unfinished part is what this send has emitted so far
    have hdone : part = s.log.filter fun entry => entry.1 = send.serial := by
      have hsent :
          (s.sent.flatMap Send.block).filter (fun entry => entry.1 = send.serial) = [] := by
        rw [List.filter_eq_nil_iff]
        intro entry he
        obtain ⟨send', hm, hb⟩ := List.mem_flatMap.mp he
        simpa [serial_of_mem_block hb] using hs.sent_ne send' hm i send _ hi
      have hown : ∀ entry ∈ part, entry.1 = send.serial := by
        intro entry he
        rcases hpart with hnil | ⟨k, sendk, restk, hk, hblock⟩
        · simp [hnil] at he
        · have hserial : entry.1 = sendk.serial :=
            serial_of_mem_block (by rw [hblock]; exact List.mem_append_left _ he)
          have hmid : s.MidSend k :=
            (hs.midSend_iff hk).mpr ⟨entry, by rw [hlog]; exact List.mem_append_right _ he, hserial⟩
          obtain rfl : k = i := Classical.byContradiction fun hki => hothers k hki hmid
          rw [hi] at hk
          rw [hserial, (Prod.mk.inj (Option.some.inj hk)).1]
      have hpartself : part.filter (fun entry => entry.1 = send.serial) = part := by
        rw [List.filter_eq_self]
        intro entry he
        simpa using hown entry he
      rw [hlog, List.filter_append, hsent, hpartself, List.nil_append]
    have hblock : send.block = part ++ (send.serial, packet) ::
        rest.map fun packet => (send.serial, packet) := by
      rw [hprogress, ← hdone]
      rfl
    by_cases hrest : rest = []
    · refine ⟨[], ?_, .inl rfl⟩
      simp [hrest, hlog, hblock]
    · refine ⟨part ++ [(send.serial, packet)], ?_, .inr ⟨i, send, rest, ?_, ?_⟩⟩
      · simp [hrest, hlog]
      · simp [hrest]
      · simp [hblock]

/-- A failing emit keeps the wire intact exactly when it is the first one of its send. -/
theorem Intact.fail_iff {s : Callers} (hs : s.Invariant) (h : s.Intact) {i : Nat} {send : Send}
    {rest : List Engineio.Packet} (hi : s.current i = some (send, rest)) :
    (s.afterFail i).Intact ↔ ¬ s.MidSend i := by
  constructor
  · rintro ⟨part, hlog, hpart⟩ hmid
    obtain ⟨entry, he, hserial⟩ := (hs.midSend_iff hi).mp hmid
    have hmem : entry ∈ part := serial_of_mem_part hs hlog hi he hserial
    rcases hpart with hnil | ⟨k, sendk, restk, hk, hblock⟩
    · simp [hnil] at hmem
    · rcases current_update hk with ⟨-, hn⟩ | ⟨hki, hck⟩
      · simp at hn
      · have hserialk : entry.1 = sendk.serial :=
          serial_of_mem_block (by rw [hblock]; exact List.mem_append_left _ hmem)
        exact hki (hs.current_inj k i sendk send _ _ hck hi (hserialk.symm.trans hserial))
  · intro hmid
    obtain ⟨part, hlog, hpart⟩ := h
    refine ⟨part, hlog, ?_⟩
    rcases hpart with hnil | ⟨k, sendk, restk, hk, hblock⟩
    · exact .inl hnil
    · by_cases hki : k = i
      · subst hki
        refine .inl (List.eq_nil_iff_forall_not_mem.mpr fun entry he => hmid ?_)
        exact (hs.midSend_iff hk).mpr ⟨entry, by rw [hlog]; exact List.mem_append_right _ he,
          serial_of_mem_block (by rw [hblock]; exact List.mem_append_left _ he)⟩
      · exact .inr ⟨k, sendk, restk, by simpa [hki] using hk, hblock⟩

theorem intact_step_iff (s : Callers) (a : Label) (s' : Callers) (hs : s.Invariant)
    (h : s.Intact) (hstep : step s a = some s') : s'.Intact ↔ s.Undisturbed a := by
  rcases step_cases hs hstep with ⟨i, packet, rfl, hi, rfl⟩ |
    ⟨i, send, packet, rest, rfl, hi, hf, rfl⟩ | ⟨i, send, packet, rest, e, rfl, hi, hf, rfl⟩
  · exact iff_of_true (h.start hi packet) trivial
  · rw [h.emit_iff hs hi]
    simp [Undisturbed, hf]
  · rw [h.fail_iff hs hi]
    simp [Undisturbed, hf]

/-- A receiver of an intact wire polls the packets sent. -/
theorem Intact.reassembled {s : Callers} (hs : s.Invariant) (h : s.Intact) (json : SerdeJson) :
    s.Reassembled json := by
  intro hbuilt
  obtain ⟨part, hlog, -⟩ := h
  have hwire : s.socket.engineClient.emitted =
      (s.sent.map Send.packet).flatMap Packet.enginePackets ++ part.map Prod.snd := by
    rw [hs.emitted, hlog, List.map_append, List.map_flatMap, List.flatMap_map]
    simp [Send.block, Function.comp_def]
  have hpackets : ∀ packet ∈ s.sent.map Send.packet, Built json packet := by simpa using hbuilt
  have hpolls := (Socket.polls_enginePackets hpackets
    (Socket.opened (arriving s.socket.engineClient.emitted))
    (arriving (part.map Prod.snd)) (by simp [Socket.opened, hwire])).1
  simpa [List.map_map, Function.comp_def] using hpolls

/-- **Binary sends stay atomic exactly as long as every step is undisturbed**: no emit succeeds
while another caller is in the middle of a send, and no emit fails in the middle of its own. -/
theorem atomic_iff_undisturbed (json : SerdeJson) (failures : List (Option Engineio.Error))
    (labels : List Label) :
    Lts.Throughout step (Atomic json) (init failures) labels ↔
      Lts.Along step Undisturbed (init failures) labels := by
  have hinit : (init failures).Intact := ⟨[], rfl, .inl rfl⟩
  rw [← Lts.throughout_iff_along (fun s a s' hs _ => invariant_step s a s' hs) intact_step_iff
    (invariant_init failures) hinit]
  constructor
  · intro h before after t has ht
    exact (h before after t has ht).intact
  · intro h before after t has ht
    have hintact := h before after t has ht
    have hinv : t.Invariant := Lts.invariant invariant_step (invariant_init failures) ht
    exact ⟨hintact, hintact.reassembled hinv json⟩

/-- Two callers send a binary event each; the second header goes out before the first
attachment. -/
theorem not_atomic_two_binary_events :
    ¬ Lts.Throughout step (Atomic .integers) (init [])
      [.start 0 placeholderEvent, .start 1 placeholderEvent,
        .emit 0, .emit 1, .emit 0, .emit 1] := by
  intro h
  obtain ⟨t, ht, hlog, hsent⟩ : ∃ t,
      Lts.run step (init []) [.start 0 placeholderEvent, .start 1 placeholderEvent,
        .emit 0, .emit 1, .emit 0, .emit 1] = some t ∧
      t.log.map Prod.fst = [0, 1, 0, 1] ∧
      (t.sent.flatMap Send.block).map Prod.fst = [0, 0, 1, 1] := ⟨_, rfl, rfl, rfl⟩
  obtain ⟨part, heq, -⟩ := (h _ [] t (List.append_nil _).symm ht).intact
  rw [heq, List.map_append, hsent] at hlog
  simp at hlog

end Callers

end TfSocketio.Socketio
