/-
# Engineio.Retirement — the asynchronous socket after its transport was given up.

All clones of the asynchronous socket share a slot with the transport, a `connected` flag, a
`closing` flag that the sends in progress watch, and a lock that lets one send through at a time.
`disconnect` empties the slot and sets the two flags in one critical section; from there on it alone
has the transport, and sends the close packet over it.

A step is a call, or a task's stretch from one await point to the next, with any number of tasks in
any order.  What the transport answers and whether a free lock is granted is in the label.
-/
import TfSocketio.Engineio.Packet
import TfSocketio.Lib.Lts
import Mathlib.Logic.Function.Basic

namespace TfSocketio.Engineio.Async

/-! ## The steps -/

inductive Call where
  | connect
  | emit
  /-- `handle_incoming_packet`. -/
  | incoming
  | disconnect
  deriving DecidableEq, Repr

/-- Where a task stands in a call. -/
inductive Task where
  | idle
  /-- At the lock of `last_ping`; a pong comes next. -/
  | pinging (call : Call)
  /-- In the select of `emit`, at the send lock. -/
  | waiting (call : Call) (packet : Packet)
  /-- In the select of `emit`, with the send lock; the transport has the packet. -/
  | emitting (call : Call)
  /-- In `disconnect`, at the send lock, with the transport it took. -/
  | closing
  /-- In `disconnect`, with the send lock; the transport has the close packet. -/
  | closed
  deriving DecidableEq, Repr

/-- A packet handed to the transport, and whether the slot was empty then. -/
structure Handed where
  packet : Packet
  retired : Bool
  deriving DecidableEq, Repr

/-- A call that returned, and whether the slot was empty then. -/
structure Outcome where
  call : Call
  result : Except Error Unit
  retired : Bool

/-- A `connect` or an `emit` that returns with an empty slot returns `IllegalActionBeforeOpen`. -/
def Outcome.Refused (outcome : Outcome) : Prop :=
  outcome.retired = true → outcome.call = .connect ∨ outcome.call = .emit →
    outcome.result = .error .illegalActionBeforeOpen

structure AsyncSocket where
  /-- Whether there is a transport in the slot. -/
  transport : Bool
  closing : Bool
  connected : Bool
  /-- The task that has the send lock. -/
  sendLock : Option Nat
  tasks : Nat → Task
  handed : List Handed
  outcomes : List Outcome

def pongPacket : Packet := ⟨.pong, []⟩

def closePacket : Packet := ⟨.close, []⟩

namespace AsyncSocket

/-- `Socket::new`. -/
def init : AsyncSocket where
  transport := true
  closing := false
  connected := false
  sendLock := none
  tasks _ := .idle
  handed := []
  outcomes := []

variable (s : AsyncSocket) (i : Nat)

def goto (task : Task) : AsyncSocket := { s with tasks := Function.update s.tasks i task }

/-- A task drops the guard of the send lock, if it has it. -/
def release : AsyncSocket := { s with sendLock := if s.sendLock = some i then none else s.sendLock }

/-- A call returns. -/
def finish (call : Call) (result : Except Error Unit) : AsyncSocket :=
  { (s.release i).goto i .idle with outcomes := s.outcomes ++ [⟨call, result, !s.transport⟩] }

def refuse (call : Call) : AsyncSocket := s.finish i call (.error .illegalActionBeforeOpen)

/-- A task with the send lock hands a packet to the transport. -/
def hand (task : Task) (packet : Packet) : AsyncSocket :=
  { s.goto i task with sendLock := some i, handed := s.handed ++ [⟨packet, !s.transport⟩] }

/-- The select of `emit` is polled before it has the send lock.  It is biased: `closing` first. -/
def pollEmit (call : Call) (packet : Packet) (granted : Bool) : AsyncSocket :=
  if s.closing then s.refuse i call
  else if granted && s.sendLock.isNone then s.hand i (.emitting call) packet
  else s.goto i (.waiting call packet)

/-- `emit`, up to its await point. -/
def emit (call : Call) (packet : Packet) (granted : Bool) : AsyncSocket :=
  if s.connected then
    if s.transport then s.pollEmit i call packet granted
    else s.refuse i call
  else s.refuse i call

/-- The close frame of `disconnect`, which has a second to get through. -/
def pollClose (granted : Bool) : AsyncSocket :=
  if granted && s.sendLock.isNone then s.hand i .closed closePacket else s.goto i .closing

/-- The critical section of `disconnect`. -/
def retire : AsyncSocket := { s with transport := false, connected := false, closing := true }

inductive Label where
  | connect (i : Nat)
  | emit (i : Nat) (packet : Packet) (granted : Bool)
  | incoming (i : Nat) (packet : Packet)
  /-- `disconnect`, called by a user or after a missed ping. -/
  | disconnect (i : Nat) (granted : Bool)
  /-- A waiting task is polled. -/
  | poll (i : Nat) (granted : Bool)
  /-- The transport is done with the packet of a task. -/
  | sent (i : Nat) (result : Except Error Unit)
  /-- The second of a `disconnect` is over. -/
  | timeout (i : Nat)
  /-- The future of a call is dropped. -/
  | cancel (i : Nat)

/-- `handle_incoming_packet`, up to its first await point. -/
def incoming (packet : Packet) : AsyncSocket :=
  match packet.packetId with
  | .ping => s.goto i (.pinging .incoming)
  -- `handle_close` takes no lock
  | .close => { s with connected := false }.finish i .incoming (.ok ())
  | .pong => s.finish i .incoming (.error .invalidPacket)
  | .«open» => s.finish i .incoming (.error .invalidPacket)
  | _ => s.finish i .incoming (.ok ())

def step (s : AsyncSocket) : Label → Option AsyncSocket
  | .connect i =>
      if s.tasks i = .idle then
        if s.transport then some { s.goto i (.pinging .connect) with connected := true }
        else some (s.refuse i .connect)
      else none
  | .emit i packet granted =>
      if s.tasks i = .idle then some (s.emit i .emit packet granted) else none
  | .incoming i packet => if s.tasks i = .idle then some (s.incoming i packet) else none
  | .disconnect i granted =>
      if s.tasks i = .idle then
        if s.transport then some (s.retire.pollClose i granted)
        else some (s.retire.finish i .disconnect (.ok ()))
      else none
  | .poll i granted =>
      match s.tasks i with
      | .pinging call => some (s.emit i call pongPacket granted)
      | .waiting call packet => some (s.pollEmit i call packet granted)
      | .emitting call => if s.closing then some (s.refuse i call) else some s
      | .closing => some (s.pollClose i granted)
      | .closed => some s
      | .idle => none
  | .sent i result =>
      match s.tasks i with
      -- the select looks at `closing` before it looks at the transport
      | .emitting call =>
          some (if s.closing then s.refuse i call else s.finish i call result)
      | .closed => some (s.finish i .disconnect result)
      | _ => none
  | .timeout i =>
      match s.tasks i with
      | .closing => some (s.finish i .disconnect (.error .incompleteIo))
      | .closed => some (s.finish i .disconnect (.error .incompleteIo))
      | _ => none
  | .cancel i =>
      if s.tasks i = .idle then none else some ((s.release i).goto i .idle)

/-- **Everything a step can do.** -/
inductive Transition (s : AsyncSocket) : Label → AsyncSocket → Prop
  | connect (i : Nat) (hidle : s.tasks i = .idle) (hfull : s.transport = true) :
      Transition s (.connect i) { s.goto i (.pinging .connect) with connected := true }
  | connectEmpty (i : Nat) (hidle : s.tasks i = .idle) (hempty : s.transport = false) :
      Transition s (.connect i) (s.refuse i .connect)
  | emit (i : Nat) (packet : Packet) (granted : Bool) (hidle : s.tasks i = .idle) :
      Transition s (.emit i packet granted) (s.emit i .emit packet granted)
  | incoming (i : Nat) (packet : Packet) (hidle : s.tasks i = .idle) :
      Transition s (.incoming i packet) (s.incoming i packet)
  | disconnect (i : Nat) (granted : Bool) (hidle : s.tasks i = .idle)
      (hfull : s.transport = true) :
      Transition s (.disconnect i granted) (s.retire.pollClose i granted)
  | disconnectEmpty (i : Nat) (granted : Bool) (hidle : s.tasks i = .idle)
      (hempty : s.transport = false) :
      Transition s (.disconnect i granted) (s.retire.finish i .disconnect (.ok ()))
  | pollPong (i : Nat) (granted : Bool) (call : Call) (hi : s.tasks i = .pinging call) :
      Transition s (.poll i granted) (s.emit i call pongPacket granted)
  | pollEmit (i : Nat) (granted : Bool) (call : Call) (packet : Packet)
      (hi : s.tasks i = .waiting call packet) :
      Transition s (.poll i granted) (s.pollEmit i call packet granted)
  | pollRetired (i : Nat) (granted : Bool) (call : Call) (hi : s.tasks i = .emitting call)
      (hclosing : s.closing = true) : Transition s (.poll i granted) (s.refuse i call)
  | pollEmitting (i : Nat) (granted : Bool) (call : Call) (hi : s.tasks i = .emitting call)
      (hopen : s.closing = false) : Transition s (.poll i granted) s
  | pollClose (i : Nat) (granted : Bool) (hi : s.tasks i = .closing) :
      Transition s (.poll i granted) (s.pollClose i granted)
  | pollClosed (i : Nat) (granted : Bool) (hi : s.tasks i = .closed) :
      Transition s (.poll i granted) s
  | sentRetired (i : Nat) (result : Except Error Unit) (call : Call)
      (hi : s.tasks i = .emitting call) (hclosing : s.closing = true) :
      Transition s (.sent i result) (s.refuse i call)
  | sent (i : Nat) (result : Except Error Unit) (call : Call) (hi : s.tasks i = .emitting call)
      (hopen : s.closing = false) : Transition s (.sent i result) (s.finish i call result)
  | sentClose (i : Nat) (result : Except Error Unit) (hi : s.tasks i = .closed) :
      Transition s (.sent i result) (s.finish i .disconnect result)
  | timeout (i : Nat) (hi : s.tasks i = .closing ∨ s.tasks i = .closed) :
      Transition s (.timeout i) (s.finish i .disconnect (.error .incompleteIo))
  | cancel (i : Nat) (hbusy : s.tasks i ≠ .idle) :
      Transition s (.cancel i) ((s.release i).goto i .idle)

theorem step_cases {s s' : AsyncSocket} {label : Label} (h : step s label = some s') :
    Transition s label s' := by
  cases label with
  | connect i =>
      obtain ⟨hidle, hs⟩ := Option.ite_none_right_eq_some.mp h
      cases hslot : s.transport with
      | true =>
          rw [if_pos hslot] at hs
          obtain rfl := Option.some.inj hs
          exact .connect i hidle hslot
      | false =>
          rw [if_neg (Bool.not_eq_true _ ▸ hslot)] at hs
          obtain rfl := Option.some.inj hs
          exact .connectEmpty i hidle hslot
  | emit i packet granted =>
      obtain ⟨hidle, hs⟩ := Option.ite_none_right_eq_some.mp h
      obtain rfl := Option.some.inj hs
      exact .emit i packet granted hidle
  | incoming i packet =>
      obtain ⟨hidle, hs⟩ := Option.ite_none_right_eq_some.mp h
      obtain rfl := Option.some.inj hs
      exact .incoming i packet hidle
  | disconnect i granted =>
      obtain ⟨hidle, hs⟩ := Option.ite_none_right_eq_some.mp h
      cases hslot : s.transport with
      | true =>
          rw [if_pos hslot] at hs
          obtain rfl := Option.some.inj hs
          exact .disconnect i granted hidle hslot
      | false =>
          rw [if_neg (Bool.not_eq_true _ ▸ hslot)] at hs
          obtain rfl := Option.some.inj hs
          exact .disconnectEmpty i granted hidle hslot
  | poll i granted =>
      simp only [step] at h
      split at h
      · rename_i call hi
        obtain rfl := Option.some.inj h
        exact .pollPong i granted call hi
      · rename_i call packet hi
        obtain rfl := Option.some.inj h
        exact .pollEmit i granted call packet hi
      · rename_i call hi
        split at h
        · rename_i hclosing
          obtain rfl := Option.some.inj h
          exact .pollRetired i granted call hi hclosing
        · rename_i hopen
          obtain rfl := Option.some.inj h
          exact .pollEmitting i granted call hi (Bool.eq_false_iff.mpr hopen)
      · rename_i hi
        obtain rfl := Option.some.inj h
        exact .pollClose i granted hi
      · rename_i hi
        obtain rfl := Option.some.inj h
        exact .pollClosed i granted hi
      · cases h
  | sent i result =>
      simp only [step] at h
      split at h
      · rename_i call hi
        split at h
        · rename_i hclosing
          obtain rfl := Option.some.inj h
          exact .sentRetired i result call hi hclosing
        · rename_i hopen
          obtain rfl := Option.some.inj h
          exact .sent i result call hi (Bool.eq_false_iff.mpr hopen)
      · rename_i hi
        obtain rfl := Option.some.inj h
        exact .sentClose i result hi
      · cases h
  | timeout i =>
      simp only [step] at h
      split at h
      · rename_i hi
        obtain rfl := Option.some.inj h
        exact .timeout i (.inl hi)
      · rename_i hi
        obtain rfl := Option.some.inj h
        exact .timeout i (.inr hi)
      · cases h
  | cancel i =>
      obtain ⟨hbusy, hs⟩ := Option.ite_none_left_eq_some.mp h
      obtain rfl := Option.some.inj hs
      exact .cancel i hbusy

/-! ## What holds in every state -/

/-- The packets handed to the transport after the slot was emptied. -/
def late (s : AsyncSocket) : List Packet := (s.handed.filter Handed.retired).map Handed.packet

structure Invariant (s : AsyncSocket) : Prop where
  slot : s.transport = !s.closing
  disconnected : s.closing = true → s.connected = false
  refused : ∀ outcome ∈ s.outcomes, outcome.Refused
  /-- One task has the transport that was in the slot. -/
  closer : ∀ i j, s.tasks i = .closing → s.tasks j = .closing → i = j
  open_late : s.closing = false → s.late = []
  open_closer : s.closing = false → ∀ i, s.tasks i ≠ .closing
  late : s.late = [] ∨ s.late = [closePacket] ∧ ∀ i, s.tasks i ≠ .closing

theorem invariant_init : init.Invariant where
  slot := rfl
  disconnected := by simp [init]
  refused := by simp [init]
  closer := by simp [init]
  open_late := by simp [init, AsyncSocket.late]
  open_closer := by simp [init]
  late := .inl rfl

@[simp] theorem goto_tasks_self (s : AsyncSocket) (i : Nat) (task : Task) :
    (s.goto i task).tasks i = task := by simp [goto]

theorem goto_tasks (s : AsyncSocket) (i : Nat) (task : Task) (j : Nat) :
    (s.goto i task).tasks j = if j = i then task else s.tasks j := by
  simp [goto, Function.update_apply]

theorem goto_goto (s : AsyncSocket) (i : Nat) (task task' : Task) :
    (s.goto i task).goto i task' = s.goto i task' := by
  simp [goto]

section Operations

variable {s : AsyncSocket} (hs : s.Invariant) (i : Nat)
include hs

/-- A task goes on without the transport of the slot. -/
theorem Invariant.goto {task : Task} (htask : task ≠ .closing) : (s.goto i task).Invariant where
  slot := hs.slot
  disconnected := hs.disconnected
  refused := hs.refused
  closer j k hj hk := by
    rw [goto_tasks] at hj hk
    split at hj
    · exact absurd hj htask
    · split at hk
      · exact absurd hk htask
      · exact hs.closer j k hj hk
  open_late := hs.open_late
  open_closer hopen j := by
    rw [goto_tasks]
    split
    · exact htask
    · exact hs.open_closer hopen j
  late := by
    rcases hs.late with hlate | ⟨hlate, hcloser⟩
    · exact .inl hlate
    · refine .inr ⟨hlate, fun j => ?_⟩
      rw [goto_tasks]
      split
      · exact htask
      · exact hcloser j

theorem Invariant.release : (s.release i).Invariant := { hs with }

theorem Invariant.disconnect : Invariant { s with connected := false } :=
  { hs with disconnected := fun _ => rfl }

/-- A call returns; if it is a `connect` or an `emit` and the slot is empty, it was refused. -/
theorem Invariant.finish {call : Call} {result : Except Error Unit}
    (hresult : s.transport = false → call = .connect ∨ call = .emit →
      result = .error .illegalActionBeforeOpen) : (s.finish i call result).Invariant := by
  have hidle : ((s.release i).goto i .idle).Invariant := (hs.release i).goto i (by simp)
  refine { hidle with refused := ?_ }
  intro outcome houtcome
  rcases List.mem_append.mp houtcome with hold | hnew
  · exact hs.refused outcome hold
  · obtain rfl := List.mem_singleton.mp hnew
    intro hretired hcall
    exact hresult (by simpa using hretired) hcall

theorem Invariant.finish_disconnect (result : Except Error Unit) :
    (s.finish i .disconnect result).Invariant := by
  apply hs.finish
  rintro - (hcall | hcall) <;> cases hcall

theorem Invariant.refuse (call : Call) : (s.refuse i call).Invariant :=
  hs.finish i fun _ _ => rfl

/-- A packet is handed on while the slot is full. -/
theorem Invariant.hand {task : Task} (htask : task ≠ .closing) (packet : Packet)
    (hopen : s.closing = false) : (s.hand i task packet).Invariant := by
  have hfull : s.transport = true := by rw [hs.slot, hopen]; rfl
  have hlate : (s.hand i task packet).late = s.late := by
    simp [AsyncSocket.late, AsyncSocket.hand, AsyncSocket.goto, hfull]
  have hgoto := hs.goto i htask
  exact { hgoto with
    open_late := fun h => by rw [hlate]; exact hs.open_late h
    late := by rw [hlate]; exact hgoto.late }

theorem Invariant.pollEmit (call : Call) (packet : Packet) (granted : Bool) :
    (s.pollEmit i call packet granted).Invariant := by
  unfold AsyncSocket.pollEmit
  split
  · exact hs.refuse i call
  · rename_i hclosing
    split
    · exact hs.hand i (by simp) packet (by simpa using hclosing)
    · exact hs.goto i (by simp)

theorem Invariant.emit (call : Call) (packet : Packet) (granted : Bool) :
    (s.emit i call packet granted).Invariant := by
  unfold AsyncSocket.emit
  split
  · split
    · exact hs.pollEmit i call packet granted
    · exact hs.refuse i call
  · exact hs.refuse i call

theorem Invariant.incoming (packet : Packet) : (s.incoming i packet).Invariant := by
  have hreturns : ∀ result, (s.finish i .incoming result).Invariant := by
    intro result
    apply hs.finish
    rintro - (hcall | hcall) <;> cases hcall
  unfold AsyncSocket.incoming
  split
  · exact hs.goto i (by simp)
  · apply hs.disconnect.finish
    rintro - (hcall | hcall) <;> cases hcall
  · exact hreturns _
  · exact hreturns _
  · exact hreturns _

/-- The task with the transport hands on the close packet, or waits. -/
theorem Invariant.pollClose (hi : s.tasks i = .closing) (granted : Bool) :
    (s.pollClose i granted).Invariant := by
  have hclosing : s.closing = true := by
    cases hclosing : s.closing with
    | true => rfl
    | false => exact absurd hi (hs.open_closer hclosing i)
  have hempty : s.transport = false := by rw [hs.slot, hclosing]; rfl
  -- nothing was handed on before
  have hlate : s.late = [] := by
    rcases hs.late with hlate | ⟨-, hcloser⟩
    · exact hlate
    · exact absurd hi (hcloser i)
  unfold AsyncSocket.pollClose
  split
  · have hgoto : (s.goto i .closed).Invariant := hs.goto i (by simp)
    have hnone : ∀ j, (s.goto i .closed).tasks j ≠ .closing := by
      intro j hj
      rw [goto_tasks] at hj
      split at hj
      · cases hj
      · rename_i hji
        exact hji (hs.closer j i hj hi)
    have hhanded : (s.hand i .closed closePacket).late = [closePacket] := by
      have hfilter : s.handed.filter Handed.retired = [] := List.map_eq_nil_iff.mp hlate
      simp [AsyncSocket.late, AsyncSocket.hand, hempty, hfilter]
    refine { hgoto with
      open_late := ?_
      late := .inr ⟨hhanded, hnone⟩ }
    intro hopen
    exact absurd (hclosing.symm.trans hopen) (by simp)
  · have hsame : s.goto i .closing = s := by
      rw [AsyncSocket.goto, ← hi, Function.update_eq_self]
    rw [hsame]
    exact hs

/-- The critical section of `disconnect` leaves the transport to the task that called it. -/
theorem Invariant.retire (hfull : s.transport = true) : (s.retire.goto i .closing).Invariant := by
  have hopen : s.closing = false := by
    cases hclosing : s.closing with
    | false => rfl
    | true => rw [hs.slot, hclosing] at hfull; cases hfull
  have hself : ∀ j, (s.retire.goto i .closing).tasks j = .closing → j = i := by
    intro j hj
    rw [goto_tasks] at hj
    split at hj
    · assumption
    · exact absurd hj (hs.open_closer hopen j)
  exact {
    slot := rfl
    disconnected := fun _ => rfl
    refused := hs.refused
    closer := fun j k hj hk => (hself j hj).trans (hself k hk).symm
    open_late := fun h => by cases h
    open_closer := fun h => by cases h
    late := .inl (hs.open_late hopen) }

omit i in
/-- There is nothing to give up a second time. -/
theorem Invariant.retire_of_empty (hempty : s.transport = false) : s.retire = s := by
  have hclosing : s.closing = true := by simpa [hempty] using hs.slot
  have hdisconnected := hs.disconnected hclosing
  obtain ⟨transport, closing, connected, sendLock, tasks, handed, outcomes⟩ := s
  obtain rfl : transport = false := hempty
  obtain rfl : closing = true := hclosing
  obtain rfl : connected = false := hdisconnected
  rfl

end Operations

/-- The critical section of a `disconnect`, and the first poll of its close frame. -/
theorem Invariant.retire_pollClose {s : AsyncSocket} (hs : s.Invariant) (i : Nat)
    (hfull : s.transport = true) (granted : Bool) : (s.retire.pollClose i granted).Invariant := by
  have hretired := (hs.retire i hfull).pollClose i (goto_tasks_self _ i _) granted
  have hsame : (s.retire.goto i .closing).pollClose i granted = s.retire.pollClose i granted := by
    unfold AsyncSocket.pollClose AsyncSocket.hand
    rw [goto_goto, goto_goto]
    rfl
  rwa [hsame] at hretired

theorem Invariant.step {s s' : AsyncSocket} {label : Label} (hs : s.Invariant)
    (h : AsyncSocket.step s label = some s') : s'.Invariant := by
  cases step_cases h with
  | connect i hidle hfull =>
      have hopen : s.closing ≠ true := by
        intro hclosing
        rw [hs.slot, hclosing] at hfull
        cases hfull
      have hgoto : (s.goto i (.pinging .connect)).Invariant := hs.goto i (by simp)
      exact { hgoto with disconnected := fun hclosing => absurd hclosing hopen }
  | connectEmpty i hidle hempty => exact hs.refuse i .connect
  | emit i packet granted hidle => exact hs.emit i .emit packet granted
  | incoming i packet hidle => exact hs.incoming i packet
  | disconnect i granted hidle hfull => exact hs.retire_pollClose i hfull granted
  | disconnectEmpty i granted hidle hempty =>
      rw [hs.retire_of_empty hempty]
      exact hs.finish_disconnect i _
  | pollPong i granted call hi => exact hs.emit i call pongPacket granted
  | pollEmit i granted call packet hi => exact hs.pollEmit i call packet granted
  | pollRetired i granted call hi hclosing => exact hs.refuse i call
  | pollEmitting i granted call hi hopen => exact hs
  | pollClose i granted hi => exact hs.pollClose i hi granted
  | pollClosed i granted hi => exact hs
  | sentRetired i result call hi hclosing => exact hs.refuse i call
  | sent i result call hi hopen =>
      apply hs.finish i
      intro hempty
      rw [hs.slot, hopen] at hempty
      cases hempty
  | sentClose i result hi => exact hs.finish_disconnect i result
  | timeout i hi => exact hs.finish_disconnect i _
  | cancel i hbusy => exact (hs.release i).goto i (by simp)

theorem invariant_run {labels : List Label} {s : AsyncSocket}
    (h : Lts.run step init labels = some s) : s.Invariant :=
  Lts.invariant (fun _ _ _ hs h => hs.step h) invariant_init h

section Slot

variable (s : AsyncSocket) (i : Nat) (call : Call) (packet : Packet) (granted : Bool)

@[simp] theorem pollEmit_transport :
    (s.pollEmit i call packet granted).transport = s.transport := by
  unfold pollEmit
  split
  · rfl
  · split <;> rfl

@[simp] theorem emit_transport : (s.emit i call packet granted).transport = s.transport := by
  unfold emit
  split
  · split
    · exact s.pollEmit_transport i call packet granted
    · rfl
  · rfl

@[simp] theorem pollClose_transport : (s.pollClose i granted).transport = s.transport := by
  unfold pollClose
  split <;> rfl

@[simp] theorem incoming_transport : (s.incoming i packet).transport = s.transport := by
  unfold incoming
  split <;> rfl

end Slot

/-- A `disconnect` empties the slot. -/
theorem disconnect_empties {s s' : AsyncSocket} {i : Nat} {granted : Bool}
    (h : step s (.disconnect i granted) = some s') : s'.transport = false := by
  cases step_cases h with
  | disconnect _ _ hidle hfull => exact pollClose_transport _ i granted
  | disconnectEmpty _ _ hidle hempty => rfl

/-- Nothing else touches it. -/
theorem step_slot {s s' : AsyncSocket} {label : Label} (h : step s label = some s') :
    s'.transport = s.transport ∨ ∃ i granted, label = .disconnect i granted := by
  cases step_cases h with
  | connect i hidle hfull => exact .inl rfl
  | connectEmpty i hidle hempty => exact .inl rfl
  | emit i packet granted hidle => exact .inl (s.emit_transport i .emit packet granted)
  | incoming i packet hidle => exact .inl (s.incoming_transport i packet)
  | disconnect i granted hidle hfull => exact .inr ⟨i, granted, rfl⟩
  | disconnectEmpty i granted hidle hempty => exact .inr ⟨i, granted, rfl⟩
  | pollPong i granted call hi => exact .inl (s.emit_transport i call pongPacket granted)
  | pollEmit i granted call packet hi => exact .inl (s.pollEmit_transport i call packet granted)
  | pollRetired i granted call hi hclosing => exact .inl rfl
  | pollEmitting i granted call hi hopen => exact .inl rfl
  | pollClose i granted hi => exact .inl (s.pollClose_transport i granted)
  | pollClosed i granted hi => exact .inl rfl
  | sentRetired i result call hi hclosing => exact .inl rfl
  | sent i result call hi hopen => exact .inl rfl
  | sentClose i result hi => exact .inl rfl
  | timeout i hi => exact .inl rfl
  | cancel i hbusy => exact .inl rfl

/-- An empty slot stays empty. -/
theorem step_empty {s s' : AsyncSocket} {label : Label} (hempty : s.transport = false)
    (h : step s label = some s') : s'.transport = false := by
  rcases step_slot h with hkept | ⟨i, granted, rfl⟩
  · rw [hkept, hempty]
  · exact disconnect_empties h

/-- With an empty slot, a call of `connect` or `emit` is refused on the spot. -/
theorem step_refused {s s' : AsyncSocket} (hs : s.Invariant) (hempty : s.transport = false)
    {label : Label} {i : Nat} {call : Call}
    (hlabel : label = .connect i ∧ call = .connect ∨
      (∃ packet granted, label = .emit i packet granted) ∧ call = .emit)
    (h : step s label = some s') :
    s'.outcomes = s.outcomes ++ [⟨call, .error .illegalActionBeforeOpen, true⟩] ∧
      s'.handed = s.handed := by
  have hrefuse : ∀ call, (s.refuse i call).outcomes =
      s.outcomes ++ [⟨call, .error .illegalActionBeforeOpen, true⟩] := by
    intro call
    simp [refuse, finish, hempty]
  have hdisconnected : s.connected = false := hs.disconnected (by simpa [hempty] using hs.slot)
  rcases hlabel with ⟨rfl, rfl⟩ | ⟨⟨packet, granted, rfl⟩, rfl⟩
  · cases step_cases h with
    | connect _ hidle hfull =>
        rw [hempty] at hfull
        cases hfull
    | connectEmpty _ hidle _ => exact ⟨hrefuse .connect, rfl⟩
  · cases step_cases h with
    | emit _ _ _ hidle =>
        have hemit : s.emit i .emit packet granted = s.refuse i .emit := by
          simp [emit, hdisconnected]
        rw [hemit]
        exact ⟨hrefuse .emit, rfl⟩

/-- What retirement guarantees of a state. -/
structure Retirement (s : AsyncSocket) : Prop where
  slot : s.transport = false ↔ s.closing = true
  disconnected : s.closing = true → s.connected = false
  /-- An empty slot stays empty, whatever the clones do. -/
  empty : s.transport = false → ∀ labels s', Lts.run step s labels = some s' →
    s'.transport = false
  /-- A new `connect` or `emit` is refused on the spot. -/
  refused : s.transport = false → ∀ i label call s',
    (label = .connect i ∧ call = .connect ∨
      (∃ packet granted, label = .emit i packet granted) ∧ call = .emit) →
    step s label = some s' →
    s'.outcomes = s.outcomes ++ [⟨call, .error .illegalActionBeforeOpen, true⟩]
  /-- One that began before is refused when it returns. -/
  refused_later : ∀ outcome ∈ s.outcomes, outcome.Refused
  /-- At most one packet was handed on since the slot was emptied, and it is a close packet. -/
  late : s.late = [] ∨ s.late = [closePacket]

/-- **Retirement of the asynchronous socket.** -/
theorem retirement {labels : List Label} {s : AsyncSocket}
    (h : Lts.run step init labels = some s) : s.Retirement := by
  have hs := invariant_run h
  refine {
    slot := by rw [hs.slot]; simp
    disconnected := hs.disconnected
    empty := ?_
    refused := ?_
    refused_later := hs.refused
    late := ?_ }
  · intro hempty labels' s' hrun
    exact Lts.invariant (P := fun t : AsyncSocket => t.transport = false)
      (fun _ _ _ ht hstep => step_empty ht hstep) hempty hrun
  · intro hempty i label call s' hlabel hstep
    exact (step_refused hs hempty hlabel hstep).1
  · rcases hs.late with hlate | ⟨hlate, -⟩
    · exact .inl hlate
    · exact .inr hlate

/-- A `connect` holds the send lock for its pong and an emit waits for it; then a third task
disconnects.  The emit is refused, and so is the `connect`, although the transport has sent the
pong; then the close packet goes out. -/
def racing : List Label :=
  [.connect 0, .poll 0 true, .emit 1 ⟨.message, [50]⟩ true, .disconnect 2 true, .poll 1 true,
    .sent 0 (.ok ()), .poll 2 true, .sent 2 (.ok ())]

theorem retirement_racing :
    ∃ s, Lts.run step init racing = some s ∧ s.Retirement ∧ s.late = [closePacket] ∧
      s.handed = [⟨pongPacket, false⟩, ⟨closePacket, true⟩] :=
  ⟨_, rfl, @retirement racing _ rfl, rfl, rfl⟩

end AsyncSocket

end TfSocketio.Engineio.Async
