/-
# Socketio.CallbackOrder — in which order the callbacks of packets are invoked, and how often.

The synchronous client runs the handler of a packet before it reads the next, so its callbacks are
invoked in the order of the packets (`callbacks_in_order`).  The asynchronous client gives each
handler a task of its own; whatever those tasks do to the order, no invocation is made twice or made
up, and none is left out unless tasks are aborted (`callbacks_once`).

Acks and the Close callback have other sources: an ack invokes what was registered with a request,
and the Close callback is also invoked by the close chain.  They are left out of the count.
-/
import TfSocketio.Socketio.Traffic
import Mathlib.Data.List.Perm.Subperm

namespace TfSocketio.Socketio

open Text (Str)

variable {json : SerdeJson}

/-! ## The invocations that packets select -/

/-- An invocation that is neither an ack's nor of the Close callback. -/
def Invocation.ordinary : Invocation json → Bool
  | .callback (.on event _) => event ≠ .close
  | .callback (.onAny _ _) => true
  | .closeWithSession _ _ => false
  | .ack _ _ => false

def Work.ordinary? : Work json → Option (Invocation json)
  | .invoke invocation => if invocation.ordinary then some invocation else none
  | _ => none

/-- The ordinary invocations that are still to be made. -/
def ordinaryOf (work : List (Work json)) : List (Invocation json) :=
  work.filterMap Work.ordinary?

/-- What a label makes a client of the namespace invoke, sooner or later. -/
def selected (reader : FromStr json) (registrations : Registrations) (nsp : Str) :
    Traffic.Label json → List (Invocation json)
  | .packet packet =>
      match handlerOf nsp packet with
      | some handler => ordinaryOf (handlerWork reader registrations 0 packet handler)
      | none => []
  | .pollError text =>
      ordinaryOf (callbackWork registrations .error (.ofString reader text) none)
  | _ => []

namespace Traffic

/-- The ordinary invocations so far. -/
def heard (s : Traffic json) : List (Invocation json) := s.calls.filter Invocation.ordinary

/-- Those that the threads are still to make. -/
def pending (s : Traffic json) : List (Invocation json) :=
  s.threads.flatMap fun thread => ordinaryOf thread.work

end Traffic

/-! ## Work -/

section Work

variable (reader : FromStr json) (registrations : Registrations)

theorem ordinaryOf_append (work rest : List (Work json)) :
    ordinaryOf (work ++ rest) = ordinaryOf work ++ ordinaryOf rest := List.filterMap_append

/-- The close chain invokes the Close callback and nothing that counts. -/
theorem ordinaryOf_closeWork (reason : CloseReason) (epoch : Nat) :
    ordinaryOf (closeWork reader registrations reason epoch) = [] := by
  have hcallback : ordinaryOf (callbackWork registrations .close
      (.ofString reader reason.asStr) none) = [] := by
    rw [callbackWork, callback]
    cases registrations.on .close <;> rfl
  rw [closeWork, ordinaryOf_append, hcallback]
  rfl

/-- The epoch of a handler only goes to the close chain. -/
theorem ordinaryOf_handlerWork (epoch : Nat) (packet : Packet) (handler : Handler) :
    ordinaryOf (handlerWork reader registrations epoch packet handler) =
      ordinaryOf (handlerWork reader registrations 0 packet handler) := by
  cases handler with
  | disconnect => rw [handlerWork, handlerWork, ordinaryOf_closeWork, ordinaryOf_closeWork]
  | _ => rfl

namespace Traffic

variable (flavour : Flavour)

/-- A piece of work makes the invocation it is, and leads to none that counts. -/
theorem perform_spec (s : Traffic json) (now : Nat) (work : Work json) :
    ordinaryOf (s.perform flavour reader now work).1 = [] ∧
      (s.perform flavour reader now work).2.heard = s.heard ++ ordinaryOf [work] := by
  have hnone : ∀ next : List (Work json), (∀ piece ∈ next, ordinaryOf [piece] = []) →
      ordinaryOf next = [] := by
    intro next h
    induction next with
    | nil => rfl
    | cons piece next ih =>
        obtain ⟨hpiece, hrest⟩ := List.forall_mem_cons.mp h
        rw [← List.singleton_append, ordinaryOf_append, hpiece, ih hrest]
        rfl
  cases work with
  | takeAcks packet =>
      simp only [perform]
      split
      · exact ⟨rfl, (List.append_nil _).symm⟩
      · refine ⟨hnone _ fun piece hpiece => ?_, (List.append_nil _).symm⟩
        obtain ⟨ack, -, rfl⟩ := List.mem_map.mp hpiece
        rfl
  | check ack packet =>
      refine ⟨?_, (List.append_nil _).symm⟩
      simp only [perform]
      split
      · refine hnone _ fun piece hpiece => ?_
        obtain ⟨payload, -, rfl⟩ := List.mem_map.mp hpiece
        rfl
      · rfl
  | takeClose reason epoch =>
      simp only [perform]
      split
      · cases flavour with
        | sync => exact ⟨rfl, (List.append_nil _).symm⟩
        | async => exact ⟨rfl, (List.append_nil _).symm⟩
      · exact ⟨rfl, (List.append_nil _).symm⟩
  | putClose => exact ⟨rfl, (List.append_nil _).symm⟩
  | invoke invocation =>
      refine ⟨rfl, ?_⟩
      simp only [perform, heard, List.filter_append]
      cases h : invocation.ordinary <;> simp [ordinaryOf, Work.ordinary?, h]

end Traffic

end Work

/-! ## Steps -/

namespace Traffic

variable {flavour : Flavour} {reader : FromStr json} {registrations : Registrations} {nsp : Str}

/-- A thread, with those in front of it and behind it. -/
theorem threads_split {s : Traffic json} {i : Nat} {thread : Thread json}
    (hi : s.threads[i]? = some thread) (other : Thread json) : ∃ before after,
      s.threads = before ++ thread :: after ∧ s.threads.set i other = before ++ other :: after := by
  obtain ⟨hlt, rfl⟩ := List.getElem?_eq_some_iff.mp hi
  refine ⟨s.threads.take i, s.threads.drop (i + 1), ?_, ?_⟩
  · rw [← List.drop_eq_getElem_cons hlt, List.take_append_drop]
  · exact List.set_eq_take_append_cons_drop ▸ if_pos hlt

theorem pending_spawn (s : Traffic json) (work : List (Work json)) (inline terminal : Bool) :
    (s.spawn work inline terminal).pending = s.pending ++ ordinaryOf work := by
  simp [pending, spawn]

theorem heard_spawn (s : Traffic json) (work : List (Work json)) (inline terminal : Bool) :
    (s.spawn work inline terminal).heard = s.heard := rfl

theorem pending_abort (s : Traffic json) (includeTerminal : Bool) :
    (s.abort includeTerminal).pending.Sublist s.pending := by
  simp only [pending, abort, List.flatMap_map]
  induction s.threads with
  | nil => exact .slnil
  | cons thread threads ih =>
      rw [List.flatMap_cons, List.flatMap_cons]
      refine .append ?_ ih
      unfold Thread.abort
      split
      · exact List.nil_sublist _
      · exact .refl _

theorem nsp_send (s : Traffic json) (failures : List (Option Engineio.Error))
    {operation : RawClient → Except Error Unit × RawClient} {packet : Str → Packet}
    {entries : List Ack} (hop : Sends operation packet entries) :
    (s.send failures operation).client.nsp = s.client.nsp := by
  simp only [send, hop _]
  rfl

/-- A client keeps its namespace. -/
theorem nsp_step {s s' : Traffic json} {label : Label json}
    (h : s.Transition flavour reader registrations label s') :
    s'.client.nsp = s.client.nsp := by
  cases h with
  | packet packet =>
      obtain ⟨reason, stage, threads, hframe⟩ :=
        readPacket_frame flavour reader registrations s packet
      rw [hframe]
      rfl
  | pollError text =>
      obtain ⟨stage, threads, hframe⟩ := readError_frame flavour reader registrations s text
      rw [hframe]
  | streamEnd =>
      obtain ⟨stage, threads, hframe⟩ := endStream_frame reader registrations s
      rw [hframe]
  | work i now thread work =>
      obtain ⟨acks, closeCallback, calls, hframe⟩ := perform_frame flavour reader s now work
      rw [hframe]
  | emit event data failures =>
      obtain ⟨packet, hop⟩ := RawClient.sends_emit event data
      exact nsp_send s failures hop
  | ack data ackId failures =>
      obtain ⟨packet, hop⟩ := RawClient.sends_ack data ackId
      exact nsp_send s failures hop
  | emitWithAck event data timeout id now failures =>
      obtain ⟨packet, hop⟩ := RawClient.sends_emitWithAck event data timeout s.registered id now
      exact nsp_send s failures hop
  | _ => rfl

/-- What a thread that goes on does to the invocations: the first of what it has to make is made. -/
theorem work_spec {s : Traffic json} {i now : Nat} {thread : Thread json} {work : Work json}
    {rest : List (Work json)} (hi : s.threads[i]? = some thread)
    (hwork : thread.work = work :: rest) {s' : Traffic json}
    (hs' : s' = { (s.perform flavour reader now work).2 with
      threads := s.threads.set i
        { thread with work := (s.perform flavour reader now work).1 ++ rest } }) :
    ∃ before after, s.threads = before ++ thread :: after ∧
      s'.threads = before ++
        { thread with work := (s.perform flavour reader now work).1 ++ rest } :: after ∧
      ordinaryOf thread.work = ordinaryOf [work] ++ ordinaryOf rest ∧
      ordinaryOf ((s.perform flavour reader now work).1 ++ rest) = ordinaryOf rest ∧
      s'.heard = s.heard ++ ordinaryOf [work] := by
  obtain ⟨hnext, hheard⟩ := perform_spec reader flavour s now work
  obtain ⟨before, after, hthreads, hset⟩ := threads_split hi
    { thread with work := (s.perform flavour reader now work).1 ++ rest }
  subst hs'
  refine ⟨before, after, hthreads, hset, ?_, ?_, hheard⟩
  · rw [hwork, ← ordinaryOf_append]
    rfl
  · rw [ordinaryOf_append, hnext, List.nil_append]

/-! ## The synchronous client -/

/-- The packets' callbacks take turns: only one thread has invocations to make, and only if the
client waits for it. -/
structure InTurn (s : Traffic json) : Prop where
  alone : s.threads.Pairwise fun thread other =>
    ordinaryOf thread.work = [] ∨ ordinaryOf other.work = []
  inline : ∀ thread ∈ s.threads, thread.inline = false → ordinaryOf thread.work = []

theorem InTurn.pending_nil {s : Traffic json} (h : s.InTurn) (hread : s.canRead = true) :
    s.pending = [] := by
  rw [canRead, Bool.and_eq_true, List.all_eq_true] at hread
  rw [pending, List.flatMap_eq_nil_iff]
  intro thread hthread
  have hdone := hread.2 thread hthread
  cases hinline : thread.inline with
  | false => exact h.inline thread hthread hinline
  | true =>
      have hempty : thread.work = [] := by simpa [hinline] using hdone
      rw [hempty]
      rfl

theorem InTurn.spawn {s : Traffic json} (h : s.InTurn) (hread : s.canRead = true)
    (work : List (Work json)) (terminal : Bool) : (s.spawn work true terminal).InTurn := by
  have hnil := h.pending_nil hread
  rw [pending, List.flatMap_eq_nil_iff] at hnil
  constructor
  · rw [Traffic.spawn, List.pairwise_append]
    refine ⟨h.alone, List.pairwise_singleton _ _, fun thread hthread _ _ => .inl ?_⟩
    exact hnil thread hthread
  · intro thread hthread hinline
    rcases List.mem_append.mp hthread with hold | hnew
    · exact h.inline thread hold hinline
    · obtain rfl := List.mem_singleton.mp hnew
      cases hinline

/-- A thread that has nothing to make is never in the way. -/
theorem InTurn.spawn_close {s : Traffic json} (h : s.InTurn) {work : List (Work json)}
    (hwork : ordinaryOf work = []) (terminal : Bool) : (s.spawn work false terminal).InTurn := by
  constructor
  · rw [Traffic.spawn, List.pairwise_append]
    refine ⟨h.alone, List.pairwise_singleton _ _, fun thread _ other hother => .inr ?_⟩
    obtain rfl := List.mem_singleton.mp hother
    exact hwork
  · intro thread hthread hinline
    rcases List.mem_append.mp hthread with hold | hnew
    · exact h.inline thread hold hinline
    · obtain rfl := List.mem_singleton.mp hnew
      exact hwork

/-- What runs inline makes its next invocation, and no other thread has one to make. -/
theorem InTurn.work {s s' : Traffic json} (h : s.InTurn) {i now : Nat} {thread : Thread json}
    {work : Work json} {rest : List (Work json)} (hi : s.threads[i]? = some thread)
    (hwork : thread.work = work :: rest)
    (hs' : s' = { (s.perform flavour reader now work).2 with
      threads := s.threads.set i
        { thread with work := (s.perform flavour reader now work).1 ++ rest } }) :
    s'.InTurn ∧ s'.heard ++ s'.pending = s.heard ++ s.pending := by
  obtain ⟨before, after, hthreads, hset, hsplit, hrest, hheard⟩ := work_spec hi hwork hs'
  have halone := h.alone
  have hinline := h.inline
  rw [hthreads] at halone hinline
  rw [List.pairwise_append, List.pairwise_cons] at halone
  obtain ⟨hbefore, ⟨hbehind, hafter⟩, hacross⟩ := halone
  have hleft : ordinaryOf thread.work = [] →
      ordinaryOf ((s.perform flavour reader now work).1 ++ rest) = [] := by
    intro hnil
    rw [hrest]
    rw [hsplit] at hnil
    exact (List.append_eq_nil_iff.mp hnil).2
  refine ⟨⟨?_, ?_⟩, ?_⟩
  · rw [hset, List.pairwise_append, List.pairwise_cons]
    refine ⟨hbefore, ⟨fun other hother => (hbehind other hother).imp_left hleft, hafter⟩, ?_⟩
    intro other hother last hlast
    rcases List.mem_cons.mp hlast with rfl | hlast
    · exact (hacross other hother thread List.mem_cons_self).imp_right hleft
    · exact hacross other hother last (List.mem_cons_of_mem _ hlast)
  · intro other hother hno
    rw [hset, List.mem_append, List.mem_cons] at hother
    rcases hother with hother | rfl | hother
    · exact hinline other (List.mem_append_left _ hother) hno
    · exact hleft (hinline thread (by simp) hno)
    · exact hinline other (List.mem_append_right _ (List.mem_cons_of_mem _ hother)) hno
  · rw [hheard, pending, pending, hset, hthreads]
    simp only [List.flatMap_append, List.flatMap_cons, hrest, hsplit]
    by_cases hone : ordinaryOf [work] = []
    · rw [hone, List.nil_append, List.append_nil]
    · -- nothing is pending in front of it
      have hfirst : before.flatMap (fun thread => ordinaryOf thread.work) = [] := by
        rw [List.flatMap_eq_nil_iff]
        intro other hother
        have hone' : ordinaryOf thread.work ≠ [] := by
          rw [hsplit]
          exact fun hnil => hone (List.append_eq_nil_iff.mp hnil).1
        exact (hacross other hother thread List.mem_cons_self).resolve_right hone'
      rw [hfirst, List.nil_append, List.nil_append, List.append_assoc, List.append_assoc]

theorem InTurn.handlePacket {s : Traffic json} (h : s.InTurn) (hread : s.canRead = true)
    (packet : Packet) :
    (s.handlePacket .sync reader registrations packet).InTurn ∧
      (s.handlePacket .sync reader registrations packet).heard ++
          (s.handlePacket .sync reader registrations packet).pending =
        s.heard ++ s.pending ++ selected reader registrations s.client.nsp (.packet packet) := by
  cases hhandler : handlerOf s.client.nsp packet with
  | none =>
      simp only [Traffic.handlePacket, hhandler]
      refine ⟨h, ?_⟩
      simp only [selected, hhandler, List.append_nil]
  | some handler =>
      simp only [Traffic.handlePacket, selected, hhandler]
      refine ⟨h.spawn hread _ _, ?_⟩
      show (s.spawn _ true _).heard ++ (s.spawn _ true _).pending = _
      rw [heard_spawn, pending_spawn, ordinaryOf_handlerWork, ← List.append_assoc]

/-- **A step of the synchronous client.** -/
theorem inTurn_step {s s' : Traffic json} {label : Label json} (h : s.InTurn)
    (hstep : s.Transition .sync reader registrations label s') :
    s'.InTurn ∧ s'.heard ++ s'.pending =
      s.heard ++ s.pending ++ selected reader registrations s.client.nsp label := by
  have hsame : s.heard ++ s.pending = s.heard ++ s.pending ++ [] := (List.append_nil _).symm
  cases hstep with
  | packet packet hread =>
      have hconnected : (s.setConnected
          (handleSocketioPacket s.client.socket.connected packet)).InTurn := ⟨h.alone, h.inline⟩
      exact hconnected.handlePacket hread packet
  | pollError text hread =>
      refine ⟨h.spawn hread _ true, ?_⟩
      show (s.spawn _ true true).heard ++ (s.spawn _ true true).pending = _
      rw [heard_spawn, pending_spawn, ← List.append_assoc]
      rfl
  | streamEnd hasync => cases hasync
  | work i now thread work rest hi hwork =>
      obtain ⟨hturn, htotal⟩ := h.work hi hwork rfl
      exact ⟨hturn, htotal.trans hsame⟩
  | disconnectSync failures =>
      have hclosed : Traffic.InTurn { s with client := (s.client.failing failures).disconnect } :=
        ⟨h.alone, h.inline⟩
      refine ⟨hclosed.spawn_close (ordinaryOf_closeWork reader registrations _ _) true, ?_⟩
      rw [heard_spawn, pending_spawn, ordinaryOf_closeWork, List.append_nil]
      exact hsame
  | announce hasync => cases hasync
  | stopReader hasync => cases hasync
  | stopIdle hasync => cases hasync
  | disconnectAsync failures hasync => cases hasync
  | abortTasks hasync => cases hasync
  | sessionAsync hasync => cases hasync
  | giveUp hasync => cases hasync
  | _ => exact ⟨⟨h.alone, h.inline⟩, hsame⟩

/-- **In turn.**  In every run of the synchronous client, the callbacks that were invoked are those
that the packets and errors it has read select, each as often and in the order in which they were
read; those of the last may be missing while its handler runs, and no others are. -/
theorem callbacks_in_order (nsp : Str) {labels : List (Label json)} {s : Traffic json}
    (h : Lts.run (step .sync reader registrations) (init json registrations nsp) labels = some s) :
    s.heard <+: labels.flatMap (selected reader registrations nsp) ∧
      (s.canRead = true → s.heard = labels.flatMap (selected reader registrations nsp)) := by
  have hrun : s.InTurn ∧ s.client.nsp = nsp ∧
      s.heard ++ s.pending = labels.flatMap (selected reader registrations nsp) := by
    refine Lts.invariant_labels (P := fun labels s => s.InTurn ∧ s.client.nsp = nsp ∧
      s.heard ++ s.pending = labels.flatMap (selected reader registrations nsp)) ?_ ?_ h
    · rintro labels s label s' ⟨hturn, hnsp, htotal⟩ hs
      have hstep := step_cases hs
      obtain ⟨hturn', htotal'⟩ := inTurn_step hturn hstep
      refine ⟨hturn', (nsp_step hstep).trans hnsp, ?_⟩
      rw [htotal', htotal, hnsp, List.flatMap_append, List.flatMap_singleton]
    · exact ⟨⟨.nil, fun _ hthread => by cases hthread⟩, rfl, rfl⟩
  obtain ⟨hturn, -, htotal⟩ := hrun
  refine ⟨⟨s.pending, htotal⟩, fun hread => ?_⟩
  rw [← htotal, hturn.pending_nil hread, List.append_nil]

/-- A binary event `a`. -/
def binaryA : Packet := ⟨.binaryEvent, ['/'], some "\"a\"".toList, none, 1, some [[1]]⟩

/-- Two events, one after the other. -/
theorem callbacks_in_order_binaryA :
    ∃ s, Lts.run (step .sync .integers .all) (init .integers .all ['/'])
        [.packet binaryA, .work 0 0, .work 0 0, .packet binaryA, .work 1 0] = some s ∧
      s.heard <+: [.packet binaryA, .work 0 0, .work 0 0, .packet binaryA, .work 1 0].flatMap
        (selected .integers .all ['/']) :=
  ⟨_, rfl, (callbacks_in_order ['/'] rfl).1⟩

/-! ## The asynchronous client -/

/-- A step that aborts what still runs. -/
def Aborts (flavour : Flavour) (s : Traffic json) : Label json → Prop
  | .packet packet => s.quits flavour = true ∨ handlerOf s.client.nsp packet = some .disconnect
  | .pollError _ => s.quits flavour = true
  | .streamEnd => True
  | .stopReader => s.stage = .reading
  | .abortTasks => True
  | _ => False

theorem enterHandler_pending (flavour : Flavour) (s : Traffic json) (handler : Handler) :
    (s.enterHandler flavour handler).heard = s.heard ∧
      (s.enterHandler flavour handler).pending.Sublist s.pending ∧
        (handler ≠ .disconnect → (s.enterHandler flavour handler).pending = s.pending) := by
  cases flavour with
  | sync => exact ⟨rfl, .refl _, fun _ => rfl⟩
  | async =>
      cases handler with
      | disconnect =>
          exact ⟨rfl, pending_abort { s with reason := .server } false, fun hne => absurd rfl hne⟩
      | _ => exact ⟨rfl, .refl _, fun _ => rfl⟩

/-- The invocations of a client before a step, as far as they are left and with what is added. -/
structure Grows (s s' : Traffic json) (added : List (Invocation json)) (aborts : Prop) : Prop where
  heard : s'.heard = s.heard
  pending : ∃ left, left.Sublist s.pending ∧ (¬ aborts → left = s.pending) ∧
    s'.pending = left ++ added

/-- The invocations after a step are invocations from before it, and all of them if it does not
abort. -/
structure Accounted (s s' : Traffic json) (added : List (Invocation json)) (aborts : Prop) :
    Prop where
  within : (s'.heard ++ s'.pending).Subperm (s.heard ++ s.pending ++ added)
  exactly : ¬ aborts → (s'.heard ++ s'.pending).Perm (s.heard ++ s.pending ++ added)

theorem Grows.accounted {s s' : Traffic json} {added : List (Invocation json)} {aborts : Prop}
    (h : Grows s s' added aborts) : Accounted s s' added aborts := by
  obtain ⟨left, hleft, hall, hpending⟩ := h.pending
  constructor
  · rw [h.heard, hpending, ← List.append_assoc]
    exact ((hleft.append_left _).append_right _).subperm
  · intro hno
    rw [h.heard, hpending, hall hno, ← List.append_assoc]

theorem Grows.mono {s s' : Traffic json} {added : List (Invocation json)} {aborts aborts' : Prop}
    (h : Grows s s' added aborts) (himp : aborts → aborts') : Grows s s' added aborts' := by
  obtain ⟨left, hleft, hall, hpending⟩ := h.pending
  exact ⟨h.heard, left, hleft, fun hno => hall fun habort => hno (himp habort), hpending⟩

theorem Grows.same {s s' : Traffic json} (hcalls : s'.calls = s.calls)
    (hthreads : s'.threads = s.threads) : Grows s s' [] False := by
  refine ⟨?_, s.pending, .refl _, fun _ => rfl, ?_⟩
  · rw [Traffic.heard, hcalls, Traffic.heard]
  · rw [List.append_nil, Traffic.pending, hthreads, Traffic.pending]

theorem Accounted.same {s s' : Traffic json} (hcalls : s'.calls = s.calls)
    (hthreads : s'.threads = s.threads) (aborts : Prop) : Accounted s s' [] aborts :=
  ((Grows.same hcalls hthreads).mono False.elim).accounted

/-- Where something is aborted, it does not matter what would have been added. -/
theorem Grows.aborted {s s' : Traffic json} (h : Grows s s' [] True)
    (added : List (Invocation json)) {aborts : Prop} (habort : aborts) :
    Accounted s s' added aborts := by
  obtain ⟨hwithin, -⟩ := h.accounted
  rw [List.append_nil] at hwithin
  refine ⟨hwithin.trans (List.sublist_append_left _ _).subperm, fun hno => absurd habort hno⟩

theorem Grows.abort (s : Traffic json) (includeTerminal : Bool) :
    Grows s (s.abort includeTerminal) [] True :=
  ⟨rfl, _, pending_abort s includeTerminal, fun hno => absurd trivial hno,
    (List.append_nil _).symm⟩

/-- Only the invocations and the threads of the first state count. -/
theorem Grows.since {s t s' : Traffic json} {added : List (Invocation json)} {aborts : Prop}
    (h : Grows t s' added aborts) (hcalls : t.calls = s.calls) (hthreads : t.threads = s.threads) :
    Grows s s' added aborts := by
  have hpending : t.pending = s.pending := by
    rw [Traffic.pending, hthreads, Traffic.pending]
  have hheard : t.heard = s.heard := by
    rw [Traffic.heard, hcalls, Traffic.heard]
  exact ⟨h.heard.trans hheard, hpending ▸ h.pending⟩

theorem Grows.spawn {s s' : Traffic json} {aborts : Prop} (h : Grows s s' [] aborts)
    (work : List (Work json)) (inline terminal : Bool) :
    Grows s (s'.spawn work inline terminal) (ordinaryOf work) aborts := by
  obtain ⟨left, hleft, hall, hpending⟩ := h.pending
  refine ⟨h.heard, left, hleft, hall, ?_⟩
  rw [pending_spawn, hpending, List.append_nil]

theorem Grows.handlePacket (s : Traffic json) (packet : Packet) :
    Grows s (s.handlePacket flavour reader registrations packet)
      (selected reader registrations s.client.nsp (.packet packet))
      (handlerOf s.client.nsp packet = some .disconnect) := by
  cases hhandler : handlerOf s.client.nsp packet with
  | none =>
      simp only [Traffic.handlePacket, selected, hhandler]
      exact ⟨rfl, s.pending, .refl _, fun _ => rfl, (List.append_nil _).symm⟩
  | some handler =>
      simp only [Traffic.handlePacket, selected, hhandler]
      obtain ⟨hheard, hsub, hall⟩ := enterHandler_pending flavour s handler
      refine ⟨hheard, _, hsub, fun hno => hall ?_, ?_⟩
      · exact fun hdisconnect => hno (congrArg some hdisconnect)
      · rw [pending_spawn, ordinaryOf_handlerWork]

/-- What a thread that goes on has to make is made now or later. -/
theorem accounted_work {s s' : Traffic json} {i now : Nat} {thread : Thread json}
    {work : Work json} {rest : List (Work json)} (hi : s.threads[i]? = some thread)
    (hwork : thread.work = work :: rest)
    (hs' : s' = { (s.perform flavour reader now work).2 with
      threads := s.threads.set i
        { thread with work := (s.perform flavour reader now work).1 ++ rest } }) :
    (s'.heard ++ s'.pending).Perm (s.heard ++ s.pending) := by
  obtain ⟨before, after, hthreads, hset, hsplit, hrest, hheard⟩ := work_spec hi hwork hs'
  rw [hheard, pending, pending, hset, hthreads, List.append_assoc]
  refine List.Perm.append_left s.heard ?_
  simp only [List.flatMap_append, List.flatMap_cons, hrest, hsplit, List.append_assoc]
  exact List.perm_append_comm_assoc _ _ _

/-- **A step accounts for the invocations.** -/
theorem accounted_step {s s' : Traffic json} {label : Label json}
    (h : s.Transition flavour reader registrations label s') :
    Accounted s s' (selected reader registrations s.client.nsp label) (s.Aborts flavour label) := by
  have hquit : ∀ stage, Grows s (s.quit stage) [] True :=
    fun stage => (Grows.abort { s with stage } false).since rfl rfl
  cases h with
  | packet packet hread =>
      unfold readPacket
      dsimp only
      split
      · rename_i hquits
        have habort : Grows s ((s.setConnected
            (handleSocketioPacket s.client.socket.connected packet)).quit .stopped) [] True :=
          (Grows.abort _ false).since rfl rfl
        exact habort.aborted _ (.inl hquits)
      · have hhandle : Grows s ((s.setConnected
            (handleSocketioPacket s.client.socket.connected packet)).handlePacket flavour reader
              registrations packet) _ (handlerOf s.client.nsp packet = some .disconnect) :=
          (Grows.handlePacket _ packet).since rfl rfl
        exact (hhandle.mono .inr).accounted
  | pollError text hread =>
      unfold readError
      split
      · rename_i hquits
        exact (hquit .stopped).aborted _ hquits
      · exact ((Grows.spawn (.same rfl rfl) _ _ _).mono False.elim).accounted
  | streamEnd hasync hreading =>
      have hclose := ordinaryOf_closeWork reader registrations .transportClose s.epoch
      unfold endStream
      split
      · have hspawn := (hquit .reconnecting).spawn
          (closeWork reader registrations .transportClose s.epoch) false true
        rw [hclose] at hspawn
        exact hspawn.aborted _ trivial
      · exact (hquit .stopped).aborted _ trivial
      · exact (hquit .reconnecting).aborted _ trivial
  | work i now thread work rest hi hwork =>
      have hperm := @accounted_work json flavour reader s _ i now thread work rest hi hwork rfl
      rw [← List.append_nil (s.heard ++ s.pending)] at hperm
      exact ⟨hperm.subperm, fun _ => hperm⟩
  | stopReader hasync hreading => exact (hquit .stopped).aborted _ hreading
  | abortTasks hasync => exact (Grows.abort s true).aborted _ trivial
  | disconnectSync failures hsync =>
      have hsame : Grows s { s with client := (s.client.failing failures).disconnect } [] False :=
        .same rfl rfl
      have hspawn := hsame.spawn
        (closeWork reader registrations .ioClientDisconnect s.epoch) false true
      rw [ordinaryOf_closeWork] at hspawn
      exact (hspawn.mono False.elim).accounted
  | _ => exact .same (by rfl) (by rfl) _

/-- **Once each.**  In every run of the asynchronous client, whatever its tasks do to the order, the
callbacks that were invoked are among those that the packets and errors select, each at most as
often as it is selected.  If no step has aborted tasks and all tasks are done, these are all. -/
theorem callbacks_once (nsp : Str) {labels : List (Label json)} {s : Traffic json}
    (h : Lts.run (step .async reader registrations) (init json registrations nsp) labels = some s) :
    s.heard.Subperm (labels.flatMap (selected reader registrations nsp)) ∧
      (Lts.Along (step .async reader registrations) (fun s label => ¬ s.Aborts .async label)
          (init json registrations nsp) labels →
        (∀ thread ∈ s.threads, thread.work = []) →
          s.heard.Perm (labels.flatMap (selected reader registrations nsp))) := by
  have hrun : Lts.run (step .async reader registrations) (init json registrations nsp) labels =
        some s ∧ s.client.nsp = nsp ∧
      (s.heard ++ s.pending).Subperm (labels.flatMap (selected reader registrations nsp)) ∧
      (Lts.Along (step .async reader registrations) (fun s label => ¬ s.Aborts .async label)
          (init json registrations nsp) labels →
        (s.heard ++ s.pending).Perm (labels.flatMap (selected reader registrations nsp))) := by
    refine Lts.invariant_labels (P := fun labels s =>
      Lts.run (step .async reader registrations) (init json registrations nsp) labels = some s ∧
      s.client.nsp = nsp ∧
      (s.heard ++ s.pending).Subperm (labels.flatMap (selected reader registrations nsp)) ∧
      (Lts.Along (step .async reader registrations) (fun s label => ¬ s.Aborts .async label)
          (init json registrations nsp) labels →
        (s.heard ++ s.pending).Perm (labels.flatMap (selected reader registrations nsp)))) ?_ ?_ h
    · rintro labels s label s' ⟨hrun, hnsp, hwithin, hexactly⟩ hs
      have hstep := step_cases hs
      have hlabels : (labels ++ [label]).flatMap (selected reader registrations nsp) =
          labels.flatMap (selected reader registrations nsp) ++
            selected reader registrations nsp label := by
        rw [List.flatMap_append, List.flatMap_singleton]
      have haccount := accounted_step hstep
      rw [hnsp] at haccount
      rw [hlabels]
      refine ⟨Lts.run_concat hrun hs, (nsp_step hstep).trans hnsp, ?_, fun hcalm => ?_⟩
      · exact haccount.within.trans ((List.subperm_append_right _).mpr hwithin)
      · have hno := hcalm labels label [] s s' rfl hrun hs
        exact (haccount.exactly hno).trans ((hexactly hcalm.before).append_right _)
    · exact ⟨rfl, rfl, .refl _, fun _ => .refl _⟩
  obtain ⟨-, -, hwithin, hexactly⟩ := hrun
  refine ⟨(List.sublist_append_left _ _).subperm.trans hwithin, fun hcalm hdone => ?_⟩
  have hpending : s.pending = [] := by
    rw [pending, List.flatMap_eq_nil_iff]
    intro thread hthread
    rw [hdone thread hthread]
    rfl
  have hall := hexactly hcalm
  rwa [hpending, List.append_nil] at hall

/-- Two events whose tasks overlap. -/
theorem callbacks_once_binaryA :
    ∃ s, Lts.run (step .async .integers .all) (init .integers .all ['/'])
        [.packet binaryA, .packet binaryA, .work 1 0, .work 0 0, .work 1 0] = some s ∧
      s.heard.Subperm ([.packet binaryA, .packet binaryA, .work 1 0, .work 0 0,
        .work 1 0].flatMap (selected .integers .all ['/'])) :=
  ⟨_, rfl, (callbacks_once ['/'] rfl).1⟩

end Traffic

end TfSocketio.Socketio
