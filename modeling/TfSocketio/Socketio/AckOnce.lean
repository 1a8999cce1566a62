/-
# Socketio.AckOnce — how often the callback of a request is invoked.

`emit_with_ack` registers a callback, and an ack takes its entry out of the list before it invokes
it; so no second ack finds it.  But `handle_ack` decides separately about the data of the ack and
about its first attachment, and invokes the callback for each.  The decoder leaves data in a
`BinaryAck` when its array has more than placeholders.

A callback is in one place at a time: it is to be registered, or outstanding, or taken out, or about
to be invoked.  `load` counts its places together with its invocations; only a look at an entry that
is in time, for an ack with two payloads, makes it grow.
-/
import TfSocketio.Socketio.BinaryDelivery
import TfSocketio.Socketio.Traffic
import Mathlib.Algebra.Order.BigOperators.Group.List

namespace TfSocketio.Socketio

open Text (Str)

/-! ## Counting -/

section Count

variable {json : SerdeJson} (serial : Nat)

/-- An invocation of the callback with a serial number. -/
def Invocation.fires : Invocation json → Bool
  | .ack entry _ => entry.serial = serial
  | _ => false

/-- Work from which an invocation of the callback may come. -/
def Work.owes : Work json → Bool
  | .check entry _ => entry.serial = serial
  | .invoke invocation => invocation.fires serial
  | _ => false

def Thread.owed (thread : Thread json) : Nat := thread.work.countP (Work.owes serial)

namespace Traffic

/-- How often the callback was invoked. -/
def fired (s : Traffic json) : Nat := s.calls.countP (Invocation.fires serial)

def owed (s : Traffic json) : Nat := (s.threads.map (Thread.owed serial)).sum

def outstanding (s : Traffic json) : Nat :=
  s.client.outstandingAcks.countP fun ack => ack.serial = serial

/-- The places of the callback and its invocations; a request that is still to be made counts as
well. -/
def load (s : Traffic json) : Nat :=
  s.fired serial + s.owed serial + s.outstanding serial + if serial < s.registered then 0 else 1

end Traffic

end Count

/-- The entries that are taken out and those that stay are the entries there were. -/
theorem takeMatching_perm (flavour : Flavour) (id : Int) (outstanding : List Ack) :
    ((takeMatching flavour id outstanding).1 ++ (takeMatching flavour id outstanding).2).Perm
      outstanding := by
  cases flavour with
  | async =>
      rw [takeMatching_async]
      have hsplit := List.filter_append_perm (fun ack : Ack => decide (ack.id = id)) outstanding
      simpa using hsplit
  | sync =>
      show ((outstanding.find? fun ack => ack.id = id).toList ++
        outstanding.eraseP fun ack => ack.id = id).Perm outstanding
      induction outstanding with
      | nil => exact .nil
      | cons ack rest ih =>
          by_cases hid : ack.id = id
          · simp [hid]
          · simp only [List.find?_cons, hid, decide_false, List.eraseP_cons]
            exact List.perm_middle.trans (ih.cons ack)

namespace Traffic

variable {json : SerdeJson} (flavour : Flavour) (reader : FromStr json)
  (registrations : Registrations) (serial : Nat)

/-! ## Work that owes nothing -/

theorem owes_callbacks (calls : List (Call json)) :
    (calls.map fun call => Work.invoke (.callback call)).countP (Work.owes serial) = 0 := by
  rw [List.countP_eq_zero]
  intro work hwork
  obtain ⟨call, -, rfl⟩ := List.mem_map.mp hwork
  simp [Work.owes, Invocation.fires]

theorem owes_closeWork (reason : CloseReason) (epoch : Nat) :
    (closeWork reader registrations reason epoch).countP (Work.owes serial) = 0 := by
  rw [closeWork, List.countP_append, callbackWork, owes_callbacks]
  rfl

/-- No handler starts with a callback in its hands. -/
theorem owes_handlerWork (epoch : Nat) (packet : Packet) (handler : Handler) :
    (handlerWork reader registrations epoch packet handler).countP (Work.owes serial) = 0 := by
  cases handler with
  | ack => rfl
  | binaryEvent => exact owes_callbacks serial _
  | connect => exact owes_callbacks serial _
  | disconnect => exact owes_closeWork reader registrations serial _ epoch
  | connectError => exact owes_callbacks serial _
  | event =>
      rw [handlerWork]
      split
      · exact owes_callbacks serial _
      · exact owes_callbacks serial _

theorem owed_spawn (s : Traffic json) {work : List (Work json)}
    (h : work.countP (Work.owes serial) = 0) (inline terminal : Bool) :
    (s.spawn work inline terminal).owed serial = s.owed serial := by
  simp [owed, spawn, Thread.owed, h]

theorem owed_abort_le (s : Traffic json) (includeTerminal : Bool) :
    (s.abort includeTerminal).owed serial ≤ s.owed serial := by
  rw [owed, owed, abort, List.map_map]
  apply List.sum_le_sum
  intro thread _
  show (thread.abort includeTerminal).owed serial ≤ thread.owed serial
  rw [Thread.abort]
  split
  · exact Nat.zero_le _
  · exact Nat.le_refl _

theorem owed_enterHandler_le (s : Traffic json) (handler : Handler) :
    (s.enterHandler flavour handler).owed serial ≤ s.owed serial := by
  cases flavour with
  | sync => exact Nat.le_refl _
  | async =>
      cases handler with
      | disconnect => exact owed_abort_le serial { s with reason := .server } false
      | _ => exact Nat.le_refl _

theorem owed_readPacket_le (s : Traffic json) (packet : Packet) :
    (s.readPacket flavour reader registrations packet).owed serial ≤ s.owed serial := by
  rw [readPacket]
  split
  · exact owed_abort_le serial _ false
  · rw [handlePacket]
    split
    · rename_i handler _
      rw [owed_spawn serial _ (owes_handlerWork reader registrations serial _ packet handler)]
      exact owed_enterHandler_le flavour serial _ handler
    · exact Nat.le_refl _

theorem owed_readError_le (s : Traffic json) (text : Str) :
    (s.readError flavour reader registrations text).owed serial ≤ s.owed serial := by
  rw [readError]
  split
  · exact owed_abort_le serial _ false
  · exact Nat.le_of_eq (owed_spawn serial s (owes_callbacks serial _) _ true)

theorem owed_endStream_le (s : Traffic json) :
    (s.endStream reader registrations).owed serial ≤ s.owed serial := by
  rw [endStream]
  split
  · rw [owed_spawn serial _ (owes_closeWork reader registrations serial _ _)]
    exact owed_abort_le serial _ false
  · exact owed_abort_le serial _ false
  · exact owed_abort_le serial _ false

/-! ## Work that is done -/

theorem owes_ackWork (ack : Ack) (packet : Packet) :
    (ackWork reader ack packet).countP (Work.owes serial) =
      if ack.serial = serial then payloadCount packet else 0 := by
  have hlength : (ackWork reader ack packet).length = payloadCount packet := by
    simp [ackWork, ackPayloads, payloadCount]
  split
  · rename_i hserial
    rw [← hlength, List.countP_eq_length]
    intro work hwork
    obtain ⟨payload, -, rfl⟩ := List.mem_map.mp hwork
    simp [Work.owes, Invocation.fires, hserial]
  · rename_i hserial
    rw [List.countP_eq_zero]
    intro work hwork
    obtain ⟨payload, -, rfl⟩ := List.mem_map.mp hwork
    simp [Work.owes, Invocation.fires, hserial]

/-- What a piece of work hands on is what it had. -/
theorem perform_le (s : Traffic json) (now : Nat) (work : Work json)
    (honce : ∀ ack packet, work = .check ack packet → ack.inTime now = true →
      payloadCount packet ≤ 1) :
    (s.perform flavour reader now work).1.countP (Work.owes serial) +
        (s.perform flavour reader now work).2.fired serial +
        (s.perform flavour reader now work).2.outstanding serial ≤
      [work].countP (Work.owes serial) + s.fired serial + s.outstanding serial := by
  cases work with
  | takeAcks packet =>
      simp only [perform]
      split
      · exact Nat.le_of_eq rfl
      · rename_i id _
        have hperm := (takeMatching_perm flavour id s.client.outstandingAcks).countP_eq
          fun ack => ack.serial = serial
        rw [List.countP_append] at hperm
        have hmatched : ∀ matched : List Ack,
            (matched.map fun ack => (Work.check ack packet : Work json)).countP (Work.owes serial) =
              matched.countP fun ack => ack.serial = serial := by
          intro matched
          rw [List.countP_map]
          rfl
        simp only [hmatched, outstanding, fired, ← hperm]
        omega
  | check ack packet =>
      simp only [perform]
      split
      · rename_i htime
        have hcount := honce ack packet rfl htime
        have howes : [(.check ack packet : Work json)].countP (Work.owes serial) =
            if ack.serial = serial then 1 else 0 := by
          simp [List.countP_singleton, Work.owes]
        rw [owes_ackWork reader, howes]
        split
        · omega
        · omega
      · simp
  | takeClose reason epoch =>
      simp only [perform]
      split
      · cases flavour with
        | sync => exact Nat.le_of_eq rfl
        | async => exact Nat.le_of_eq rfl
      · exact Nat.le_of_eq rfl
  | putClose => exact Nat.le_of_eq rfl
  | invoke invocation =>
      -- what was owed becomes an invocation that was made
      have howes : [(.invoke invocation : Work json)].countP (Work.owes serial) =
          [invocation].countP (Invocation.fires serial) := rfl
      have hcalls : (s.calls ++ [invocation]).countP (Invocation.fires serial) =
          s.calls.countP (Invocation.fires serial) +
            [invocation].countP (Invocation.fires serial) := List.countP_append
      simp only [perform, fired, outstanding, howes, hcalls, List.countP_nil]
      omega

/-! ## Steps and runs -/

/-- A step that looks at an entry, and finds it in time, does so for an ack with one payload. -/
def AnsweredOnce (s : Traffic json) : Label json → Prop
  | .work i now => ∀ thread ack packet rest, s.threads[i]? = some thread →
      thread.work = .check ack packet :: rest → ack.inTime now = true → payloadCount packet ≤ 1
  | _ => True

theorem owed_set {threads : List (Thread json)} {i : Nat} {thread : Thread json}
    (hi : threads[i]? = some thread) (other : Thread json) :
    ((threads.set i other).map (Thread.owed serial)).sum + thread.owed serial =
      (threads.map (Thread.owed serial)).sum + other.owed serial := by
  induction threads generalizing i with
  | nil => simp at hi
  | cons first threads ih =>
      cases i with
      | zero =>
          obtain rfl := Option.some.inj hi
          simp only [List.set_cons_zero, List.map_cons, List.sum_cons]
          omega
      | succ i =>
          have hrest := ih hi
          simp only [List.set_cons_succ, List.map_cons, List.sum_cons]
          omega

/-- What a callback owes does not grow where nothing else about it changes. -/
theorem load_le {s s' : Traffic json} (hcalls : s'.calls = s.calls)
    (hacks : s'.outstanding serial ≤ s.outstanding serial)
    (hregistered : s'.registered = s.registered)
    (howed : s'.owed serial ≤ s.owed serial) : s'.load serial ≤ s.load serial := by
  have hfired : s'.fired serial = s.fired serial := by rw [fired, fired, hcalls]
  rw [load, load, hfired, hregistered]
  omega

/-- A send adds the entries it registers. -/
theorem load_send (s : Traffic json) (failures : List (Option Engineio.Error))
    {operation : RawClient → Except Error Unit × RawClient} {packet : Str → Packet}
    {entries : List Ack} (hop : Sends operation packet entries) :
    (s.send failures operation).load serial =
      s.load serial + entries.countP fun ack => ack.serial = serial := by
  simp only [load, send, hop _, fired, owed, outstanding, List.countP_append]
  simp only [RawClient.failing]
  omega

variable {flavour reader registrations}

/-- **The load never grows** at a step that meets the condition. -/
theorem load_step {s s' : Traffic json} {label : Label json} (honce : s.AnsweredOnce label)
    (h : s.step flavour reader registrations label = some s') :
    s'.load serial ≤ s.load serial := by
  have hsame : s.outstanding serial ≤ s.outstanding serial := Nat.le_refl _
  cases step_cases h with
  | packet packet =>
      have howed := owed_readPacket_le flavour reader registrations serial s packet
      obtain ⟨reason, stage, threads, hframe⟩ :=
        readPacket_frame flavour reader registrations s packet
      rw [hframe] at howed ⊢
      exact load_le serial rfl hsame rfl howed
  | pollError text =>
      have howed := owed_readError_le flavour reader registrations serial s text
      obtain ⟨stage, threads, hframe⟩ := readError_frame flavour reader registrations s text
      rw [hframe] at howed ⊢
      exact load_le serial rfl hsame rfl howed
  | streamEnd =>
      have howed := owed_endStream_le reader registrations serial s
      obtain ⟨stage, threads, hframe⟩ := endStream_frame reader registrations s
      rw [hframe] at howed ⊢
      exact load_le serial rfl hsame rfl howed
  | work i now thread work rest hi hwork =>
      have hdone := perform_le flavour reader serial s now work
        fun ack packet hcheck htime => honce thread ack packet rest hi (hcheck ▸ hwork) htime
      have hset := owed_set serial hi
        { thread with work := (s.perform flavour reader now work).1 ++ rest }
      have hregistered : (s.perform flavour reader now work).2.registered = s.registered := by
        obtain ⟨_, _, _, hframe⟩ := perform_frame flavour reader s now work
        rw [hframe]
      have hthread : thread.owed serial =
          [work].countP (Work.owes serial) + rest.countP (Work.owes serial) := by
        rw [Thread.owed, hwork, ← List.countP_append]
        rfl
      have hnext : Thread.owed serial
          { thread with work := (s.perform flavour reader now work).1 ++ rest } =
            (s.perform flavour reader now work).1.countP (Work.owes serial) +
              rest.countP (Work.owes serial) := List.countP_append
      simp only [load, fired, outstanding, owed, hregistered] at hdone ⊢
      rw [hthread, hnext] at hset
      omega
  | emit event data failures =>
      obtain ⟨packet, hop⟩ := RawClient.sends_emit event data
      exact Nat.le_of_eq (load_send serial s failures hop)
  | ack data ackId failures =>
      obtain ⟨packet, hop⟩ := RawClient.sends_ack data ackId
      exact Nat.le_of_eq (load_send serial s failures hop)
  | emitWithAck event data timeout id now failures =>
      -- the new entry is the callback that was to be registered next
      obtain ⟨packet, hop⟩ := RawClient.sends_emitWithAck event data timeout s.registered id now
      have hsend := load_send serial s failures hop
      have hentry : ([⟨s.registered, id.val, now, timeout⟩] : List Ack).countP
          (fun ack => ack.serial = serial) = if s.registered = serial then 1 else 0 := by
        simp [List.countP_cons]
      rw [hentry] at hsend
      have hunregistered : (if serial < s.registered then 0 else 1) =
          (if serial < s.registered + 1 then 0 else 1) +
            if s.registered = serial then 1 else 0 := by
        split <;> split <;> split <;> omega
      simp only [load, fired, owed, outstanding] at hsend ⊢
      have hregistered : (s.send failures fun client =>
        client.emitWithAck event data timeout s.registered id now).registered = s.registered := rfl
      rw [hregistered] at hsend
      omega
  | engineClosed => exact load_le serial rfl hsame rfl (Nat.le_refl _)
  | announce => exact load_le serial rfl hsame rfl (Nat.le_refl _)
  | stopReader => exact load_le serial rfl hsame rfl (owed_abort_le serial _ false)
  | stopIdle => exact load_le serial rfl hsame rfl (Nat.le_refl _)
  | disconnectSync failures =>
      have howes := owes_closeWork reader registrations serial .ioClientDisconnect s.epoch
      exact load_le serial rfl hsame rfl (Nat.le_of_eq (owed_spawn serial _ howes false true))
  | disconnectAsync failures => exact load_le serial rfl hsame rfl (Nat.le_refl _)
  | abortTasks => exact load_le serial rfl hsame rfl (owed_abort_le serial _ true)
  | install => exact load_le serial rfl hsame rfl (Nat.le_refl _)
  | sessionSync => exact load_le serial rfl (Nat.zero_le _) rfl (Nat.le_refl _)
  | sessionAsync => exact load_le serial rfl hsame rfl (Nat.le_refl _)
  | giveUp => exact load_le serial rfl hsame rfl (Nat.le_refl _)

/-- A thread whose next piece of work is an invocation makes it. -/
theorem step_invoke (flavour : Flavour) (reader : FromStr json) (registrations : Registrations)
    {s : Traffic json} {i : Nat} {thread : Thread json} {invocation : Invocation json}
    {rest : List (Work json)} (hi : s.threads[i]? = some thread)
    (hwork : thread.work = .invoke invocation :: rest) :
    ∃ s', s.step flavour reader registrations (.work i 0) = some s' ∧
      s'.calls = s.calls ++ [invocation] ∧
      s'.threads[i]? = some { thread with work := rest } := by
  obtain ⟨hlt, -⟩ := List.getElem?_eq_some_iff.mp hi
  refine ⟨_, (proceed_eq_some flavour reader).mpr ⟨thread, _, rest, hi, hwork, rfl⟩, rfl, ?_⟩
  simp [hlt, perform]

theorem run_invoke_twice {s : Traffic json} {i : Nat} {thread : Thread json}
    {first second : Invocation json} {rest : List (Work json)}
    (hi : s.threads[i]? = some thread)
    (hwork : thread.work = .invoke first :: .invoke second :: rest) :
    ∃ s', Lts.run (step flavour reader registrations) s [.work i 0, .work i 0] = some s' ∧
      s'.calls = s.calls ++ [first, second] := by
  obtain ⟨t, ht, hcalls, hnext⟩ := step_invoke flavour reader registrations hi hwork
  obtain ⟨u, hu, hcalls', -⟩ := step_invoke flavour reader registrations hnext rfl
  refine ⟨u, ?_, ?_⟩
  · rw [Lts.run_cons, ht, Option.bind_some, Lts.run_cons, hu]
    rfl
  · rw [hcalls', hcalls, List.append_assoc]
    rfl

/-- A look that does not meet the condition may be followed by two invocations. -/
theorem fired_twice {s : Traffic json} {label : Label json} (h : ¬ s.AnsweredOnce label) :
    ∃ labels s', Lts.run (step flavour reader registrations) s labels = some s' ∧
      ∃ serial, 2 ≤ s'.fired serial := by
  cases label with
  | work i now =>
      simp only [AnsweredOnce, not_forall, Nat.not_le] at h
      obtain ⟨thread, ack, packet, rest, hi, hwork, htime, hcount⟩ := h
      obtain ⟨hlt, -⟩ := List.getElem?_eq_some_iff.mp hi
      have hlength : 1 < (ackPayloads reader packet).length := by
        simpa [ackPayloads, payloadCount] using hcount
      rcases hpayloads : ackPayloads reader packet with _ | ⟨first, _ | ⟨second, more⟩⟩
      · simp [hpayloads] at hlength
      · simp [hpayloads] at hlength
      · have hlook : ∃ t, s.step flavour reader registrations (.work i now) = some t ∧
            t.threads[i]? = some { thread with work := ackWork reader ack packet ++ rest } := by
          refine ⟨_, (proceed_eq_some flavour reader).mpr ⟨thread, _, rest, hi, hwork, rfl⟩, ?_⟩
          simp [hlt, perform, htime]
        have hready : ackWork reader ack packet ++ rest =
            .invoke (.ack ack first) :: .invoke (.ack ack second) ::
              ((more.map fun payload => .invoke (.ack ack payload)) ++ rest) := by
          simp [ackWork, hpayloads]
        obtain ⟨t, ht, hnext⟩ := hlook
        obtain ⟨s', hrun, hcalls⟩ := run_invoke_twice hnext hready
        refine ⟨[.work i now, .work i 0, .work i 0], s', ?_, ack.serial, ?_⟩
        · rw [Lts.run_cons, ht]
          exact hrun
        · rw [fired, hcalls]
          simp [Invocation.fires]
  | _ => exact absurd trivial h

/-- **How often the callback of a request is invoked.**  In a run that looks at no entry in time for
an ack with two payloads, every callback is invoked at most once; after a run that comes to such a
look, one may be invoked twice. -/
theorem fired_le_one (nsp : Str) {labels : List (Label json)} {s : Traffic json}
    (h : Lts.run (step flavour reader registrations) (init json registrations nsp) labels =
      some s) :
    (Lts.Along (step flavour reader registrations) AnsweredOnce (init json registrations nsp)
        labels → ∀ serial, s.fired serial ≤ 1) ∧
      ((∃ label, ¬ s.AnsweredOnce label) → ∃ labels s',
        Lts.run (step flavour reader registrations) s labels = some s' ∧
          ∃ serial, 2 ≤ s'.fired serial) := by
  constructor
  · intro honce serial
    have hload : s.load serial ≤ 1 := by
      apply Lts.invariant_along (P := fun s : Traffic json => s.load serial ≤ 1) ?_ ?_ honce h
      · intro s label s' hs hG hstep
        exact (load_step serial hG hstep).trans hs
      · exact Nat.le_of_eq rfl
    rw [load] at hload
    omega
  · rintro ⟨label, hlabel⟩
    exact fired_twice hlabel

/-- One request, and the packet that answers it, handled to the end. -/
def answered (packet : Packet) : List (Label .integers) :=
  [.emitWithAck .message (.text [] none) 10 ⟨7, by decide⟩ 0 [], .packet packet, .work 0 1,
    .work 0 1, .work 0 1]

/-- An answer with a text. -/
def textAck : Packet := ⟨.ack, ['/'], some "[1]".toList, some 7, 0, none⟩

theorem fired_le_one_textAck :
    ∃ s, Lts.run (step .sync .integers .all) (init .integers .all ['/']) (answered textAck) =
        some s ∧ ∀ serial, s.fired serial ≤ 1 := by
  refine ⟨_, rfl, (@fired_le_one _ .sync .integers .all ['/'] (answered textAck) _ rfl).1 ?_⟩
  refine .cons rfl trivial (.cons rfl trivial (.cons rfl ?_ (.cons rfl ?_ (.cons rfl ?_ (.nil _)))))
  · intro thread ack packet rest hi hwork _
    cases hi
    cases hwork
  · intro thread ack packet rest hi hwork _
    cases hi
    cases hwork
    decide
  · intro thread ack packet rest hi hwork _
    cases hi
    cases hwork

/-! ## An ack with a text and an attachment -/

/-- The server answers request 7 with a text and a buffer. -/
def mixedText : Str := "61-7[\"x\",".toList ++ (placeholder 0 ++ [']'])

def mixedAck : Packet :=
  ⟨.binaryAck, ['/'], some "\"x\"".toList, some 7, 1, some [[1]]⟩

theorem received_mixedText (flavour : Flavour) :
    received .integers flavour mixedText [[1]] = .returned (.ok mixedAck) := by
  have htext : BinaryText .binaryAck 1 ['/'] ['7'] (mixedText.drop 4) mixedText :=
    binaryText_of_default (by decide) (by decide)
  have hprint : Json.print Text.printInt (.array [.string ['x'], placeholderValue .integers 0]) =
      mixedText.drop 4 := toString_binaryEvent .integers ['x'] 0
  have hjson : SerdeJson.integers.isJson (mixedText.drop 4) = true := by
    rw [← hprint]
    exact SerdeJson.integers.isJson_print _
  refine (received_iff htext rfl ⟨'[', _, rfl, rfl⟩ (by simp) flavour).mpr
    ⟨by decide, by decide, hjson, ?_⟩
  decide

/-- One request, answered once with a text and a buffer: its callback is invoked twice. -/
theorem fired_mixedAck :
    received .integers .sync mixedText [[1]] = .returned (.ok mixedAck) ∧
      ∃ s, Lts.run (step .sync .integers .all) (init .integers .all ['/'])
          (answered mixedAck ++ [.work 0 1]) = some s ∧ s.registered = 1 ∧ s.fired 0 = 2 :=
  ⟨received_mixedText .sync, _, rfl, rfl, rfl⟩

end Traffic

end TfSocketio.Socketio
