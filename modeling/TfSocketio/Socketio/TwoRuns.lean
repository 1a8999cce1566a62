/-
# Socketio.TwoRuns — a run, and the run into which packets of other namespaces are inserted.

The inserted packets set the flag of the socket, and as long as they do no more the two runs are the
`Same`, the flag and what it decides apart.  While a teardown of the asynchronous client is
announced, an inserted packet stops its reader as any other does: then the run with the packets is
`Behind` the run without, in that its tasks are aborted before those of the other are.
-/
import TfSocketio.Socketio.Traffic

namespace TfSocketio.Socketio

open Text (Str)

/-! ## What a send looks at -/

/-- What an emit returns, and what it leaves of the client, depends on two fields of the client. -/
theorem EngineClient.emit_congr {a b : EngineClient} (hc : a.connected = b.connected)
    (hf : a.failures = b.failures) (packet : Engineio.Packet) :
    (a.emit packet).1 = (b.emit packet).1 ∧
      (a.emit packet).2.connected = (b.emit packet).2.connected ∧
      (a.emit packet).2.failures = (b.emit packet).2.failures := by
  obtain ⟨connected, failures, emitted, incoming⟩ := a
  obtain ⟨connected', failures', emitted', incoming'⟩ := b
  obtain rfl : connected = connected' := hc
  obtain rfl : failures = failures' := hf
  cases connected with
  | false => exact ⟨rfl, rfl, rfl⟩
  | true =>
      rcases failures with _ | ⟨_ | e, failures⟩
      · exact ⟨rfl, rfl, rfl⟩
      · exact ⟨rfl, rfl, rfl⟩
      · exact ⟨rfl, rfl, rfl⟩

theorem EngineClient.emit_connected (client : EngineClient) (packet : Engineio.Packet) :
    (client.emit packet).2.connected = client.connected := by
  rw [EngineClient.emit]
  split
  · split <;> rfl
  · rfl

theorem EngineClient.emitAll_congr {a b : EngineClient} (hc : a.connected = b.connected)
    (hf : a.failures = b.failures) (packets : List Engineio.Packet) :
    (a.emitAll packets).1 = (b.emitAll packets).1 := by
  induction packets generalizing a b with
  | nil => rfl
  | cons packet packets ih =>
      obtain ⟨hresult, hconnected, hfailures⟩ := EngineClient.emit_congr hc hf packet
      simp only [EngineClient.emitAll]
      rcases ha : a.emit packet with ⟨e | ⟨⟩, a'⟩
      · rcases hb : b.emit packet with ⟨e' | ⟨⟩, b'⟩
        · simp_all
        · simp_all
      · rcases hb : b.emit packet with ⟨e' | ⟨⟩, b'⟩
        · simp_all
        · rw [ha, hb] at hconnected hfailures
          exact ih hconnected hfailures

theorem EngineClient.emitAll_connected (client : EngineClient) (packets : List Engineio.Packet) :
    (client.emitAll packets).2.connected = client.connected := by
  induction packets generalizing client with
  | nil => rfl
  | cons packet packets ih =>
      have hconnected := client.emit_connected packet
      rcases hemit : client.emit packet with ⟨e | ⟨⟩, client'⟩
      · rw [hemit] at hconnected
        simp only [EngineClient.emitAll, hemit]
        exact hconnected
      · rw [hemit] at hconnected
        simp only [EngineClient.emitAll, hemit]
        exact (ih client').trans hconnected

/-- The flags that a send looks at. -/
structure Flags where
  engineConnected : Bool
  connected : Bool

def Socket.flags (s : Socket) : Flags := ⟨s.engineClient.connected, s.connected⟩

@[simp] theorem Socket.send_flags (s : Socket) (packet : Packet) :
    (s.send packet).2.flags = s.flags := by
  have hconnected := s.engineClient.emitAll_connected packet.enginePackets
  rw [Socket.send]
  split
  · split
    · rename_i engineClient hemit
      rw [hemit] at hconnected
      exact congrArg (Flags.mk · s.connected) hconnected
    · rename_i e engineClient hemit
      rw [hemit] at hconnected
      exact congrArg (Flags.mk · s.connected) hconnected
  · rfl

theorem Socket.disconnect_flags (s : Socket) : s.disconnect.flags = ⟨false, false⟩ := by
  rw [Socket.disconnect, Socket.flags]
  split
  · rfl
  · rename_i hclosed
    simp only [Bool.not_eq_true] at hclosed
    rw [hclosed]

/-- Two sockets that differ in their own flag only return the same, unless engine.io is connected
and the flag matters. -/
theorem Socket.send_result_iff {a b : Socket}
    (hc : a.engineClient.connected = b.engineClient.connected)
    (hf : a.engineClient.failures = b.engineClient.failures) (packet : Packet) :
    (a.send packet).1 = (b.send packet).1 ↔
      (a.engineClient.connected = true → a.connected = b.connected) := by
  have hemit := EngineClient.emitAll_congr hc hf packet.enginePackets
  simp only [Socket.send, ← hc]
  cases a.engineClient.connected with
  | false => simp
  | true =>
      rcases ha : a.engineClient.emitAll packet.enginePackets with ⟨e | ⟨⟩, a'⟩
      · rcases hb : b.engineClient.emitAll packet.enginePackets with ⟨e' | ⟨⟩, b'⟩
        · rw [ha, hb] at hemit
          obtain rfl : e = e' := by simpa using hemit
          cases a.connected <;> cases b.connected <;> simp
        · simp [ha, hb] at hemit
      · rcases hb : b.engineClient.emitAll packet.enginePackets with ⟨e' | ⟨⟩, b'⟩
        · simp [ha, hb] at hemit
        · cases a.connected <;> cases b.connected <;> simp

/-! ## What an abort leaves -/

section Abort

variable {json : SerdeJson} (thread : Thread json)

/-- To abort all that is not terminal, and more, is the same in either order. -/
theorem Thread.abort_abort (includeTerminal : Bool) :
    (thread.abort false).abort includeTerminal = (thread.abort includeTerminal).abort false := by
  cases hterminal : thread.terminal <;> cases includeTerminal <;> simp [Thread.abort, hterminal]

theorem Thread.abort_idem : (thread.abort false).abort false = thread.abort false := by
  cases hterminal : thread.terminal <;> simp [Thread.abort, hterminal]

end Abort

namespace Traffic

variable {json : SerdeJson}

/-! ## The run with the inserted packets -/

/-- What the run with the inserted packets and the run without have in common at any time. -/
structure Common (s t : Traffic json) : Prop where
  nsp : s.client.nsp = t.client.nsp
  engineConnected :
    s.client.socket.engineClient.connected = t.client.socket.engineClient.connected
  epoch : s.epoch = t.epoch
  reason : s.reason = t.reason
  closeCallback : s.closeCallback = t.closeCallback
  registered : s.registered = t.registered

/-- They differ in the flag of the socket, and in what it decides. -/
structure Same (s t : Traffic json) : Prop extends Common s t where
  stage : s.stage = t.stage
  threads : s.threads = t.threads
  acks : s.client.outstandingAcks = t.client.outstandingAcks
  calls : s.calls = t.calls

/-- The reader of the one has found out at an inserted packet that a teardown is announced, and has
aborted what the other is going to abort. -/
structure Behind (s t : Traffic json) : Prop extends Common s t where
  manual : t.reason = .manual
  stopped : s.stage = .stopped
  stopping : t.stage ≠ .reconnecting
  threads : s.threads = t.threads.map (Thread.abort false)
  acks : t.client.outstandingAcks.Sublist s.client.outstandingAcks
  calls : s.calls.Sublist t.calls

theorem Same.refl (s : Traffic json) : Same s s where
  nsp := rfl
  engineConnected := rfl
  epoch := rfl
  reason := rfl
  closeCallback := rfl
  registered := rfl
  stage := rfl
  threads := rfl
  acks := rfl
  calls := rfl

theorem Same.canRead {s t : Traffic json} (h : Same s t) : s.canRead = t.canRead := by
  rw [Traffic.canRead, Traffic.canRead, h.stage, h.threads]

theorem Same.spawn {s t : Traffic json} (h : Same s t) (work : List (Work json))
    (inline terminal : Bool) : Same (s.spawn work inline terminal) (t.spawn work inline terminal) :=
  { h with threads := congrArg (· ++ _) h.threads }

theorem Same.abort {s t : Traffic json} (h : Same s t) (includeTerminal : Bool) :
    Same (s.abort includeTerminal) (t.abort includeTerminal) :=
  { h with threads := congrArg (List.map _) h.threads }

/-- Both readers drop the stream. -/
theorem Same.quit {s t : Traffic json} (h : Same s t) (stage : Stage) :
    Same (s.quit stage) (t.quit stage) :=
  { h with stage := rfl, threads := congrArg (List.map _) h.threads }

/-- The one reader drops the stream at an inserted packet. -/
theorem Same.quit_left {s t : Traffic json} (h : Same s t) (hreason : t.reason = .manual)
    (hreading : t.stage = .reading) : Behind (s.quit .stopped) t :=
  { h with
    manual := hreason
    stopped := rfl
    stopping := by simp [hreading]
    threads := congrArg (List.map _) h.threads
    acks := h.acks ▸ List.Sublist.refl _
    calls := h.calls ▸ List.Sublist.refl _ }

theorem Behind.abort {s t : Traffic json} (h : Behind s t) (includeTerminal : Bool) :
    Behind (s.abort includeTerminal) (t.abort includeTerminal) := by
  refine { h with threads := ?_ }
  show s.threads.map _ = (t.threads.map _).map _
  rw [h.threads, List.map_map, List.map_map]
  exact List.map_congr_left fun thread _ => thread.abort_abort includeTerminal

/-- The other reader drops the stream as well. -/
theorem Behind.quit_right {s t : Traffic json} (h : Behind s t) : Behind s (t.quit .stopped) := by
  refine { h with stopping := by simp [Traffic.quit, Traffic.abort], threads := ?_ }
  show s.threads = (t.threads.map _).map _
  rw [h.threads, List.map_map]
  exact List.map_congr_left fun thread _ => thread.abort_idem.symm

theorem Behind.canRead {s t : Traffic json} (h : Behind s t) : s.canRead = false := by
  simp [Traffic.canRead, h.stopped]

/-! ## Which work a thread has -/

/-- A piece of work that a thread of the asynchronous client may have: one that is terminal takes no
acks out. -/
def Work.Settled (terminal : Bool) : Work json → Prop
  | .putClose => False
  | .takeAcks _ => terminal = false
  | _ => True

def Settled (t : Traffic json) : Prop :=
  ∀ thread ∈ t.threads, ∀ work ∈ thread.work, Work.Settled thread.terminal work

section Settled

variable {reader : FromStr json} {registrations : Registrations} {t t' : Traffic json}

theorem settled_callbackWork (terminal : Bool) (event : Event) (payload : Payload json)
    (ackId : Option Int) :
    ∀ work ∈ callbackWork registrations event payload ackId, Work.Settled terminal work := by
  simp [callbackWork, Work.Settled]

theorem settled_closeWork (terminal : Bool) (reason : CloseReason) (epoch : Nat) :
    ∀ work ∈ closeWork reader registrations reason epoch, Work.Settled terminal work := by
  intro work hwork
  rcases List.mem_append.mp hwork with hcallback | hclose
  · exact settled_callbackWork terminal _ _ _ work hcallback
  · obtain rfl := List.mem_singleton.mp hclose
    exact trivial

theorem settled_handlerWork (epoch : Nat) (packet : Packet) (handler : Handler) :
    ∀ work ∈ handlerWork reader registrations epoch packet handler,
      Work.Settled handler.terminal work := by
  cases handler with
  | ack => simp [handlerWork, Work.Settled, Handler.terminal]
  | binaryEvent => simp [handlerWork, Work.Settled]
  | connect => exact settled_callbackWork _ _ _ _
  | disconnect => exact settled_closeWork _ _ _
  | connectError => exact settled_callbackWork _ _ _ _
  | event =>
      rw [handlerWork]
      split
      · simp [Work.Settled]
      · exact settled_callbackWork _ _ _ _

theorem Settled.spawn (h : Settled t) {work : List (Work json)} (inline : Bool) {terminal : Bool}
    (hwork : ∀ piece ∈ work, Work.Settled terminal piece) :
    Settled (t.spawn work inline terminal) := by
  intro thread hthread
  rcases List.mem_append.mp hthread with hold | hnew
  · exact h thread hold
  · obtain rfl := List.mem_singleton.mp hnew
    exact hwork

theorem Settled.abort (h : Settled t) (includeTerminal : Bool) :
    Settled (t.abort includeTerminal) := by
  intro thread hthread
  obtain ⟨old, hold, rfl⟩ := List.mem_map.mp hthread
  rw [Thread.abort]
  split
  · simp
  · exact h old hold

theorem Settled.quit (h : Settled t) (stage : Stage) : Settled (t.quit stage) :=
  Settled.abort (t := { t with stage }) h false

theorem Settled.readPacket (h : Settled t) (packet : Packet) :
    Settled (t.readPacket .async reader registrations packet) := by
  rw [Traffic.readPacket]
  split
  · exact Settled.quit (t := t.setConnected _) h .stopped
  · rw [handlePacket]
    split
    · rename_i handler _
      refine Settled.spawn ?_ _ (settled_handlerWork _ _ _)
      cases handler with
      | disconnect =>
          exact Settled.abort (t := { t.setConnected _ with reason := .server }) h false
      | connect => exact h
      | ack => exact h
      | binaryEvent => exact h
      | connectError => exact h
      | event => exact h
    · exact h

theorem settled_perform (t : Traffic json) (now : Nat) (work : Work json) (terminal : Bool) :
    ∀ next ∈ (t.perform .async reader now work).1, Work.Settled terminal next := by
  cases work with
  | takeAcks packet =>
      simp only [perform]
      split <;> simp [Work.Settled]
  | check ack packet =>
      simp only [perform]
      split <;> simp [ackWork, Work.Settled]
  | takeClose reason epoch =>
      simp only [perform]
      split <;> simp [Work.Settled]
  | putClose => simp [perform]
  | invoke invocation => simp [perform]

theorem Settled.step (h : Settled t) {label : Label json}
    (ht : t.step .async reader registrations label = some t') : Settled t' := by
  cases step_cases ht with
  | packet packet => exact h.readPacket packet
  | pollError text =>
      rw [Traffic.readError]
      split
      · exact h.quit .stopped
      · exact h.spawn _ (settled_callbackWork _ _ _ _)
  | streamEnd =>
      rw [Traffic.endStream]
      split
      · exact (h.quit .reconnecting).spawn _ (settled_closeWork _ _ _)
      · exact h.quit .stopped
      · exact h.quit .reconnecting
  | work i now thread work rest hi hwork =>
      intro other hother
      rcases List.mem_or_eq_of_mem_set hother with hold | rfl
      · exact h other hold
      · have hthread := h thread (List.mem_of_getElem? hi)
        rw [hwork, List.forall_mem_cons] at hthread
        intro next hnext
        exact (List.mem_append.mp hnext).elim (settled_perform t now work _ next)
          (hthread.2 next)
  | stopReader => exact h.quit .stopped
  | disconnectSync _ hsync => cases hsync
  | sessionSync hsync => cases hsync
  | abortTasks => exact h.abort true
  | _ => exact h

end Settled

/-! ## One step of both, with the flag apart -/

section Step

variable {flavour : Flavour} {reader : FromStr json} {registrations : Registrations}
  {s t t' : Traffic json}

theorem Common.send (h : Common s t) (failures : List (Option Engineio.Error))
    {operation : RawClient → Except Error Unit × RawClient} {packet : Str → Packet}
    {entries : List Ack} (hop : Sends operation packet entries) :
    Common (s.send failures operation) (t.send failures operation) := by
  simp only [Traffic.send, hop _]
  refine { h with engineConnected := ?_ }
  have hs := congrArg Flags.engineConnected
    ((s.client.failing failures).socket.send_flags (packet s.client.nsp))
  have ht := congrArg Flags.engineConnected
    ((t.client.failing failures).socket.send_flags (packet t.client.nsp))
  exact hs.trans (h.engineConnected.trans ht.symm)

theorem Same.send (h : Same s t) (failures : List (Option Engineio.Error))
    {operation : RawClient → Except Error Unit × RawClient} {packet : Str → Packet}
    {entries : List Ack} (hop : Sends operation packet entries) :
    Same (s.send failures operation) (t.send failures operation) := by
  have hcommon := h.toCommon.send failures hop
  simp only [Traffic.send, hop _] at hcommon ⊢
  exact { hcommon, h with acks := congrArg (· ++ entries) h.acks }

theorem Behind.send (h : Behind s t) (failures : List (Option Engineio.Error))
    {operation : RawClient → Except Error Unit × RawClient} {packet : Str → Packet}
    {entries : List Ack} (hop : Sends operation packet entries) :
    Behind (s.send failures operation) (t.send failures operation) := by
  have hcommon := h.toCommon.send failures hop
  simp only [Traffic.send, hop _] at hcommon ⊢
  exact { hcommon, h with acks := h.acks.append_right entries }

theorem Common.disconnect (h : Common s t) (failures : List (Option Engineio.Error)) :
    Common { s with client := (s.client.failing failures).disconnect }
      { t with client := (t.client.failing failures).disconnect } :=
  { h with
    engineConnected :=
      congrArg Flags.engineConnected ((Socket.disconnect_flags _).trans
        (Socket.disconnect_flags _).symm) }

theorem Same.enterHandler (h : Same s t) (handler : Handler) :
    Same (s.enterHandler flavour handler) (t.enterHandler flavour handler) := by
  cases flavour with
  | sync => exact h
  | async =>
      cases handler with
      | connect => exact { h with reason := rfl }
      | disconnect =>
          have hreason : Same { s with reason := .server } { t with reason := .server } :=
            { h with reason := rfl }
          exact hreason.abort false
      | ack => exact h
      | binaryEvent => exact h
      | connectError => exact h
      | event => exact h

/-- The flag of the socket is no part of what the two have in common. -/
theorem Same.setConnected (h : Same s t) (connected connected' : Bool) :
    Same (s.setConnected connected) (t.setConnected connected') :=
  { h with }

theorem Common.quits (h : Common s t) : s.quits flavour = t.quits flavour := by
  rw [Traffic.quits, Traffic.quits, h.reason]

theorem Same.readPacket (h : Same s t) (packet : Packet) :
    Same (s.readPacket flavour reader registrations packet)
      (t.readPacket flavour reader registrations packet) := by
  have hflag := h.setConnected (handleSocketioPacket s.client.socket.connected packet)
    (handleSocketioPacket t.client.socket.connected packet)
  rw [Traffic.readPacket, Traffic.readPacket, hflag.quits]
  split
  · exact hflag.quit .stopped
  · simp only [Traffic.handlePacket, hflag.nsp, hflag.epoch]
    split
    · exact (hflag.enterHandler _).spawn _ _ _
    · exact hflag

theorem Same.readError (h : Same s t) (text : Str) :
    Same (s.readError flavour reader registrations text)
      (t.readError flavour reader registrations text) := by
  rw [Traffic.readError, Traffic.readError, h.quits]
  split
  · exact h.quit .stopped
  · exact h.spawn _ _ _

theorem Same.endStream (h : Same s t) :
    Same (s.endStream reader registrations) (t.endStream reader registrations) := by
  simp only [Traffic.endStream, h.reason, h.epoch]
  split
  · exact (h.quit .reconnecting).spawn _ _ _
  · exact h.quit .stopped
  · exact h.quit .reconnecting

/-- A piece of work leads to the same in both. -/
theorem Same.perform (h : Same s t) (now : Nat) (work : Work json) :
    (s.perform flavour reader now work).1 = (t.perform flavour reader now work).1 ∧
      Same (s.perform flavour reader now work).2 (t.perform flavour reader now work).2 := by
  cases work with
  | takeAcks packet =>
      simp only [Traffic.perform, h.acks]
      split
      · exact ⟨rfl, h⟩
      · exact ⟨rfl, { h with acks := rfl }⟩
  | check ack packet => exact ⟨rfl, h⟩
  | takeClose reason epoch =>
      simp only [Traffic.perform, h.closeCallback]
      split
      · cases flavour with
        | sync => exact ⟨rfl, { h with closeCallback := rfl }⟩
        | async => exact ⟨rfl, h⟩
      · exact ⟨rfl, h⟩
  | putClose => exact ⟨rfl, { h with closeCallback := rfl }⟩
  | invoke invocation => exact ⟨rfl, { h with calls := congrArg (· ++ [invocation]) h.calls }⟩

theorem Same.proceed (h : Same s t) {i now : Nat}
    (ht : t.proceed flavour reader i now = some t') :
    ∃ s', s.proceed flavour reader i now = some s' ∧ Same s' t' := by
  obtain ⟨thread, work, rest, hi, hwork, rfl⟩ := (proceed_eq_some flavour reader).mp ht
  obtain ⟨hnext, hperform⟩ :
      (s.perform flavour reader now work).1 = (t.perform flavour reader now work).1 ∧
        Same (s.perform flavour reader now work).2 (t.perform flavour reader now work).2 :=
    h.perform now work
  refine ⟨_, (proceed_eq_some flavour reader).mpr
    ⟨thread, work, rest, h.threads ▸ hi, hwork, rfl⟩, ?_⟩
  exact { hperform with threads := by rw [hnext, h.threads] }

/-- **A step of the run without is one of the run with**, as long as no inserted packet has stopped
the reader. -/
theorem Same.step (h : Same s t) {label : Label json}
    (ht : t.step flavour reader registrations label = some t') :
    ∃ s', s.step flavour reader registrations label = some s' ∧ Same s' t' := by
  cases step_cases ht with
  | packet packet hread => exact ⟨_, if_pos (h.canRead.trans hread), h.readPacket packet⟩
  | pollError text hread => exact ⟨_, if_pos (h.canRead.trans hread), h.readError text⟩
  | streamEnd hasync hreading =>
      exact ⟨_, if_pos ⟨hasync, h.stage.trans hreading⟩, h.endStream⟩
  | work i now => exact h.proceed ht
  | emit event data failures =>
      obtain ⟨packet, hop⟩ := RawClient.sends_emit event data
      exact ⟨_, rfl, h.send failures hop⟩
  | ack data ackId failures =>
      obtain ⟨packet, hop⟩ := RawClient.sends_ack data ackId
      exact ⟨_, rfl, h.send failures hop⟩
  | emitWithAck event data timeout id now failures =>
      obtain ⟨packet, hop⟩ :=
        RawClient.sends_emitWithAck event data timeout t.registered id now
      refine ⟨_, rfl, ?_⟩
      rw [h.registered]
      exact { h.send failures hop with registered := rfl }
  | engineClosed => exact ⟨_, rfl, { h with engineConnected := rfl }⟩
  | announce hasync => exact ⟨_, if_pos hasync, { h with reason := rfl }⟩
  | stopReader hasync hreading =>
      refine ⟨s.quit .stopped, ?_, h.quit .stopped⟩
      simp [Traffic.step, hasync, h.stage.trans hreading]
  | stopIdle hasync hidle =>
      refine ⟨{ s with stage := .stopped }, ?_, { h with stage := rfl }⟩
      simp [Traffic.step, hasync, h.stage ▸ hidle]
  | disconnectSync failures hsync =>
      subst hsync
      have hdisconnect : Same { s with client := (s.client.failing failures).disconnect }
          { t with client := (t.client.failing failures).disconnect } :=
        { h.toCommon.disconnect failures, h with }
      refine ⟨_, ?_, hdisconnect.spawn _ _ _⟩
      rw [← h.epoch]
      rfl
  | disconnectAsync failures hasync =>
      subst hasync
      exact ⟨_, rfl, { h.toCommon.disconnect failures, h with }⟩
  | abortTasks hasync => exact ⟨_, if_pos hasync, h.abort true⟩
  | install engineConnected connected hreconnecting =>
      exact ⟨_, if_pos (h.stage.trans hreconnecting), { h with engineConnected := rfl }⟩
  | sessionSync hsync hread =>
      subst hsync
      refine ⟨_, if_pos (h.canRead.trans hread), ?_⟩
      exact { h with
        acks := rfl, engineConnected := rfl, epoch := congrArg (· + 1) h.epoch }
  | sessionAsync hasync hreconnecting =>
      subst hasync
      refine ⟨_, if_pos (h.stage.trans hreconnecting), ?_⟩
      exact { h with epoch := congrArg (· + 1) h.epoch, stage := rfl }
  | giveUp hasync hreconnecting =>
      exact ⟨_, if_pos ⟨hasync, h.stage.trans hreconnecting⟩, { h with stage := rfl }⟩

end Step

/-! ## Behind the other -/

/-- The piece of work calls user code, or takes entries out of the outstanding acks. -/
def Work.Tells (outstanding : List Ack) : Work json → Prop
  | .takeAcks packet => ∃ ack ∈ outstanding, packet.id = some ack.id
  | .invoke _ => True
  | _ => False

/-- A task that a teardown aborts goes on, and it tells. -/
def Telling (t : Traffic json) : Label json → Prop
  | .work i _ => ∃ thread work rest, t.threads[i]? = some thread ∧ thread.terminal = false ∧
      thread.work = work :: rest ∧ Work.Tells t.client.outstandingAcks work
  | _ => False

/-- User code was called with the same, and is to be called with the same. -/
def CalledAlike (s t : Traffic json) : Prop :=
  s.calls = t.calls ∧ s.client.outstandingAcks = t.client.outstandingAcks

section Behind

variable {reader : FromStr json} {registrations : Registrations} {s t t' : Traffic json}

variable (reader) in
/-- A thread that is terminal does the same in both. -/
theorem Behind.perform_terminal (h : Behind s t) (now : Nat) {work : Work json}
    (hwork : Work.Settled true work) :
    (s.perform .async reader now work).1 = (t.perform .async reader now work).1 ∧
      Behind (s.perform .async reader now work).2 (t.perform .async reader now work).2 ∧
      (CalledAlike (s.perform .async reader now work).2 (t.perform .async reader now work).2 ↔
        CalledAlike s t) := by
  cases work with
  | takeAcks packet => cases hwork
  | check ack packet => exact ⟨rfl, h, Iff.rfl⟩
  | takeClose reason epoch =>
      simp only [Traffic.perform, h.closeCallback]
      split
      · exact ⟨rfl, h, Iff.rfl⟩
      · exact ⟨rfl, h, Iff.rfl⟩
  | putClose => exact hwork.elim
  | invoke invocation =>
      refine ⟨rfl, { h with calls := h.calls.append_right _ }, ?_⟩
      simp [CalledAlike, Traffic.perform]

variable (reader) in
/-- Of what a thread does that is aborted in the one, the other hears more. -/
theorem Behind.perform_right (h : Behind s t) (now : Nat) {work : Work json}
    (hwork : Work.Settled false work) :
    Behind s (t.perform .async reader now work).2 ∧
      (CalledAlike s (t.perform .async reader now work).2 ↔
        CalledAlike s t ∧ ¬ Work.Tells t.client.outstandingAcks work) := by
  cases work with
  | takeAcks packet =>
      cases hid : packet.id with
      | none => simpa [Traffic.perform, Work.Tells, hid] using h
      | some id =>
          have hfilter : ((t.client.outstandingAcks.filter fun ack => ack.id ≠ id) =
              t.client.outstandingAcks) ↔ ¬ Work.Tells t.client.outstandingAcks
                (.takeAcks packet : Work json) := by
            rw [List.filter_eq_self]
            simp [Work.Tells, hid, @eq_comm Int id]
          simp only [Traffic.perform, hid, takeMatching_async]
          refine ⟨{ h with acks := List.filter_sublist.trans h.acks }, ?_⟩
          rw [← hfilter]
          simp only [CalledAlike]
          constructor
          · rintro ⟨hcalls, hacks⟩
            -- the one still has what the other had
            have hkept := List.filter_sublist.antisymm (hacks ▸ h.acks)
            exact ⟨⟨hcalls, hacks.trans hkept⟩, hkept⟩
          · rintro ⟨⟨hcalls, hacks⟩, hkept⟩
            exact ⟨hcalls, hacks.trans hkept.symm⟩
  | check ack packet => exact ⟨h, by simp [Traffic.perform, Work.Tells]⟩
  | takeClose reason epoch =>
      simp only [Traffic.perform]
      split <;> exact ⟨h, by simp [Work.Tells]⟩
  | putClose => exact hwork.elim
  | invoke invocation =>
      refine ⟨{ h with calls := h.calls.trans (List.sublist_append_left _ _) }, ?_⟩
      simp only [Work.Tells, not_true_eq_false, and_false, iff_false]
      rintro ⟨hcalls, -⟩
      have hle := h.calls.length_le
      rw [hcalls] at hle
      simp [Traffic.perform] at hle

theorem Behind.proceed (h : Behind s t) (hsettled : Settled t) {i now : Nat}
    (ht : t.proceed .async reader i now = some t') :
    Behind ((s.proceed .async reader i now).getD s) t' ∧
      (CalledAlike ((s.proceed .async reader i now).getD s) t' ↔
        CalledAlike s t ∧ ¬ Telling t (.work i now)) := by
  obtain ⟨⟨todo, inline, terminal⟩, work, rest, hi, rfl, rfl⟩ :=
    (proceed_eq_some .async reader).mp ht
  have hpiece : Work.Settled terminal work :=
    hsettled _ (List.mem_of_getElem? hi) work List.mem_cons_self
  have hother : s.threads[i]? = some (Thread.abort false ⟨work :: rest, inline, terminal⟩) := by
    rw [h.threads, List.getElem?_map, hi]
    rfl
  cases terminal with
  | true =>
      -- both have the thread, and it goes on in both
      obtain ⟨hnext, hbehind, hcalled⟩ := h.perform_terminal reader now hpiece
      have hs : s.proceed .async reader i now = some _ :=
        (proceed_eq_some .async reader).mpr ⟨_, work, rest, hother, rfl, rfl⟩
      have htold : ¬ Telling t (.work i now) := by
        rintro ⟨other, _, _, hsome, hnot, -⟩
        obtain rfl := Option.some.inj (hi.symm.trans hsome)
        simp at hnot
      rw [hs, Option.getD_some]
      refine ⟨{ hbehind with threads := ?_ }, hcalled.trans (and_iff_left htold).symm⟩
      simp only [hnext, h.threads, List.map_set]
      rfl
  | false =>
      -- the one has aborted the thread
      obtain ⟨hbehind, hcalled⟩ := h.perform_right reader now hpiece
      have hs : s.proceed .async reader i now = none := by
        rw [Traffic.proceed, hother]
        rfl
      have htold : Telling t (.work i now) ↔ Work.Tells t.client.outstandingAcks work := by
        constructor
        · rintro ⟨other, _, _, hsome, -, hwork, htells⟩
          obtain rfl := Option.some.inj (hi.symm.trans hsome)
          obtain ⟨rfl, -⟩ := List.cons.inj hwork
          exact htells
        · exact fun htells => ⟨_, work, rest, hi, rfl, rfl, htells⟩
      rw [hs, Option.getD_none, htold]
      refine ⟨{ hbehind with threads := ?_ }, hcalled⟩
      obtain ⟨hlt, hget⟩ := List.getElem?_eq_some_iff.mp hother
      show s.threads = (t.threads.set i _).map _
      rw [List.map_set, ← h.threads]
      show s.threads = s.threads.set i (Thread.abort false ⟨work :: rest, inline, false⟩)
      rw [← hget, List.set_getElem_self]

theorem calledAlike_send (failures : List (Option Engineio.Error))
    {operation : RawClient → Except Error Unit × RawClient} {packet : Str → Packet}
    {entries : List Ack} (hop : Sends operation packet entries) :
    CalledAlike (s.send failures operation) (t.send failures operation) ↔
      CalledAlike s t ∧ ¬ False := by
  simp only [CalledAlike, Traffic.send, hop _, not_false_eq_true, and_true]
  exact and_congr_right fun _ => List.append_left_inj entries

/-- **A step of the run without, when the reader of the run with has stopped**: the one takes it if
it still can. -/
theorem Behind.step (h : Behind s t) (hsettled : Settled t) {label : Label json}
    (ht : t.step .async reader registrations label = some t') :
    Behind (Lts.attempt (Traffic.step .async reader registrations) s label) t' ∧
      (CalledAlike (Lts.attempt (Traffic.step .async reader registrations) s label) t' ↔
        CalledAlike s t ∧ ¬ Telling t label) := by
  have hquits : t.quits .async = true := by simp [Traffic.quits, h.manual]
  cases step_cases ht with
  | packet packet =>
      have hflag : Behind s
          (t.setConnected (handleSocketioPacket t.client.socket.connected packet)) := { h with }
      have hs : s.step .async reader registrations (.packet packet) = none := by
        simp [Traffic.step, h.canRead]
      have hread : t.readPacket .async reader registrations packet =
          (t.setConnected (handleSocketioPacket t.client.socket.connected packet)).quit .stopped :=
        if_pos hquits
      rw [Lts.attempt_of_stuck hs, hread]
      exact ⟨hflag.quit_right, (and_iff_left id).symm⟩
  | pollError text =>
      have hs : s.step .async reader registrations (.pollError text) = none := by
        simp [Traffic.step, h.canRead]
      have hread : t.readError .async reader registrations text = t.quit .stopped := if_pos hquits
      rw [Lts.attempt_of_stuck hs, hread]
      exact ⟨h.quit_right, (and_iff_left id).symm⟩
  | streamEnd =>
      have hs : s.step .async reader registrations .streamEnd = none := by
        simp [Traffic.step, h.stopped]
      have hend : t.endStream reader registrations = t.quit .stopped := by
        rw [Traffic.endStream, h.manual]
      rw [Lts.attempt_of_stuck hs, hend]
      exact ⟨h.quit_right, (and_iff_left id).symm⟩
  | work i now => exact h.proceed hsettled ht
  | emit event data failures =>
      obtain ⟨packet, hop⟩ := RawClient.sends_emit event data
      exact ⟨h.send failures hop, calledAlike_send failures hop⟩
  | ack data ackId failures =>
      obtain ⟨packet, hop⟩ := RawClient.sends_ack data ackId
      exact ⟨h.send failures hop, calledAlike_send failures hop⟩
  | emitWithAck event data timeout id now failures =>
      obtain ⟨packet, hop⟩ :=
        RawClient.sends_emitWithAck event data timeout t.registered id now
      have hs : s.step .async reader registrations
          (.emitWithAck event data timeout id now failures) = some { s.send failures
            fun client => client.emitWithAck event data timeout t.registered id now with
              registered := t.registered + 1 } := by
        rw [← h.registered]
        rfl
      rw [Lts.attempt_of_step hs]
      exact ⟨{ h.send failures hop with registered := rfl },
        calledAlike_send (s := s) (t := t) failures hop⟩
  | engineClosed => exact ⟨{ h with engineConnected := rfl }, (and_iff_left id).symm⟩
  | announce => exact ⟨{ h with reason := rfl, manual := rfl }, (and_iff_left id).symm⟩
  | stopReader =>
      have hs : s.step .async reader registrations .stopReader =
          some { s with stage := .stopped } := by
        simp [Traffic.step, h.stopped]
      rw [Lts.attempt_of_step hs]
      exact ⟨{ h.quit_right with stopped := rfl }, (and_iff_left id).symm⟩
  | stopIdle =>
      have hs : s.step .async reader registrations .stopReader =
          some { s with stage := .stopped } := by
        simp [Traffic.step, h.stopped]
      rw [Lts.attempt_of_step hs]
      exact ⟨{ h with stopped := rfl, stopping := by simp }, (and_iff_left id).symm⟩
  | disconnectSync _ hsync => cases hsync
  | disconnectAsync failures =>
      exact ⟨{ h.toCommon.disconnect failures, h with }, (and_iff_left id).symm⟩
  | abortTasks => exact ⟨h.abort true, (and_iff_left id).symm⟩
  | install _ _ hreconnecting => exact absurd hreconnecting h.stopping
  | sessionSync hsync => cases hsync
  | sessionAsync _ hreconnecting => exact absurd hreconnecting h.stopping
  | giveUp _ hreconnecting => exact absurd hreconnecting h.stopping

end Behind

end Traffic

end TfSocketio.Socketio
