/-
# Socketio.Reentrancy — callbacks of the synchronous client that call it back.

The thread that handles a packet runs user callbacks inline, and what they call on the client runs
inline too, callbacks of its own included.  `RawClient::callback` keeps the mutexes of `on` and
`on_any` locked while user code runs; the close chain and `handle_ack` run theirs with nothing
locked.  A std mutex is not reentrant.

The thread is a list of instructions, the next one first: handling a packet loads one, and a call
from a running callback puts its own in front.  `sound_iff_outside` says from which callbacks a
disconnect is safe; the other calls are safe from all of them.
-/
import TfSocketio.Lib.Lts
import TfSocketio.Socketio.Dispatch

namespace TfSocketio.Socketio.Sync

open Text (Str)

/-! ## The instructions -/

/-- The mutexes of a `RawClient`. -/
inductive Mutex where
  | on
  | onAny
  | onCloseWithSession
  | outstandingAcks
  deriving DecidableEq, Repr

inductive Instr (json : SerdeJson) where
  | lock (mutex : Mutex)
  | unlock (mutex : Mutex)
  /-- Call user code. -/
  | invoke (invocation : Invocation json)
  /-- User code that is running. -/
  | running (invocation : Invocation json)
  /-- Take the close callback out of its place, and run it with the mutex unlocked. -/
  | takeClose (reason : CloseReason) (epoch : Nat)
  | putClose
  /-- Take the entry an ack matches out of the outstanding ones, and call it. -/
  | takeAck (packet : Packet)
  | pushAck (ack : Ack)
  | send (packet : Packet)

/-- The mutexes that are locked while an invocation of user code runs, last one first. -/
def Invocation.locks {json : SerdeJson} : Invocation json → List Mutex
  | .callback _ => [.onAny, .on]
  | .closeWithSession _ _ => []
  | .ack _ _ => []

section Code

variable {json : SerdeJson} (reader : FromStr json) (registrations : Registrations)

/-- `RawClient::callback`. -/
def callbackCode (event : Event) (payload : Payload json) (ackId : Option Int) :
    List (Instr json) :=
  .lock .on :: .lock .onAny ::
    ((callback registrations.toCallbacks event payload ackId).map fun call =>
        .invoke (.callback call)) ++
      [.unlock .on, .unlock .onAny]

/-- `RawClient::callback_close`. -/
def closeCode (reason : CloseReason) (epoch : Nat) : List (Instr json) :=
  callbackCode registrations .close (.ofString reader reason.asStr) none ++
    [.lock .onCloseWithSession, .takeClose reason epoch]

/-- The branches of `handle_socketio_packet`. -/
def handlerCode (epoch : Nat) (packet : Packet) : Handler → List (Instr json)
  | .ack =>
      match packet.id with
      | some _ => [.lock .outstandingAcks, .takeAck packet]
      | none => []
  | .binaryEvent =>
      match packet.attachments with
      | some (binaryPayload :: _) =>
          callbackCode registrations (binaryEventOf packet) (.binary binaryPayload packet.id)
            packet.id
      | _ => []
  | .connect => callbackCode registrations .connect (.ofString reader []) none
  | .disconnect => closeCode reader registrations .ioServerDisconnect epoch
  | .connectError =>
      callbackCode registrations .error (.ofString reader (connectErrorText packet)) none
  | .event =>
      match packet.data with
      | none => []
      | some data =>
          match reader data with
          | some (.array []) =>
              callbackCode registrations .error (.ofString reader incompletePacketText) none
          | some (.array contents) =>
              callbackCode registrations (eventOf contents).1 (.text (eventOf contents).2 none)
                packet.id
          | _ => []

/-- `handle_socketio_packet`. -/
def packetCode (nsp : Str) (epoch : Nat) (packet : Packet) : List (Instr json) :=
  match handlerOf nsp packet with
  | some handler => handlerCode reader registrations epoch packet handler
  | none => []

end Code

/-! ## The thread -/

/-- The client, and the thread that handles a packet. -/
structure Handling (json : SerdeJson) where
  client : RawClient
  epoch : Nat
  registrations : Registrations
  held : List Mutex
  todo : List (Instr json)

/-- What user code calls. -/
inductive Op (json : SerdeJson) where
  | emit (event : Event) (data : Payload json)
  | emitWithAck (event : Event) (data : Payload json) (timeout : Nat) (callback : Nat)
      (id : Fin 999) (now : Nat)
  /-- `ack`, and with an id `ack_with_id`. -/
  | ack (data : Payload json) (ackId : Option Int)
  | disconnect

namespace Handling

variable {json : SerdeJson}

/-- The thread starts to handle a packet. -/
def start (reader : FromStr json) (client : RawClient) (epoch : Nat)
    (registrations : Registrations) (packet : Packet) : Handling json where
  client
  epoch
  registrations
  held := []
  todo := packetCode reader registrations client.nsp epoch packet

/-- What a call from user code does before its next lock, and the code it puts in front. -/
def call (reader : FromStr json) (s : Handling json) : Op json → Handling json
  | .emit event data => { s with client := (s.client.emit event data).2 }
  | .ack data ackId => { s with client := (s.client.ack data ackId).2 }
  | .emitWithAck event data timeout callback id now =>
      match Packet.newFromPayload json data event s.client.nsp (some id.val) with
      | .ok packet => { s with
          todo := .lock .outstandingAcks :: .pushAck ⟨callback, id.val, now, timeout⟩ ::
            .unlock .outstandingAcks :: .send packet :: s.todo }
      | .error _ => s
  | .disconnect => { s with
      client := s.client.disconnect
      todo := closeCode reader s.registrations .ioClientDisconnect s.epoch ++ s.todo }

inductive Label (json : SerdeJson) where
  /-- The next instruction, at some time. -/
  | advance (now : Nat)
  /-- User code calls the client. -/
  | call (op : Op json)
  /-- User code returns. -/
  | finish

/-- The next instruction.  A mutex that the thread holds itself blocks it for ever. -/
def advance (reader : FromStr json) (now : Nat) (s : Handling json) : Option (Handling json) :=
  match s.todo with
  | [] => none
  | .lock mutex :: todo =>
      if mutex ∈ s.held then none else some { s with held := mutex :: s.held, todo }
  | .unlock mutex :: todo => some { s with held := s.held.erase mutex, todo }
  | .invoke invocation :: todo => some { s with todo := .running invocation :: todo }
  | .running _ :: _ => none
  | .takeClose reason epoch :: todo =>
      if s.registrations.onCloseWithSession then
        some { s with
          registrations := { s.registrations with onCloseWithSession := false }
          todo := .unlock .onCloseWithSession :: .invoke (.closeWithSession reason epoch) ::
            .lock .onCloseWithSession :: .putClose :: .unlock .onCloseWithSession :: todo }
      else some { s with todo := .unlock .onCloseWithSession :: todo }
  | .putClose :: todo => some { s with
      registrations := { s.registrations with onCloseWithSession := true }
      todo }
  | .takeAck packet :: todo =>
      let (calls, outstandingAcks) :=
        handleAckCalls reader .sync packet now s.client.outstandingAcks
      some { s with
        client := { s.client with outstandingAcks }
        todo := .unlock .outstandingAcks ::
          (calls.map fun (ack, payload) => .invoke (.ack ack payload)) ++ todo }
  | .pushAck ack :: todo => some { s with
      client := { s.client with outstandingAcks := s.client.outstandingAcks ++ [ack] }
      todo }
  | .send packet :: todo => some { s with client := (s.client.send packet).2, todo }

def step (reader : FromStr json) (s : Handling json) : Label json → Option (Handling json)
  | .advance now => s.advance reader now
  | .call op =>
      match s.todo with
      | .running _ :: _ => some (s.call reader op)
      | _ => none
  | .finish =>
      match s.todo with
      | .running _ :: todo => some { s with todo }
      | _ => none

/-! ## What the callers rely on -/

/-- The thread is about to lock a mutex that it holds. -/
def Blocked (s : Handling json) : Prop :=
  ∃ mutex todo, s.todo = .lock mutex :: todo ∧ mutex ∈ s.held

/-- The entries that a packet leaves outstanding: all but the one it answers. -/
def untaken (nsp : Str) (packet : Packet) (outstanding : List Ack) : List Ack :=
  match handlerOf nsp packet, packet.id with
  | some .ack, some id => (takeMatching .sync id outstanding).2
  | _, _ => outstanding

/-- The registrations are those before a packet was handled; an ack that it answered is used up. -/
structure Restored (client : RawClient) (registrations : Registrations) (packet : Packet)
    (s : Handling json) : Prop where
  registrations : s.registrations = registrations
  outstandingAcks : untaken client.nsp packet client.outstandingAcks <+: s.client.outstandingAcks

/-- **Callbacks may call the client.**  The thread is not about to lock what it holds, and when it
is done every registration is in its place. -/
structure Sound (client : RawClient) (registrations : Registrations) (packet : Packet)
    (s : Handling json) : Prop where
  unblocked : ¬ s.Blocked
  restored : s.todo = [] → s.Restored client registrations packet

/-- A disconnect is not called from an `on` or an `on_any` callback. -/
def Outside (s : Handling json) : Label json → Prop
  | .call .disconnect => ∀ call todo, s.todo ≠ .running (.callback call) :: todo
  | _ => True

/-! ## Code that is safe to run -/

/-- With these mutexes held, the rest of the code never locks one of them, runs user code with
exactly the mutexes of its kind, and ends with none. -/
def Safe : List Mutex → List (Instr json) → Prop
  | held, [] => held = []
  | held, .lock mutex :: todo => mutex ∉ held ∧ Safe (mutex :: held) todo
  | held, .unlock mutex :: todo => Safe (held.erase mutex) todo
  | held, .invoke invocation :: todo => held = Invocation.locks invocation ∧ Safe held todo
  | held, .running invocation :: todo => held = Invocation.locks invocation ∧ Safe held todo
  -- these two unlock their mutex themselves, as the first of what they put in front
  | held, .takeClose _ _ :: todo => held = [.onCloseWithSession] ∧ Safe [] todo
  | held, .takeAck _ :: todo => held = [.outstandingAcks] ∧ Safe [] todo
  | held, .putClose :: todo => Safe held todo
  | held, .pushAck _ :: todo => Safe held todo
  | held, .send _ :: todo => Safe held todo

/-- Code without the instructions that take something out or put it back. -/
def Plain (code : List (Instr json)) : Prop :=
  .putClose ∉ code ∧ ∀ p, .takeAck p ∉ code

theorem safe_invoke {α : Type} {held : List Mutex} {invocation : α → Invocation json}
    (h : ∀ a, Invocation.locks (invocation a) = held) {todo : List (Instr json)}
    (htodo : Safe held todo) (l : List α) :
    Safe held ((l.map fun a => .invoke (invocation a)) ++ todo) := by
  induction l with
  | nil => exact htodo
  | cons a l ih => exact ⟨(h a).symm, ih⟩

section Code

variable (reader : FromStr json) (registrations : Registrations)

theorem safe_callbackCode (event : Event) (payload : Payload json) (ackId : Option Int)
    {todo : List (Instr json)} (htodo : Safe [] todo) :
    Safe [] (callbackCode registrations event payload ackId ++ todo) := by
  have hunlock : Safe [.onAny, .on] (.unlock .on :: .unlock .onAny :: todo) := by
    simpa [Safe] using htodo
  have hcalls : Safe [.onAny, .on] (((callback registrations.toCallbacks event payload ackId).map
      fun call => .invoke (.callback call)) ++ (.unlock .on :: .unlock .onAny :: todo)) := by
    apply safe_invoke
    · exact fun _ => rfl
    · exact hunlock
  have hcode : callbackCode registrations event payload ackId ++ todo = .lock .on :: .lock .onAny ::
      (((callback registrations.toCallbacks event payload ackId).map
        fun call => .invoke (.callback call)) ++ (.unlock .on :: .unlock .onAny :: todo)) := by
    simp [callbackCode]
  rw [hcode]
  exact ⟨by simp, by simp, hcalls⟩

theorem safe_closeCode (reason : CloseReason) (epoch : Nat) {todo : List (Instr json)}
    (htodo : Safe [] todo) : Safe [] (closeCode reader registrations reason epoch ++ todo) := by
  rw [closeCode, List.append_assoc]
  apply safe_callbackCode
  exact ⟨by simp, rfl, htodo⟩

theorem safe_packetCode (nsp : Str) (epoch : Nat) (packet : Packet) :
    Safe [] (packetCode reader registrations nsp epoch packet) := by
  have hcallback : ∀ event payload ackId,
      Safe [] (callbackCode registrations event payload ackId : List (Instr json)) := by
    intro event payload ackId
    rw [← List.append_nil (callbackCode registrations event payload ackId)]
    exact safe_callbackCode registrations event payload ackId rfl
  unfold packetCode
  split
  · rename_i handler hhandler
    cases handler with
    | ack =>
        simp only [handlerCode]
        split
        · exact ⟨by simp, rfl, rfl⟩
        · rfl
    | binaryEvent =>
        simp only [handlerCode]
        split
        · exact hcallback _ _ _
        · rfl
    | connect => exact hcallback _ _ _
    | disconnect =>
        show Safe [] (closeCode reader registrations .ioServerDisconnect epoch)
        rw [← List.append_nil (closeCode reader registrations .ioServerDisconnect epoch)]
        exact safe_closeCode reader registrations _ epoch rfl
    | connectError => exact hcallback _ _ _
    | event =>
        simp only [handlerCode]
        split
        · rfl
        · split
          · exact hcallback _ _ _
          · exact hcallback _ _ _
          · rfl
  · rfl

theorem plain_callbackCode (event : Event) (payload : Payload json) (ackId : Option Int) :
    Plain (callbackCode registrations event payload ackId) := by
  simp [Plain, callbackCode]

theorem plain_closeCode (reason : CloseReason) (epoch : Nat) :
    Plain (closeCode reader registrations reason epoch) := by
  simp [Plain, closeCode, callbackCode]

theorem plain_packetCode (nsp : Str) (epoch : Nat) {packet : Packet}
    (hack : handlerOf nsp packet ≠ some .ack) :
    Plain (packetCode reader registrations nsp epoch packet) := by
  have hnil : Plain ([] : List (Instr json)) := by simp [Plain]
  unfold packetCode
  split
  · rename_i handler hhandler
    cases handler with
    | ack => exact absurd hhandler hack
    | binaryEvent =>
        simp only [handlerCode]
        split
        · exact plain_callbackCode registrations _ _ _
        · exact hnil
    | connect => exact plain_callbackCode registrations _ _ _
    | disconnect => exact plain_closeCode reader registrations _ _
    | connectError => exact plain_callbackCode registrations _ _ _
    | event =>
        simp only [handlerCode]
        split
        · exact hnil
        · split
          · exact plain_callbackCode registrations _ _ _
          · exact plain_callbackCode registrations _ _ _
          · exact hnil
  · exact hnil

end Code

/-! ## What a thread keeps that is not blocked -/

/-- The entry that the packet answers is about to be taken out. -/
structure Taking (client : RawClient) (packet : Packet) (s : Handling json) : Prop where
  todo : s.todo = [.lock .outstandingAcks, .takeAck packet] ∨ s.todo = [.takeAck packet]
  outstandingAcks : s.client.outstandingAcks = client.outstandingAcks
  handler : handlerOf client.nsp packet = some .ack

structure WellFormed (client : RawClient) (registrations : Registrations) (packet : Packet)
    (s : Handling json) : Prop where
  safe : Safe s.held s.todo
  callbacks : s.registrations.toCallbacks = registrations.toCallbacks
  /-- A close callback that is out of its place is put back later. -/
  close : registrations.onCloseWithSession = true ↔
    s.registrations.onCloseWithSession = true ∨ .putClose ∈ s.todo
  acks : Taking client packet s ∨
    (∀ p, .takeAck p ∉ s.todo) ∧
      untaken client.nsp packet client.outstandingAcks <+: s.client.outstandingAcks

section WellFormed

variable {reader : FromStr json} {client : RawClient} {registrations : Registrations}
  {packet : Packet} {s s' : Handling json}

omit reader in
theorem registrations_eq {registrations registrations' : Registrations}
    (h : registrations.toCallbacks = registrations'.toCallbacks)
    (hclose : registrations.onCloseWithSession = registrations'.onCloseWithSession) :
    registrations = registrations' := by
  obtain ⟨callbacks, close⟩ := registrations
  obtain ⟨callbacks', close'⟩ := registrations'
  obtain rfl : callbacks = callbacks' := h
  obtain rfl : close = close' := hclose
  rfl

theorem WellFormed.sound (hs : s.WellFormed client registrations packet) :
    s.Sound client registrations packet where
  unblocked := by
    rintro ⟨mutex, todo, htodo, hheld⟩
    have hsafe := hs.safe
    rw [htodo] at hsafe
    exact hsafe.1 hheld
  restored hdone := {
    registrations := by
      have hclose := hs.close
      simp only [hdone, List.not_mem_nil, or_false] at hclose
      exact registrations_eq hs.callbacks (Bool.eq_iff_iff.mpr hclose.symm)
    outstandingAcks := by
      rcases hs.acks with htaking | ⟨-, hkept⟩
      · rcases htaking.todo with htodo | htodo
        · rw [hdone] at htodo
          cases htodo
        · rw [hdone] at htodo
          cases htodo
      · exact hkept }

theorem wellFormed_start (reader : FromStr json) (client : RawClient) (epoch : Nat)
    (registrations : Registrations) (packet : Packet) :
    (start reader client epoch registrations packet).WellFormed client registrations packet := by
  have hsafe := safe_packetCode reader registrations client.nsp epoch packet
  by_cases hack : handlerOf client.nsp packet = some .ack
  · cases hid : packet.id with
    | none =>
        have hcode : packetCode reader registrations client.nsp epoch packet = [] := by
          simp [packetCode, hack, handlerCode, hid]
        refine ⟨hsafe, rfl, ?_, .inr ⟨?_, ?_⟩⟩
        · simp [start, hcode]
        · simp [start, hcode]
        · rw [untaken, hack, hid]
          exact List.prefix_rfl
    | some id =>
        have hcode : packetCode reader registrations client.nsp epoch packet =
            [.lock .outstandingAcks, .takeAck packet] := by
          simp [packetCode, hack, handlerCode, hid]
        refine ⟨hsafe, rfl, ?_, .inl ⟨.inl hcode, rfl, hack⟩⟩
        simp [start, hcode]
  · have hplain := plain_packetCode reader registrations client.nsp epoch hack
    refine ⟨hsafe, rfl, ?_, .inr ⟨hplain.2, ?_⟩⟩
    · simp [start, hplain.1]
    · have huntaken : untaken client.nsp packet client.outstandingAcks =
          client.outstandingAcks := by
        unfold untaken
        split
        · rename_i hack' _
          exact absurd hack' hack
        · rfl
      rw [huntaken]
      exact List.prefix_rfl

/-- User code does not run before the entry that the packet answers is taken out. -/
theorem WellFormed.taken (hs : s.WellFormed client registrations packet) {instr : Instr json}
    {todo : List (Instr json)} (htodo : s.todo = instr :: todo)
    (hlock : ∀ mutex, instr ≠ .lock mutex) (htake : ∀ p, instr ≠ .takeAck p) :
    (∀ p, .takeAck p ∉ todo) ∧
      untaken client.nsp packet client.outstandingAcks <+: s.client.outstandingAcks := by
  rcases hs.acks with htaking | ⟨htaken, hkept⟩
  · rcases htaking.todo with hold | hold
    · rw [htodo] at hold
      cases hold
      exact absurd rfl (hlock .outstandingAcks)
    · rw [htodo] at hold
      cases hold
      exact absurd rfl (htake packet)
  · refine ⟨fun p hp => htaken p ?_, hkept⟩
    rw [htodo]
    exact List.mem_cons_of_mem _ hp

/-- An instruction gives way to plain code. -/
theorem WellFormed.replace (hs : s.WellFormed client registrations packet) {instr : Instr json}
    {todo : List (Instr json)} (htodo : s.todo = instr :: todo)
    (hlock : ∀ mutex, instr ≠ .lock mutex) (hinstr : Plain [instr]) {code : List (Instr json)}
    (hplain : Plain code)
    {held : List Mutex} (hsafe : Safe held (code ++ todo)) {after : RawClient}
    (hacks : s.client.outstandingAcks <+: after.outstandingAcks) :
    WellFormed client registrations packet
      { s with client := after, held, todo := code ++ todo } := by
  have htake : ∀ p, instr ≠ .takeAck p := fun p h => hinstr.2 p (by simp [h])
  have hput : instr ≠ .putClose := fun h => hinstr.1 (by simp [h])
  obtain ⟨htaken, hkept⟩ := hs.taken htodo hlock htake
  refine ⟨hsafe, hs.callbacks, ?_, .inr ⟨?_, hkept.trans hacks⟩⟩
  · rw [hs.close, htodo]
    simp [hplain.1, Ne.symm hput]
  · intro p hp
    rcases List.mem_append.mp hp with hp | hp
    · exact hplain.2 p hp
    · exact htaken p hp

/-- An instruction that is done, with nothing in its place. -/
theorem WellFormed.done (hs : s.WellFormed client registrations packet) {instr : Instr json}
    {todo : List (Instr json)} (htodo : s.todo = instr :: todo)
    (hlock : ∀ mutex, instr ≠ .lock mutex) (hinstr : Plain [instr]) {held : List Mutex}
    (hsafe : Safe held todo) {after : RawClient}
    (hacks : s.client.outstandingAcks <+: after.outstandingAcks) :
    WellFormed client registrations packet { s with client := after, held, todo } := by
  have hplain : Plain ([] : List (Instr json)) := by simp [Plain]
  exact hs.replace htodo hlock hinstr hplain hsafe hacks

theorem WellFormed.lock (hs : s.WellFormed client registrations packet) {mutex : Mutex}
    {todo : List (Instr json)} (htodo : s.todo = .lock mutex :: todo) :
    WellFormed client registrations packet { s with held := mutex :: s.held, todo } := by
  have hsafe := hs.safe
  rw [htodo] at hsafe
  refine ⟨hsafe.2, hs.callbacks, ?_, ?_⟩
  · rw [hs.close, htodo]
    simp
  · rcases hs.acks with htaking | ⟨htaken, hkept⟩
    · rcases htaking.todo with hold | hold
      · rw [htodo] at hold
        cases hold
        exact .inl ⟨.inr rfl, htaking.outstandingAcks, htaking.handler⟩
      · rw [htodo] at hold
        cases hold
    · refine .inr ⟨fun p hp => htaken p ?_, hkept⟩
      rw [htodo]
      exact List.mem_cons_of_mem _ hp

/-- The close callback is out of its place while it runs, and on its way back. -/
theorem WellFormed.takeClose (hs : s.WellFormed client registrations packet)
    {reason : CloseReason} {epoch : Nat} {todo : List (Instr json)}
    (htodo : s.todo = .takeClose reason epoch :: todo)
    (hregistered : s.registrations.onCloseWithSession = true) :
    WellFormed client registrations packet { s with
      registrations := { s.registrations with onCloseWithSession := false }
      todo := .unlock .onCloseWithSession :: .invoke (.closeWithSession reason epoch) ::
        .lock .onCloseWithSession :: .putClose :: .unlock .onCloseWithSession :: todo } := by
  obtain ⟨htaken, hkept⟩ := hs.taken htodo (by simp) (by simp)
  have hsafe := hs.safe
  rw [htodo] at hsafe
  obtain ⟨hheld, hsafe⟩ := hsafe
  refine ⟨?_, hs.callbacks, ?_, .inr ⟨by simpa using htaken, hkept⟩⟩
  · rw [hheld]
    simpa [Safe, Invocation.locks] using hsafe
  · have hclose : registrations.onCloseWithSession = true := hs.close.mpr (.inl hregistered)
    simp [hclose]

theorem WellFormed.putClose (hs : s.WellFormed client registrations packet)
    {todo : List (Instr json)} (htodo : s.todo = .putClose :: todo) :
    WellFormed client registrations packet { s with
      registrations := { s.registrations with onCloseWithSession := true }, todo } := by
  obtain ⟨htaken, hkept⟩ := hs.taken htodo (by simp) (by simp)
  have hsafe := hs.safe
  rw [htodo] at hsafe
  refine ⟨hsafe, hs.callbacks, ?_, .inr ⟨htaken, hkept⟩⟩
  have hclose : registrations.onCloseWithSession = true := by
    apply hs.close.mpr
    rw [htodo]
    exact .inr List.mem_cons_self
  simp [hclose]

/-- The entry is taken out, and called with no mutex held. -/
theorem WellFormed.takeAck (hs : s.WellFormed client registrations packet) (now : Nat) {p : Packet}
    {todo : List (Instr json)} (htodo : s.todo = .takeAck p :: todo) :
    WellFormed client registrations packet { s with
      client := { s.client with outstandingAcks :=
        (handleAckCalls reader .sync p now s.client.outstandingAcks).2 }
      todo := .unlock .outstandingAcks ::
        ((handleAckCalls reader .sync p now s.client.outstandingAcks).1.map
          fun (ack, payload) => .invoke (.ack ack payload)) ++ todo } := by
  have hsafe := hs.safe
  rw [htodo] at hsafe
  obtain ⟨hheld, hsafe⟩ := hsafe
  have hnew : Safe [.outstandingAcks] (.unlock .outstandingAcks ::
      ((handleAckCalls reader .sync p now s.client.outstandingAcks).1.map
        fun (ack, payload) => .invoke (.ack ack payload)) ++ todo) := by
    show Safe [] _
    apply safe_invoke
    · exact fun _ => rfl
    · exact hsafe
  rcases hs.acks with htaking | ⟨htaken, -⟩
  · have hold : p = packet ∧ todo = [] := by
      rcases htaking.todo with hold | hold
      · rw [htodo] at hold
        cases hold
      · rw [htodo] at hold
        cases hold
        exact ⟨rfl, rfl⟩
    obtain ⟨rfl, rfl⟩ := hold
    refine ⟨by rw [hheld]; exact hnew, hs.callbacks, ?_, .inr ⟨by simp, ?_⟩⟩
    · rw [hs.close, htodo]
      simp
    · show untaken client.nsp p client.outstandingAcks <+:
        (handleAckCalls reader .sync p now s.client.outstandingAcks).2
      rw [htaking.outstandingAcks, untaken, htaking.handler, handleAckCalls]
      cases p.id with
      | none => exact List.prefix_rfl
      | some id => exact List.prefix_rfl
  · refine absurd ?_ (htaken p)
    rw [htodo]
    exact List.mem_cons_self

theorem WellFormed.advance (hs : s.WellFormed client registrations packet) {now : Nat}
    (h : s.advance reader now = some s') : s'.WellFormed client registrations packet := by
  have hsafe := hs.safe
  rcases htodo : s.todo with _ | ⟨instr, todo⟩
  · simp [Handling.advance, htodo] at h
  rw [htodo] at hsafe
  cases instr with
  | lock mutex =>
      simp only [Handling.advance, htodo, if_neg hsafe.1, Option.some.injEq] at h
      rw [← h]
      exact hs.lock htodo
  | unlock mutex =>
      simp only [Handling.advance, htodo, Option.some.injEq] at h
      rw [← h]
      exact hs.done htodo (by simp) (by simp [Plain]) hsafe List.prefix_rfl
  | invoke invocation =>
      simp only [Handling.advance, htodo, Option.some.injEq] at h
      rw [← h]
      have hrunning : Safe s.held ([.running invocation] ++ todo) := hsafe
      exact hs.replace htodo (by simp) (by simp [Plain]) (by simp [Plain]) hrunning List.prefix_rfl
  | running invocation => simp [Handling.advance, htodo] at h
  | takeClose reason epoch =>
      simp only [Handling.advance, htodo] at h
      split at h
      · rename_i hregistered
        rw [← Option.some.inj h]
        exact hs.takeClose htodo hregistered
      · rw [← Option.some.inj h]
        have hunlock : Safe s.held ([.unlock .onCloseWithSession] ++ todo) := by
          rw [hsafe.1]
          exact hsafe.2
        exact hs.replace htodo (by simp) (by simp [Plain]) (by simp [Plain]) hunlock List.prefix_rfl
  | putClose =>
      simp only [Handling.advance, htodo, Option.some.injEq] at h
      rw [← h]
      exact hs.putClose htodo
  | takeAck p =>
      simp only [Handling.advance, htodo, Option.some.injEq] at h
      rw [← h]
      exact hs.takeAck now htodo
  | pushAck ack =>
      simp only [Handling.advance, htodo, Option.some.injEq] at h
      rw [← h]
      exact hs.done htodo (by simp) (by simp [Plain]) hsafe
        (List.prefix_append _ _)
  | send p =>
      simp only [Handling.advance, htodo, Option.some.injEq] at h
      rw [← h]
      exact hs.done htodo (by simp) (by simp [Plain]) hsafe List.prefix_rfl

/-- A call from running user code, if a disconnect is not called with `on` held. -/
theorem WellFormed.call (hs : s.WellFormed client registrations packet)
    {invocation : Invocation json} {todo : List (Instr json)}
    (htodo : s.todo = .running invocation :: todo) (op : Op json)
    (houtside : Outside s (.call op)) :
    (s.call reader op).WellFormed client registrations packet := by
  have hsafe := hs.safe
  rw [htodo] at hsafe
  -- what is called leaves the outstanding acks, and nothing is put in front
  have hsent : ∀ after : RawClient, after.outstandingAcks = s.client.outstandingAcks →
      WellFormed client registrations packet { s with client := after } := by
    intro after hafter
    have hrunning : Safe s.held ([.running invocation] ++ todo) := hsafe
    have hacks : s.client.outstandingAcks <+: after.outstandingAcks := by rw [hafter]
    rw [htodo]
    exact hs.replace htodo (by simp) (by simp [Plain]) (by simp [Plain]) hrunning hacks
  cases op with
  | emit event data =>
      apply hsent
      show (s.client.emit event data).2.outstandingAcks = s.client.outstandingAcks
      rw [RawClient.emit]
      split
      · rfl
      · rfl
  | ack data ackId =>
      apply hsent
      show (s.client.ack data ackId).2.outstandingAcks = s.client.outstandingAcks
      rw [RawClient.ack]
      split
      · rfl
      · rfl
  | emitWithAck event data timeout callback id now =>
      simp only [Handling.call]
      split
      · rename_i p hp
        have hfree : .outstandingAcks ∉ s.held := by
          rw [hsafe.1]
          cases invocation with
          | callback call => simp [Invocation.locks]
          | closeWithSession reason epoch => simp [Invocation.locks]
          | ack ack payload => simp [Invocation.locks]
        have hnew : Safe s.held ([.lock .outstandingAcks, .pushAck ⟨callback, id.val, now, timeout⟩,
            .unlock .outstandingAcks, .send p, .running invocation] ++ todo) :=
          ⟨hfree, by simpa [Safe] using hsafe⟩
        rw [htodo]
        exact hs.replace htodo (by simp) (by simp [Plain]) (by simp [Plain]) hnew List.prefix_rfl
      · exact hs
  | disconnect =>
      have hfree : s.held = [] := by
        rw [hsafe.1]
        cases invocation with
        | callback call => exact absurd htodo (houtside call todo)
        | closeWithSession reason epoch => rfl
        | ack ack payload => rfl
      have hplain : Plain (closeCode reader s.registrations .ioClientDisconnect s.epoch ++
          [.running invocation]) := by
        have hclose := plain_closeCode reader s.registrations .ioClientDisconnect s.epoch
        simpa [Plain] using hclose
      have hnew : Safe s.held ((closeCode reader s.registrations .ioClientDisconnect s.epoch ++
          [.running invocation]) ++ todo) := by
        rw [hfree] at hsafe ⊢
        rw [List.append_assoc]
        exact safe_closeCode reader s.registrations _ s.epoch hsafe
      have hacks : s.client.outstandingAcks <+: s.client.disconnect.outstandingAcks :=
        List.prefix_rfl
      have hcalled := hs.replace htodo (by simp) (by simp [Plain]) hplain hnew hacks
      rwa [List.append_assoc, List.singleton_append, ← htodo] at hcalled

theorem WellFormed.step (hs : s.WellFormed client registrations packet) {a : Label json}
    (houtside : Outside s a) (h : s.step reader a = some s') :
    s'.WellFormed client registrations packet := by
  cases a with
  | advance now => exact hs.advance h
  | call op =>
      simp only [Handling.step] at h
      split at h
      · rename_i invocation todo htodo
        rw [← Option.some.inj h]
        exact hs.call htodo op houtside
      · simp at h
  | finish =>
      simp only [Handling.step] at h
      split at h
      · rename_i invocation todo htodo
        have hsafe := hs.safe
        rw [htodo] at hsafe
        rw [← Option.some.inj h]
        exact hs.done htodo (by simp) (by simp [Plain]) hsafe.2 List.prefix_rfl
      · simp at h

/-- A disconnect from an `on` or an `on_any` callback goes for a mutex that is held. -/
theorem WellFormed.blocked (hs : s.WellFormed client registrations packet) {a : Label json}
    (hinside : ¬ Outside s a) (h : s.step reader a = some s') : s'.Blocked := by
  obtain ⟨rfl, call, todo, htodo⟩ :
      a = .call .disconnect ∧ ∃ call todo, s.todo = .running (.callback call) :: todo := by
    cases a with
    | advance now => exact absurd trivial hinside
    | finish => exact absurd trivial hinside
    | call op =>
        cases op with
        | emit event data => exact absurd trivial hinside
        | emitWithAck event data timeout callback id now => exact absurd trivial hinside
        | ack data ackId => exact absurd trivial hinside
        | disconnect => simpa [Outside] using hinside
  have hheld : s.held = [.onAny, .on] := by
    have hsafe := hs.safe
    rw [htodo] at hsafe
    exact hsafe.1
  simp only [Handling.step, htodo, Option.some.injEq] at h
  rw [← h]
  refine ⟨.on, _, rfl, ?_⟩
  show Mutex.on ∈ s.held
  rw [hheld]
  simp

end WellFormed

/-- **From where callbacks may call the client.**  While the thread handles a packet, whatever the
registrations and whatever its callbacks call, callbacks in callbacks included: it never goes for a
mutex that it holds, and restores every registration, exactly in the runs in which no disconnect is
called from an `on` or an `on_any` callback. -/
theorem sound_iff_outside (reader : FromStr json) (client : RawClient) (epoch : Nat)
    (registrations : Registrations) (packet : Packet) (labels : List (Label json)) :
    Lts.Throughout (step reader) (Sound client registrations packet)
        (start reader client epoch registrations packet) labels ↔
      Lts.Along (step reader) Outside (start reader client epoch registrations packet) labels := by
  have hstart := wellFormed_start reader client epoch registrations packet
  have hwell : ∀ s : Handling json, s.WellFormed client registrations packet ∨ s.Blocked →
      s.Sound client registrations packet → s.WellFormed client registrations packet := by
    rintro s (hs | hblocked) hsound
    · exact hs
    · exact absurd hblocked hsound.unblocked
  apply Lts.throughout_iff_along
    (I := fun s => s.WellFormed client registrations packet ∨ s.Blocked)
  · intro s a s' hI hP h
    have hs := hwell s hI hP
    by_cases hG : Outside s a
    · exact .inl (hs.step hG h)
    · exact .inr (hs.blocked hG h)
  · intro s a s' hI hP h
    have hs := hwell s hI hP
    constructor
    · intro hP'
      by_contra hG
      exact hP'.unblocked (hs.blocked hG h)
    · intro hG
      exact (hs.step hG h).sound
  · exact .inl hstart
  · exact hstart.sound

/-- A callback of an event disconnects: the thread waits for itself. -/
theorem disconnect_blocks :
    ∃ s : Handling .integers,
      Lts.run (step .integers) (start .integers ⟨['/'], Socket.opened [], []⟩ 1
          ⟨⟨fun event => event = .custom ['a'], false⟩, false⟩
          ⟨.event, ['/'], some "[\"a\",1]".toList, none, 0, none⟩)
        [.advance 0, .advance 0, .advance 0, .call .disconnect] = some s ∧ s.Blocked := by
  refine ⟨_, rfl, .on, _, rfl, ?_⟩
  show Mutex.on ∈ [Mutex.onAny, Mutex.on]
  simp

end Handling

end TfSocketio.Socketio.Sync
