/-
# Socketio.Locking — the threads of the synchronous client, and the locks they share.

The poll thread and any number of user threads share the mutex of the builder, the `RwLock` of the
`RawClient`, and the mutexes of the `RawClient`s.  `Iter::next` and the methods of `Client` keep the
read guard while callbacks run, `RawClient::callback` keeps `on` and `on_any`, and `do_reconnect`
keeps the builder locked while it connects and waits for the write guard.

A thread is a list of things to do with the locks it holds; a callback that runs may call the
`RawClient` it is given and the `Client`, and what it calls is put in front.  `no_deadlock` says for
which calls from callbacks no thread ever waits in vain, and `deadlocks` that the condition matters.
The locks of the engine.io client are left out: each is released before another lock is taken, and
no user code runs under one.
-/
import TfSocketio.Lib.Locks
import TfSocketio.Socketio.PollThread
import TfSocketio.Socketio.Reentrancy

namespace TfSocketio.Socketio.Locking

open Locks (Claim)
open Sync (Instr Mutex Op PollResult callbackCode closeCode packetCode shouldReconnect nextAttempt)
open Text (Str)

/-! ## The locks -/

/-- `Client::builder`, `Client::client`, the registrations, which all sessions share, and the
outstanding acks of each `RawClient`. -/
inductive Lock where
  | builder
  | client
  | registrations (mutex : Mutex)
  | outstandingAcks (session : Nat)
  deriving DecidableEq, Repr

/-- The lock behind a mutex of the `RawClient` of a session. -/
def lockOf (session : Nat) : Mutex → Lock
  | .outstandingAcks => .outstandingAcks session
  | .on => .registrations .on
  | .onAny => .registrations .onAny
  | .onCloseWithSession => .registrations .onCloseWithSession

/-- The guard of a lock is dropped. -/
def unlock (lock : Lock) (held : List (Claim Lock)) : List (Claim Lock) :=
  held.eraseP fun claim => claim.lock = lock

/-- The thread holds nothing, or the read guard of the `RawClient`. -/
def Base (held : List (Claim Lock)) : Prop := ∀ claim ∈ held, claim = ⟨.client, false⟩

/-! ## The threads -/

/-- What a thread has to do. -/
inductive Act (json : SerdeJson) where
  | acquire (claim : Claim Lock)
  | release (lock : Lock)
  /-- An instruction of the `RawClient` of a session. -/
  | raw (session : Nat) (instr : Instr json)
  /-- `RawClient::poll` waits for a packet. -/
  | poll
  /-- A method of the `RawClient` behind the guard. -/
  | perform (op : Op json)
  | setAddress (address : Str)
  /-- The top of the loop of `reconnect`. -/
  | attempt (attempts : UInt8)
  | connectRaw (attempts : UInt8)
  | install (client : RawClient)
  | panicked

variable {json : SerdeJson}

namespace Act

/-- The lock that is taken. -/
def claim : Act json → Option (Claim Lock)
  | .acquire claim => some claim
  | .raw session (.lock mutex) => some ⟨lockOf session mutex, true⟩
  | _ => none

def released : Act json → Option Lock
  | .release lock => some lock
  | .raw session (.unlock mutex) => some (lockOf session mutex)
  | _ => none

end Act

structure Thread (json : SerdeJson) where
  /-- The thread that `poll_callback` has started. -/
  polls : Bool
  held : List (Claim Lock)
  todo : List (Act json)

def Thread.wants (thread : Thread json) : Option (Claim Lock) := thread.todo.head?.bind Act.claim

/-- User code runs: a thread of the user between its calls, or a callback. -/
def Thread.mayCall (thread : Thread json) : Bool :=
  match thread.todo with
  | [] => !thread.polls
  | .raw _ (.running _) :: _ => true
  | _ => false

structure World (json : SerdeJson) where
  config : Config
  /-- The address in the builder. -/
  address : Str
  registrations : Registrations
  epoch : Nat
  /-- The `RawClient`s so far; the last one is behind the `RwLock`. -/
  sessions : List RawClient
  threads : List (Thread json)

/-- What the methods of `Client` do. -/
inductive ClientOp (json : SerdeJson) where
  /-- `emit`, `emit_with_ack` and `disconnect` hand on to the `RawClient`; that `Client` has no
  `ack` does not matter here. -/
  | perform (op : Op json)
  | setReconnectUrl (address : Str)

def ClientOp.code : ClientOp json → List (Act json)
  | .perform op => [.acquire ⟨.client, false⟩, .perform op, .release .client]
  | .setReconnectUrl address =>
      [.acquire ⟨.builder, true⟩, .setAddress address, .release .builder]

/-- What `Socket::poll` returns. -/
inductive Incoming where
  | packet (packet : Packet)
  /-- An error, and whether it is an engine.io error. -/
  | failed (engine : Bool) (text : Str)
  /-- `Ok(None)`. -/
  | closed

/-! ## The code of the poll thread -/

/-- `Client::disconnect` and `Client::reconnect`. -/
def reconnectCode (config : Config) : List (Act json) :=
  (ClientOp.perform .disconnect).code ++
    [.acquire ⟨.builder, true⟩, .release .builder] ++
      if config.reconnect then [.attempt 0] else []

/-- The body of the loop of `poll_callback`. -/
def decisionCode (config : Config) (result : PollResult) : List (Act json) :=
  (match result with
    | .packet packet =>
        if packet.packetType = .disconnect then [.acquire ⟨.builder, true⟩, .release .builder]
        else []
    | _ => []) ++
  if shouldReconnect config result then reconnectCode config else []

/-- `Iter::next`. -/
def iterCode : List (Act json) := [.acquire ⟨.client, false⟩, .poll]

namespace World

/-- One poll thread, and threads of the user. -/
def init (json : SerdeJson) (config : Config) (address : Str) (registrations : Registrations)
    (users : Nat) : World json where
  config
  address
  registrations
  epoch := 1
  sessions := [⟨config.nsp, Socket.opened [], []⟩]
  threads := ⟨true, [], []⟩ :: List.replicate users ⟨false, [], []⟩

def current (s : World json) : Nat := s.sessions.length - 1

def modify (s : World json) (session : Nat) (f : RawClient → RawClient) : World json :=
  { s with sessions := s.sessions.modify session f }

def outstandingAcks (s : World json) (session : Nat) : List Ack :=
  (s.sessions[session]?.map RawClient.outstandingAcks).getD []

/-- What a method of a `RawClient` does before its next lock, and what is left of it. -/
def call (reader : FromStr json) (s : World json) (session : Nat) :
    Op json → World json × List (Act json)
  | .emit event data => (s.modify session fun client => (client.emit event data).2, [])
  | .ack data ackId => (s.modify session fun client => (client.ack data ackId).2, [])
  | .emitWithAck event data timeout callback id now =>
      match Packet.newFromPayload json data event s.config.nsp (some id.val) with
      | .ok packet =>
          (s, [.raw session (.lock .outstandingAcks),
            .raw session (.pushAck ⟨callback, id.val, now, timeout⟩),
            .raw session (.unlock .outstandingAcks), .raw session (.send packet)])
      | .error _ => (s, [])
  | .disconnect =>
      (s.modify session RawClient.disconnect,
        (closeCode reader s.registrations .ioClientDisconnect s.epoch).map (.raw session))

/-- An instruction that neither takes nor releases a lock, and what it puts in front. -/
def execute (reader : FromStr json) (now : Nat) (s : World json) (session : Nat) :
    Instr json → Option (World json × List (Act json))
  | .invoke invocation => some (s, [.raw session (.running invocation)])
  | .takeClose reason epoch =>
      if s.registrations.onCloseWithSession then
        some ({ s with registrations := { s.registrations with onCloseWithSession := false } },
          [.raw session (.unlock .onCloseWithSession),
            .raw session (.invoke (.closeWithSession reason epoch)),
            .raw session (.lock .onCloseWithSession), .raw session .putClose,
            .raw session (.unlock .onCloseWithSession)])
      else some (s, [.raw session (.unlock .onCloseWithSession)])
  | .putClose =>
      some ({ s with registrations := { s.registrations with onCloseWithSession := true } }, [])
  | .takeAck packet =>
      let (calls, outstandingAcks) :=
        handleAckCalls reader .sync packet now (s.outstandingAcks session)
      some (s.modify session fun client => { client with outstandingAcks },
        .raw session (.unlock .outstandingAcks) ::
          calls.map fun (ack, payload) => .raw session (.invoke (.ack ack payload)))
  | .pushAck ack =>
      some (s.modify session fun client =>
        { client with outstandingAcks := client.outstandingAcks ++ [ack] }, [])
  | .send packet => some (s.modify session fun client => (client.send packet).2, [])
  | _ => none

/-- The next thing to do, if it neither takes nor releases a lock nor waits for something. -/
def perform (reader : FromStr json) (now : Nat) (s : World json) :
    Act json → Option (World json × List (Act json))
  | .raw session instr => s.execute reader now session instr
  | .perform op => some (s.call reader s.current op)
  | .setAddress address => some ({ s with address }, [])
  | .attempt attempts =>
      match nextAttempt s.config attempts with
      | .sleeping attempts => some (s, [.acquire ⟨.builder, true⟩, .connectRaw attempts])
      | .panicked => some (s, [.panicked])
      | _ => some (s, [])
  | .install client => some ({ s with sessions := s.sessions ++ [client] }, [])
  | _ => none

/-- What is left of `RawClient::poll` and of the iteration when something has come. -/
def received (reader : FromStr json) (s : World json) : Incoming → List (Act json)
  | .packet packet =>
      if packet.nsp = s.config.nsp then
        (packetCode reader s.registrations s.config.nsp s.epoch packet).map (.raw s.current) ++
          .release .client :: decisionCode s.config (.packet packet)
      else [.poll]
  | .failed engine text =>
      (callbackCode s.registrations .error (.ofString reader text) none).map (.raw s.current) ++
        .release .client :: decisionCode s.config (if engine then .engineError else .error)
  | .closed => .release .client :: decisionCode s.config .error

/-- What `Socket::poll` does with the flag of the socket. -/
def setConnected (s : World json) : Incoming → World json
  | .packet packet =>
      s.modify s.current fun client => { client with
        socket := { client.socket with
          connected := handleSocketioPacket client.socket.connected packet } }
  | _ => s

/-- Nobody has what conflicts with a claim. -/
def Free (s : World json) (claim : Claim Lock) : Prop :=
  ∀ thread ∈ s.threads, ∀ held ∈ thread.held, ¬ held.Conflicts claim

instance (s : World json) (claim : Claim Lock) : Decidable (s.Free claim) :=
  inferInstanceAs (Decidable (∀ thread ∈ s.threads, ∀ held ∈ thread.held, ¬ held.Conflicts claim))

end World

/-! ## The steps -/

inductive Happening (json : SerdeJson) where
  /-- The thread goes on, at some time. -/
  | advance (now : Nat)
  /-- The poll thread starts another iteration. -/
  | iterate
  | receive (incoming : Incoming)
  /-- `connect_raw` ends, with a socket if it succeeds. -/
  | connected (socket : Option Socket)
  /-- User code calls a method of `Client`. -/
  | call (op : ClientOp json)
  /-- User code calls a method of the `RawClient` of a session. -/
  | callRaw (session : Nat) (op : Op json)
  /-- A callback returns. -/
  | finish

/-- What user code may call. -/
def Thread.Orderly (thread : Thread json) : Happening json → Prop
  | .call op =>
      (thread.polls = true ∨ thread.held = []) ∧ (op = .perform .disconnect → Base thread.held)
  | .callRaw _ op => op = .disconnect → Base thread.held
  | _ => True

structure Label (json : SerdeJson) where
  thread : Nat
  event : Happening json

namespace World

/-- What an event makes of a thread, and of what the threads share. -/
def turn (reader : FromStr json) (s : World json) (thread : Thread json) :
    Happening json → Option (World json × Thread json)
  | .advance now =>
      match thread.todo with
      | [] => none
      | act :: todo =>
          match act.claim, act.released with
          | some claim, _ =>
              -- whether a reader waits behind a waiting writer is left open
              if s.Free claim then some (s, { thread with held := claim :: thread.held, todo })
              else none
          | none, some lock => some (s, { thread with held := unlock lock thread.held, todo })
          | none, none =>
              (s.perform reader now act).map fun result =>
                (result.1, { thread with todo := result.2 ++ todo })
  | .iterate =>
      if thread.polls && thread.todo.isEmpty then some (s, { thread with todo := iterCode })
      else none
  | .receive incoming =>
      match thread.todo with
      | .poll :: todo =>
          some (s.setConnected incoming,
            { thread with todo := s.received reader incoming ++ todo })
      | _ => none
  | .connected socket =>
      match thread.todo, socket with
      | .connectRaw _ :: todo, some socket =>
          some ({ s with epoch := s.epoch + 1 },
            { thread with
              todo := [.acquire ⟨.client, true⟩, .install ⟨s.config.nsp, socket, []⟩,
                .release .client, .release .builder] ++ todo })
      | .connectRaw attempts :: todo, none =>
          some (s, { thread with todo := [.release .builder, .attempt attempts] ++ todo })
      | _, _ => none
  | .call op =>
      if thread.mayCall then some (s, { thread with todo := op.code ++ thread.todo }) else none
  | .callRaw session op =>
      if thread.mayCall && session < s.sessions.length then
        let result := s.call reader session op
        some (result.1, { thread with todo := result.2 ++ thread.todo })
      else none
  | .finish =>
      match thread.todo with
      | .raw _ (.running _) :: todo => some (s, { thread with todo })
      | _ => none

def step (reader : FromStr json) (s : World json) (label : Label json) : Option (World json) :=
  s.threads[label.thread]?.bind fun thread =>
    (s.turn reader thread label.event).map fun result =>
      { result.1 with threads := s.threads.set label.thread result.2 }

/-! ## What the callers rely on -/

/-- What user code calls from where: a disconnect with no registrations locked, and the `Client`
outside the poll thread with nothing locked at all. -/
def Orderly (s : World json) (label : Label json) : Prop :=
  ∀ thread ∈ s.threads[label.thread]?, thread.Orderly label.event

end World

/-! ## Code that keeps the order of the locks -/

/-- The builder comes first, then the `RawClient` and its registrations. -/
def Lock.rank : Lock → Nat
  | .builder => 0
  | .client => 1
  | .registrations .on => 3
  | .registrations .onAny => 4
  | _ => 5

/-- Neither the builder nor the write guard is held. -/
def Mild (held : List (Claim Lock)) : Prop :=
  ∀ claim ∈ held, claim.lock ≠ .builder ∧ claim ≠ ⟨.client, true⟩

/-- What is held where user code may run. -/
def Calling (held : List (Claim Lock)) : Prop :=
  ∀ claim ∈ held, claim = ⟨.client, false⟩ ∨ claim = ⟨.registrations .on, true⟩ ∨
    claim = ⟨.registrations .onAny, true⟩

/-- What a thread with these locks may go for.  The poll thread, which alone goes for the write
guard, may go for the builder and for another read guard whenever it does not hold the builder. -/
def Allowed (polls : Bool) (held : List (Claim Lock)) (claim : Claim Lock) : Prop :=
  match claim with
  | ⟨.builder, true⟩ => held = [] ∨ polls = true ∧ Mild held
  | ⟨.client, false⟩ => held = [] ∨ polls = true ∧ Mild held
  | ⟨.client, true⟩ => polls = true ∧ held = [⟨.builder, true⟩]
  | ⟨.builder, false⟩ => False
  | ⟨lock, exclusive⟩ =>
      exclusive = true ∧ Mild held ∧ ∀ other ∈ held, other.lock.rank < lock.rank

/-- Exactly the mutexes of its kind are held around an invocation of user code. -/
def Runs (held : List (Claim Lock)) (invocation : Invocation json) : Prop :=
  ∃ base, Base base ∧ held =
    ((Sync.Invocation.locks invocation).map fun mutex => ⟨.registrations mutex, true⟩) ++ base

namespace Act

/-- The locks with which a thread comes to something that puts code in front. -/
def Fits (polls : Bool) (held : List (Claim Lock)) : Act json → Prop
  | .raw _ (.invoke invocation) => Runs held invocation
  | .raw _ (.running invocation) => Runs held invocation
  | .raw _ (.takeClose _ _) =>
      ∃ base, Base base ∧ held = ⟨.registrations .onCloseWithSession, true⟩ :: base
  | .raw session (.takeAck _) =>
      ∃ base, Base base ∧ held = ⟨.outstandingAcks session, true⟩ :: base
  | .poll => polls = true ∧ held = [⟨.client, false⟩]
  | .perform op => Calling held ∧ (op = .disconnect → Base held)
  | .attempt _ => polls = true ∧ held = []
  | .connectRaw _ => polls = true ∧ held = [⟨.builder, true⟩]
  | .panicked => held = []
  | _ => True

/-- The locks it leaves, once what it puts in front is done. -/
def leaves (held : List (Claim Lock)) : Act json → List (Claim Lock)
  | .raw _ (.takeClose _ _) => held.tail
  | .raw _ (.takeAck _) => held.tail
  | .poll => held.tail
  | .connectRaw _ => held.tail
  | _ => held

end Act

/-- With these locks, what is left to do keeps the order, and ends with none. -/
def Disciplined (polls : Bool) : List (Claim Lock) → List (Act json) → Prop
  | held, [] => held = []
  | held, act :: todo =>
      match act.claim, act.released with
      | some claim, _ => Allowed polls held claim ∧ Disciplined polls (claim :: held) todo
      | none, some lock => Disciplined polls (unlock lock held) todo
      | none, none => act.Fits polls held ∧ Disciplined polls (act.leaves held) todo

/-- Code that takes a thread from some locks to others. -/
def Passes (polls : Bool) (held : List (Claim Lock)) (code : List (Act json))
    (after : List (Claim Lock)) : Prop :=
  ∀ todo, Disciplined polls after todo → Disciplined polls held (code ++ todo)

section Code

variable {polls : Bool} {held mid after : List (Claim Lock)}

theorem Passes.nil : Passes polls held ([] : List (Act json)) held := fun _ h => h

theorem Passes.append {code rest : List (Act json)} (h : Passes polls held code mid)
    (hrest : Passes polls mid rest after) : Passes polls held (code ++ rest) after := by
  intro todo htodo
  rw [List.append_assoc]
  exact h _ (hrest todo htodo)

theorem Passes.acquire {claim : Claim Lock} {rest : List (Act json)}
    (h : Allowed polls held claim) (hrest : Passes polls (claim :: held) rest after) :
    Passes polls held (.acquire claim :: rest) after :=
  fun todo htodo => ⟨h, hrest todo htodo⟩

theorem Passes.release {lock : Lock} {rest : List (Act json)}
    (hrest : Passes polls (unlock lock held) rest after) :
    Passes polls held (.release lock :: rest) after :=
  fun todo htodo => hrest todo htodo

theorem Passes.lock {session : Nat} {mutex : Mutex} {rest : List (Act json)}
    (h : Allowed polls held ⟨lockOf session mutex, true⟩)
    (hrest : Passes polls (⟨lockOf session mutex, true⟩ :: held) rest after) :
    Passes polls held (.raw session (.lock mutex) :: rest) after :=
  fun todo htodo => ⟨h, hrest todo htodo⟩

theorem Passes.unlock {session : Nat} {mutex : Mutex} {rest : List (Act json)}
    (hrest : Passes polls (unlock (lockOf session mutex) held) rest after) :
    Passes polls held (.raw session (.unlock mutex) :: rest) after :=
  fun todo htodo => hrest todo htodo

theorem Passes.act {act : Act json} {rest : List (Act json)} (hclaim : act.claim = none)
    (hreleased : act.released = none) (h : act.Fits polls held)
    (hrest : Passes polls (act.leaves held) rest after) :
    Passes polls held (act :: rest) after := by
  intro todo htodo
  have hall : act.Fits polls held ∧ Disciplined polls (act.leaves held) (rest ++ todo) :=
    ⟨h, hrest todo htodo⟩
  show Disciplined polls held (act :: (rest ++ todo))
  rw [Disciplined, hclaim, hreleased]
  exact hall

@[simp] theorem unlock_head (claim : Claim Lock) (held : List (Claim Lock)) :
    unlock claim.lock (claim :: held) = held := by
  simp [Locking.unlock]

theorem Base.mild (h : Base held) : Mild held := by
  intro claim hclaim
  obtain rfl := h claim hclaim
  exact ⟨by simp, by simp⟩

theorem Base.calling (h : Base held) : Calling held := fun claim hclaim => .inl (h claim hclaim)

theorem Base.rank_lt (h : Base held) {lock : Lock} (hlock : 1 < lock.rank) :
    ∀ other ∈ held, other.lock.rank < lock.rank := by
  intro claim hclaim
  obtain rfl := h claim hclaim
  exact hlock

theorem Calling.mild (h : Calling held) : Mild held := by
  intro claim hclaim
  rcases h claim hclaim with rfl | rfl | rfl
  · exact ⟨by simp, by simp⟩
  · exact ⟨by simp, by simp⟩
  · exact ⟨by simp, by simp⟩

/-- The outstanding acks come last. -/
theorem Calling.outstandingAcks (h : Calling held) (session : Nat) :
    Allowed polls held ⟨.outstandingAcks session, true⟩ := by
  refine ⟨rfl, h.mild, ?_⟩
  intro claim hclaim
  rcases h claim hclaim with rfl | rfl | rfl
  · show 1 < 5
    omega
  · show 3 < 5
    omega
  · show 4 < 5
    omega

theorem Runs.calling {invocation : Invocation json} (h : Runs held invocation) : Calling held := by
  obtain ⟨base, hbase, rfl⟩ := h
  intro claim hclaim
  rcases List.mem_append.mp hclaim with hclaim | hclaim
  · cases invocation with
    | callback call =>
        have hmem : claim = ⟨.registrations .onAny, true⟩ ∨ claim = ⟨.registrations .on, true⟩ := by
          simpa [Sync.Invocation.locks] using hclaim
        rcases hmem with rfl | rfl
        · exact .inr (.inr rfl)
        · exact .inr (.inl rfl)
    | closeWithSession reason epoch => exact absurd hclaim List.not_mem_nil
    | ack ack payload => exact absurd hclaim List.not_mem_nil
  · exact .inl (hbase claim hclaim)

/-- User code is called, several times over. -/
theorem passes_invoke {α : Type} {session : Nat} {invocation : α → Invocation json}
    (h : ∀ a, Runs held (invocation a)) (calls : List α) :
    Passes polls held (calls.map fun a => .raw session (.invoke (invocation a))) held := by
  induction calls with
  | nil => exact .nil
  | cons a calls ih => exact .act rfl rfl (h a) ih

variable (reader : FromStr json) (registrations : Registrations) (session : Nat)

theorem passes_callbackCode (hbase : Base held) (event : Event) (payload : Payload json)
    (ackId : Option Int) :
    Passes polls held ((callbackCode registrations event payload ackId).map (.raw session))
      held := by
  rw [callbackCode, List.cons_append, List.cons_append, List.map_cons, List.map_cons,
    List.map_append, List.map_map]
  refine .lock ⟨rfl, hbase.mild, hbase.rank_lt (show 1 < 3 by omega)⟩ (.lock ⟨rfl, ?_, ?_⟩ ?_)
  · intro claim hclaim
    rcases List.mem_cons.mp hclaim with rfl | hclaim
    · exact ⟨by simp [lockOf], by simp [lockOf]⟩
    · exact hbase.mild claim hclaim
  · intro claim hclaim
    rcases List.mem_cons.mp hclaim with rfl | hclaim
    · show 3 < 4
      omega
    · obtain rfl := hbase claim hclaim
      show 1 < 4
      omega
  · have hruns (call : Call json) : Runs
        (⟨.registrations .onAny, true⟩ :: ⟨.registrations .on, true⟩ :: held) (.callback call) :=
      ⟨held, hbase, rfl⟩
    have hcalls : Passes polls (⟨.registrations .onAny, true⟩ :: ⟨.registrations .on, true⟩ :: held)
        ((callback registrations.toCallbacks event payload ackId).map fun call =>
          .raw session (.invoke (.callback call)))
        (⟨.registrations .onAny, true⟩ :: ⟨.registrations .on, true⟩ :: held) :=
      passes_invoke hruns _
    refine .append hcalls (.unlock (.unlock ?_))
    have hunlocked : unlock (lockOf session .onAny) (unlock (lockOf session .on)
        (⟨.registrations .onAny, true⟩ :: ⟨.registrations .on, true⟩ :: held)) = held := by
      simp [Locking.unlock, lockOf]
    rw [hunlocked]
    exact .nil

theorem passes_closeCode (hbase : Base held) (reason : CloseReason) (epoch : Nat) :
    Passes polls held ((closeCode reader registrations reason epoch).map (.raw session)) held := by
  rw [closeCode, List.map_append]
  refine .append (passes_callbackCode registrations session hbase _ _ _) (.lock ?_ ?_)
  · exact ⟨rfl, hbase.mild, hbase.rank_lt (show 1 < 5 by omega)⟩
  · exact .act rfl rfl ⟨held, hbase, rfl⟩ .nil

theorem passes_packetCode (hbase : Base held) (nsp : Str) (epoch : Nat) (packet : Packet) :
    Passes polls held ((packetCode reader registrations nsp epoch packet).map (.raw session))
      held := by
  unfold packetCode
  split
  · rename_i handler hhandler
    cases handler with
    | ack =>
        simp only [Sync.handlerCode]
        split
        · refine .lock (hbase.calling.outstandingAcks session) ?_
          exact .act rfl rfl ⟨held, hbase, rfl⟩ .nil
        · exact .nil
    | binaryEvent =>
        simp only [Sync.handlerCode]
        split
        · exact passes_callbackCode registrations session hbase _ _ _
        · exact .nil
    | connect => exact passes_callbackCode registrations session hbase _ _ _
    | disconnect => exact passes_closeCode reader registrations session hbase _ epoch
    | connectError => exact passes_callbackCode registrations session hbase _ _ _
    | event =>
        simp only [Sync.handlerCode]
        split
        · exact .nil
        · split
          · exact passes_callbackCode registrations session hbase _ _ _
          · exact passes_callbackCode registrations session hbase _ _ _
          · exact .nil
  · exact .nil

end Code

/-! ## What every step keeps -/

section Code

variable {reader : FromStr json} {polls : Bool} {held : List (Claim Lock)}

/-- A method of a `RawClient`, called with what may be held around user code. -/
theorem passes_call (s : World json) (session : Nat) {op : Op json} (hcalling : Calling held)
    (hdisconnect : op = .disconnect → Base held) :
    Passes polls held (s.call reader session op).2 held := by
  cases op with
  | emit event data => exact .nil
  | ack data ackId => exact .nil
  | emitWithAck event data timeout callback id now =>
      simp only [World.call]
      split
      · refine .lock (hcalling.outstandingAcks session) (.act rfl rfl trivial (.unlock ?_))
        have hunlocked : unlock (lockOf session .outstandingAcks)
            (Act.leaves (⟨lockOf session .outstandingAcks, true⟩ :: held)
              (.raw session (.pushAck ⟨callback, id.val, now, timeout⟩) : Act json)) = held :=
          unlock_head _ held
        rw [hunlocked]
        exact .act rfl rfl trivial .nil
      · exact .nil
  | disconnect => exact passes_closeCode reader s.registrations session (hdisconnect rfl) _ _

/-- A method of `Client`, called with nothing held, or from a callback in the poll thread. -/
theorem passes_clientOp {op : ClientOp json} (hcalling : Calling held)
    (hfree : polls = true ∨ held = []) (hdisconnect : op = .perform .disconnect → Base held) :
    Passes polls held op.code held := by
  have hallowed : held = [] ∨ polls = true ∧ Mild held :=
    hfree.symm.imp_right fun hpolls => ⟨hpolls, hcalling.mild⟩
  cases op with
  | perform op =>
      refine .acquire hallowed (.act rfl rfl ⟨?_, ?_⟩ (.release ?_))
      · intro claim hclaim
        rcases List.mem_cons.mp hclaim with rfl | hclaim
        · exact .inl rfl
        · exact hcalling claim hclaim
      · rintro rfl claim hclaim
        rcases List.mem_cons.mp hclaim with rfl | hclaim
        · rfl
        · exact hdisconnect rfl claim hclaim
      · show Passes polls (unlock _ (_ :: held)) [] held
        rw [unlock_head ⟨.client, false⟩]
        exact .nil
  | setReconnectUrl address =>
      refine .acquire hallowed (.act rfl rfl trivial (.release ?_))
      show Passes polls (unlock _ (_ :: held)) [] held
      rw [unlock_head ⟨.builder, true⟩]
      exact .nil

/-- The builder is locked for a look at it. -/
theorem passes_look : Passes polls [] ([.acquire ⟨.builder, true⟩, .release .builder] :
    List (Act json)) [] :=
  .acquire (.inl rfl) (.release .nil)

theorem passes_reconnectCode (config : Config) :
    Passes true [] (reconnectCode config : List (Act json)) [] := by
  have hdisconnect : Passes true [] ((ClientOp.perform .disconnect).code : List (Act json)) [] :=
    passes_clientOp (fun _ h => absurd h List.not_mem_nil) (.inl rfl)
      fun _ _ h => absurd h List.not_mem_nil
  refine (hdisconnect.append passes_look).append ?_
  split
  · exact .act rfl rfl ⟨rfl, rfl⟩ .nil
  · exact .nil

theorem passes_decisionCode (config : Config) (result : PollResult) :
    Passes true [] (decisionCode config result : List (Act json)) [] := by
  refine @Passes.append json true [] [] [] _ _ ?_ ?_
  · cases result with
    | engineError => exact .nil
    | error => exact .nil
    | packet packet =>
        show Passes true [] (if packet.packetType = .disconnect then _ else _) []
        split
        · exact passes_look
        · exact .nil
  · split
    · exact passes_reconnectCode config
    · exact .nil

/-- What has come is handled with the read guard held, and the guard dropped after it. -/
theorem passes_received (s : World json) (incoming : Incoming) :
    Passes true [⟨.client, false⟩] (s.received reader incoming) [] := by
  have hbase : Base [⟨.client, false⟩] := fun claim hclaim => List.mem_singleton.mp hclaim
  have hreturn (result : PollResult) : Passes true [⟨.client, false⟩]
      (.release .client :: decisionCode s.config result : List (Act json)) [] :=
    .release (passes_decisionCode s.config result)
  cases incoming with
  | packet packet =>
      simp only [World.received]
      split
      · exact (passes_packetCode reader s.registrations s.current hbase _ _ packet).append
          (hreturn _)
      · exact .act rfl rfl ⟨rfl, rfl⟩ .nil
  | failed engine text =>
      exact (passes_callbackCode s.registrations s.current hbase _ _ _).append (hreturn _)
  | closed => exact hreturn _

/-- An instruction of a `RawClient` takes the thread to the locks it leaves. -/
theorem passes_execute {now : Nat} {s : World json} {session : Nat} {instr : Instr json}
    {result : World json × List (Act json)} (h : s.execute reader now session instr = some result)
    (hfits : (Act.raw session instr).Fits polls held) :
    Passes polls held result.2 ((Act.raw session instr).leaves held) := by
  cases instr with
  | lock mutex => simp [World.execute] at h
  | unlock mutex => simp [World.execute] at h
  | running invocation => simp [World.execute] at h
  | invoke invocation =>
      obtain rfl := Option.some.inj h
      exact .act rfl rfl hfits .nil
  | takeClose reason epoch =>
      obtain ⟨base, hbase, rfl⟩ := hfits
      simp only [World.execute] at h
      have hallowed : Allowed polls base ⟨.registrations .onCloseWithSession, true⟩ :=
        ⟨rfl, hbase.mild, hbase.rank_lt (show 1 < 5 by omega)⟩
      have hunlocked : unlock (lockOf session .onCloseWithSession)
          (⟨.registrations .onCloseWithSession, true⟩ :: base) = base :=
        unlock_head ⟨.registrations .onCloseWithSession, true⟩ base
      have hdone : Passes polls (⟨.registrations .onCloseWithSession, true⟩ :: base)
          [(.raw session (.unlock .onCloseWithSession) : Act json)] base := by
        refine .unlock ?_
        rw [hunlocked]
        exact .nil
      split at h
      · obtain rfl := Option.some.inj h
        refine .unlock ?_
        rw [hunlocked]
        exact .act rfl rfl ⟨base, hbase, rfl⟩ (.lock hallowed (.act rfl rfl trivial hdone))
      · obtain rfl := Option.some.inj h
        exact hdone
  | putClose =>
      obtain rfl := Option.some.inj h
      exact .nil
  | takeAck packet =>
      obtain ⟨base, hbase, rfl⟩ := hfits
      obtain rfl := Option.some.inj h
      refine .unlock ?_
      have hunlocked : unlock (lockOf session .outstandingAcks)
          (⟨.outstandingAcks session, true⟩ :: base) = base :=
        unlock_head ⟨.outstandingAcks session, true⟩ base
      rw [hunlocked]
      have hruns (call : Ack × Payload json) : Runs base (.ack call.1 call.2) := ⟨base, hbase, rfl⟩
      exact passes_invoke hruns _
  | pushAck ack =>
      obtain rfl := Option.some.inj h
      exact .nil
  | send packet =>
      obtain rfl := Option.some.inj h
      exact .nil

/-- So does anything else that neither takes nor releases a lock. -/
theorem passes_perform {now : Nat} {s : World json} {act : Act json}
    {result : World json × List (Act json)} (h : s.perform reader now act = some result)
    (hfits : act.Fits polls held) :
    Passes polls held result.2 (act.leaves held) := by
  cases act with
  | acquire claim => simp [World.perform] at h
  | release lock => simp [World.perform] at h
  | poll => simp [World.perform] at h
  | connectRaw attempts => simp [World.perform] at h
  | panicked => simp [World.perform] at h
  | raw session instr => exact passes_execute h hfits
  | perform op =>
      obtain rfl := Option.some.inj h
      exact passes_call s s.current hfits.1 hfits.2
  | setAddress address =>
      obtain rfl := Option.some.inj h
      exact .nil
  | attempt attempts =>
      obtain ⟨rfl, rfl⟩ := hfits
      simp only [World.perform] at h
      split at h
      · obtain rfl := Option.some.inj h
        exact .acquire (.inl rfl) (.act rfl rfl ⟨rfl, rfl⟩ .nil)
      · obtain rfl := Option.some.inj h
        exact .act rfl rfl rfl .nil
      · obtain rfl := Option.some.inj h
        exact .nil
  | install client =>
      obtain rfl := Option.some.inj h
      exact .nil

end Code

section Step

variable {reader : FromStr json}

/-- What is held where user code calls. -/
theorem calling_of_mayCall {thread : Thread json} (h : thread.mayCall = true)
    (hdisciplined : Disciplined thread.polls thread.held thread.todo) : Calling thread.held := by
  rcases htodo : thread.todo with _ | ⟨act, todo⟩
  · rw [htodo] at hdisciplined
    have hheld : thread.held = [] := hdisciplined
    rw [hheld]
    exact fun _ hclaim => absurd hclaim List.not_mem_nil
  · rw [htodo] at hdisciplined
    have hrunning : ∃ session invocation, act = .raw session (.running invocation) := by
      simp only [Thread.mayCall, htodo] at h
      split at h
      · rename_i hnil
        cases hnil
      · rename_i session invocation _ hcons
        exact ⟨session, invocation, (List.cons.inj hcons).1⟩
      · simp at h
    obtain ⟨session, invocation, rfl⟩ := hrunning
    exact Runs.calling hdisciplined.1

/-- **Nothing that happens to a thread breaks the order**, if user code keeps it. -/
theorem disciplined_turn {s : World json} {thread : Thread json} {happening : Happening json}
    {result : World json × Thread json} (h : s.turn reader thread happening = some result)
    (hdisciplined : Disciplined thread.polls thread.held thread.todo)
    (horderly : thread.Orderly happening) :
    result.2.polls = thread.polls ∧
      Disciplined result.2.polls result.2.held result.2.todo := by
  cases happening with
  | advance now =>
      rcases htodo : thread.todo with _ | ⟨act, todo⟩
      · simp [World.turn, htodo] at h
      · rw [htodo] at hdisciplined
        simp only [World.turn, htodo] at h
        rw [Disciplined] at hdisciplined
        split at h
        · rename_i claim _ hclaim
          rw [hclaim] at hdisciplined
          split at h
          · obtain rfl := Option.some.inj h
            exact ⟨rfl, hdisciplined.2⟩
          · simp at h
        · rename_i lock hclaim hreleased
          rw [hclaim, hreleased] at hdisciplined
          obtain rfl := Option.some.inj h
          exact ⟨rfl, hdisciplined⟩
        · rename_i hclaim hreleased
          rw [hclaim, hreleased] at hdisciplined
          obtain ⟨performed, hperformed, rfl⟩ := Option.map_eq_some_iff.mp h
          exact ⟨rfl, passes_perform hperformed hdisciplined.1 todo hdisciplined.2⟩
  | iterate =>
      obtain ⟨hidle, h⟩ := Option.ite_none_right_eq_some.mp h
      obtain rfl := Option.some.inj h
      obtain ⟨hpolls, hempty⟩ := Bool.and_eq_true_iff.mp hidle
      have hheld : thread.held = [] := by
        rw [List.isEmpty_iff.mp hempty] at hdisciplined
        exact hdisciplined
      refine ⟨rfl, ?_⟩
      show Disciplined thread.polls thread.held iterCode
      rw [hheld]
      exact ⟨.inl rfl, ⟨hpolls, rfl⟩, rfl⟩
  | receive incoming =>
      simp only [World.turn] at h
      split at h
      · rename_i todo htodo
        obtain rfl := Option.some.inj h
        rw [htodo] at hdisciplined
        obtain ⟨⟨hpolls, hheld⟩, hrest⟩ := hdisciplined
        refine ⟨rfl, ?_⟩
        show Disciplined thread.polls thread.held (s.received reader incoming ++ todo)
        rw [hheld, hpolls] at hrest
        rw [hheld, hpolls]
        exact passes_received s incoming todo hrest
      · simp at h
  | connected socket =>
      simp only [World.turn] at h
      split at h
      · rename_i attempts todo socket htodo
        obtain rfl := Option.some.inj h
        rw [htodo] at hdisciplined
        obtain ⟨⟨hpolls, hheld⟩, hrest⟩ := hdisciplined
        refine ⟨rfl, ?_⟩
        rw [hheld] at hrest
        show Disciplined thread.polls thread.held _
        rw [hheld]
        exact ⟨⟨hpolls, rfl⟩, trivial, hrest⟩
      · rename_i attempts todo htodo
        obtain rfl := Option.some.inj h
        rw [htodo] at hdisciplined
        obtain ⟨⟨hpolls, hheld⟩, hrest⟩ := hdisciplined
        refine ⟨rfl, ?_⟩
        rw [hheld] at hrest
        show Disciplined thread.polls thread.held _
        rw [hheld]
        exact ⟨⟨hpolls, rfl⟩, hrest⟩
      · simp at h
  | call op =>
      obtain ⟨hmay, h⟩ := Option.ite_none_right_eq_some.mp h
      obtain rfl := Option.some.inj h
      have hcalling := calling_of_mayCall hmay hdisciplined
      exact ⟨rfl, passes_clientOp hcalling horderly.1 horderly.2 thread.todo hdisciplined⟩
  | callRaw session op =>
      obtain ⟨hmay, h⟩ := Option.ite_none_right_eq_some.mp h
      obtain rfl := Option.some.inj h
      have hcalling := calling_of_mayCall (Bool.and_eq_true_iff.mp hmay).1 hdisciplined
      exact ⟨rfl, passes_call s session hcalling horderly thread.todo hdisciplined⟩
  | finish =>
      simp only [World.turn] at h
      split at h
      · rename_i session invocation todo htodo
        obtain rfl := Option.some.inj h
        rw [htodo] at hdisciplined
        exact ⟨rfl, hdisciplined.2⟩
      · simp at h

/-- What every run keeps: all threads keep the order, and one of them polls. -/
structure Kept (users : Nat) (s : World json) : Prop where
  disciplined : ∀ thread ∈ s.threads, Disciplined thread.polls thread.held thread.todo
  polls : s.threads.map Thread.polls = true :: List.replicate users false

theorem Kept.step {users : Nat} {s s' : World json} {label : Label json} (hs : Kept users s)
    (horderly : s.Orderly label) (h : s.step reader label = some s') : Kept users s' := by
  obtain ⟨thread, hthread, h⟩ := Option.bind_eq_some_iff.mp h
  obtain ⟨result, hresult, rfl⟩ := Option.map_eq_some_iff.mp h
  obtain ⟨hpolls, hdisciplined⟩ := disciplined_turn hresult
    (hs.disciplined thread (List.mem_of_getElem? hthread)) (horderly thread hthread)
  constructor
  · intro other hother
    rcases List.mem_or_eq_of_mem_set hother with hother | rfl
    · exact hs.disciplined other hother
    · exact hdisciplined
  · obtain ⟨hlt, rfl⟩ := List.getElem?_eq_some_iff.mp hthread
    show (s.threads.set label.thread result.2).map Thread.polls = _
    rw [List.map_set, hpolls, ← List.map_set, List.set_getElem_self, hs.polls]

/-- There is one poll thread. -/
theorem Kept.poller {users : Nat} {s : World json} (hs : Kept users s) {thread other : Thread json}
    (hthread : thread ∈ s.threads) (hother : other ∈ s.threads) (hpolls : thread.polls = true)
    (hpolls' : other.polls = true) : thread = other := by
  have hall := hs.polls
  rcases hthreads : s.threads with _ | ⟨poller, rest⟩
  · rw [hthreads] at hthread
    exact absurd hthread List.not_mem_nil
  · rw [hthreads] at hthread hother hall
    have hrest : ∀ t ∈ rest, t.polls = false := by
      intro t ht
      have hmem : t.polls ∈ List.replicate users false :=
        (List.cons.inj hall).2 ▸ List.mem_map_of_mem ht
      exact (List.mem_replicate.mp hmem).2
    have hfirst : ∀ t ∈ poller :: rest, t.polls = true → t = poller := by
      intro t ht hp
      rcases List.mem_cons.mp ht with rfl | ht
      · rfl
      · exact absurd hp (by simp [hrest t ht])
    rw [hfirst thread hthread hpolls, hfirst other hother hpolls']

end Step

/-! ## Who is further on -/

/-- How far on a thread is that has some locks and wants another one.  Callbacks of the poll thread
that go back to the builder or the guard wait for nobody who waits. -/
def stageOf (held : List (Claim Lock)) (claim : Claim Lock) : Nat :=
  if 2 < claim.lock.rank then claim.lock.rank
  else if claim = ⟨.client, true⟩ then 2
  else if held.isEmpty then claim.lock.rank
  else 6

def Thread.stage (thread : Thread json) : Nat :=
  match thread.wants with
  | some claim => stageOf thread.held claim
  | none => 0

/-- The three kinds of claims that keep the order. -/
inductive Kind (polls : Bool) (held : List (Claim Lock)) (claim : Claim Lock) : Prop
  /-- The builder, or a read guard. -/
  | first (hclaim : claim = ⟨.builder, true⟩ ∨ claim = ⟨.client, false⟩)
      (h : held = [] ∨ polls = true ∧ Mild held)
  | write (hclaim : claim = ⟨.client, true⟩) (hpolls : polls = true)
      (hheld : held = [⟨.builder, true⟩])
  | inner (hrank : 2 < claim.lock.rank) (hexclusive : claim.exclusive = true) (hmild : Mild held)
      (h : ∀ other ∈ held, other.lock.rank < claim.lock.rank)

theorem Allowed.kind {polls : Bool} {held : List (Claim Lock)} {claim : Claim Lock}
    (h : Allowed polls held claim) : Kind polls held claim := by
  obtain ⟨lock, exclusive⟩ := claim
  cases lock with
  | builder =>
      cases exclusive with
      | true => exact .first (.inl rfl) h
      | false => exact absurd h id
  | client =>
      cases exclusive with
      | true => exact .write rfl h.1 h.2
      | false => exact .first (.inr rfl) h
  | registrations mutex =>
      have hrank : 2 < (Lock.registrations mutex).rank := by cases mutex <;> decide
      exact .inner hrank h.1 h.2.1 h.2.2
  | outstandingAcks session => exact .inner (show 2 < 5 by omega) h.1 h.2.1 h.2.2

section Stages

variable {held : List (Claim Lock)} {claim : Claim Lock}

end Stages

/-- A client with a callback for `close`. -/
def notified (users : Nat) : World .integers :=
  World.init .integers Config.new [] ⟨⟨fun event => event = .close, false⟩, false⟩ users

/-- The poll thread reconnects while a user thread disconnects, and the close callback that the user
thread runs sets the address for later connects. -/
def addressInCallback : List (Label .integers) :=
  [⟨0, .iterate⟩, ⟨0, .advance 0⟩, ⟨0, .receive (.failed true [])⟩] ++
    List.replicate 10 ⟨0, .advance 0⟩ ++ [⟨0, .finish⟩] ++ List.replicate 9 ⟨0, .advance 0⟩ ++
      [⟨1, .call (.perform .disconnect)⟩] ++ List.replicate 5 ⟨1, .advance 0⟩ ++
        [⟨0, .advance 0⟩, ⟨0, .connected (some (Socket.opened []))⟩,
          ⟨1, .call (.setReconnectUrl [])⟩]

/-- **The rule matters**: then the one keeps the builder locked and waits for the write guard, the
other one keeps a read guard and waits for the builder. -/
theorem deadlocks : ∃ s, Lts.run (World.step .integers) (notified 1) addressInCallback = some s ∧
    ∀ thread ∈ s.threads, Locks.Hindered Thread.held Thread.wants s.threads thread := by
  obtain ⟨s, poller, user, hrun, hthreads, hpoller, hpoller', huser, huser'⟩ :
      ∃ s poller user, Lts.run (World.step .integers) (notified 1) addressInCallback = some s ∧
        s.threads = [poller, user] ∧ poller.held = [⟨.builder, true⟩] ∧
          poller.wants = some ⟨.client, true⟩ ∧
            user.held = [⟨.registrations .onAny, true⟩, ⟨.registrations .on, true⟩,
              ⟨.client, false⟩] ∧ user.wants = some ⟨.builder, true⟩ :=
    ⟨_, _, _, rfl, rfl, rfl, rfl, rfl, rfl⟩
  refine ⟨s, hrun, ?_⟩
  rw [hthreads]
  intro thread hthread
  rcases List.mem_cons.mp hthread with rfl | hthread
  · refine ⟨user, by simp, ⟨.client, true⟩, hpoller', .inl ⟨⟨.client, false⟩, ?_, rfl, .inr rfl⟩⟩
    rw [huser]
    simp
  · obtain rfl := List.mem_singleton.mp hthread
    refine ⟨poller, by simp, ⟨.builder, true⟩, huser', .inl ⟨⟨.builder, true⟩, ?_, rfl, .inl rfl⟩⟩
    rw [hpoller]
    simp

end TfSocketio.Socketio.Locking
