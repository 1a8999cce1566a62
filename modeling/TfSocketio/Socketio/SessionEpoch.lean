/-
# Socketio.SessionEpoch — the session counter of the asynchronous client, and late closes.

`session_epoch` is bumped at the end of a `connect` that has succeeded, the first one or one of
`reconnect`.  A Close carries the value the counter had when its dispatch task was spawned, and the
task may run `on_close_with_session` any time later, with any number of reconnects in between.

`Lifetime` puts the first connect in front of the reader and the teardowns, and the close dispatch
tasks beside them.  What it observes of the reader is kept apart from the counter: how many calls of
`connect` have returned, when the stream was opened, and what was read from it last.
`sessionEpoch_run` compares the two.  The counter is a number here; no lifetime takes 64 bits to
their end.
-/
import TfSocketio.Socketio.CloseOnce
import TfSocketio.Socketio.Teardown

namespace TfSocketio.Socketio.Async

/-! ## What is observed of the reader -/

/-- What `stream.next()` returns. -/
inductive Item where
  | packet (packet : Packet)
  | error
  | streamEnd
  deriving DecidableEq, Repr

/-- The item a step of the reader reads. -/
def ReaderLabel.item : ReaderLabel → Option Item
  | .packet p => some (.packet p)
  | .error => some .error
  | .streamEnd => some .streamEnd
  | _ => none

def System.Label.item : System.Label → Option Item
  | .reader label => label.item
  | _ => none

/-- Where an item takes the reader. -/
def Item.place : Item → Reader
  | .packet p => .received p
  | .error => .receivedError
  | .streamEnd => .streamEnded

/-- The reader is at work on a stream, or has just seen its end. -/
def Reader.streams : Reader → Bool
  | .streamEnded => true
  | reader => reader.holdsStream

/-- `connect` has returned `Ok`: the reader leaves the attempts loop behind its last step. -/
def connectCompleted : Reader → Reader → Bool
  | .sendConnect _, .asStream => true
  | _, _ => false

/-- `as_stream` has returned. -/
def streamOpened : Reader → Reader → Bool
  | .asStream, .reading => true
  | _, _ => false

/-- The reason and the epoch of a Close whose dispatch task was spawned. -/
def Occurrence.close? : Occurrence → Option (CloseReason × Nat)
  | .spawned (.close reason epoch) => some (reason, epoch)
  | _ => none

/-- The close dispatch tasks that were spawned between two histories. -/
def spawnedCloses (before after : List Occurrence) : List (CloseReason × Nat) :=
  (after.take (after.length - before.length)).filterMap Occurrence.close?

/-! ## The lifetime of a client -/

/-- What a Close was spawned for: the last item read, with the number of successful connects when
its stream was opened and when it was read. -/
structure Cause where
  item : Item
  opened : Nat
  connects : Nat
  deriving DecidableEq, Repr

/-- A Close: its reason, the epoch it carries, and its cause. -/
structure Close where
  reason : CloseReason
  epoch : Nat
  cause : Option Cause
  deriving DecidableEq, Repr

/-- Where the task of a Close stands in `callback_close`.  An aborted task goes no further, like one
that is not scheduled again. -/
inductive ClosePlace where
  /-- At the legacy callback `on(Event::Close)`. -/
  | legacy
  /-- About to invoke `on_close_with_session`. -/
  | session
  | done
  deriving DecidableEq, Repr

/-- Where `ClientBuilder::connect` stands. -/
inductive Start where
  /-- In `inner_create`: the URL and the handshake. -/
  | create
  /-- In `connect`: engine.io. -/
  | connecting
  /-- In `connect`: sending CONNECT. -/
  | sendConnect
  /-- `connect_manual` has returned; about to spawn the reader. -/
  | connected
  | running
  | failed
  deriving DecidableEq, Repr

structure Lifetime where
  start : Start
  system : System
  /-- Whether `on_close_with_session` is registered. -/
  onCloseWithSession : Bool
  /-- How many calls of `connect` have returned `Ok`. -/
  connects : Nat
  /-- How many had when the last stream was opened. -/
  opened : Nat
  /-- The last item read. -/
  read : Option Cause
  closes : List (Close × ClosePlace)
  /-- The invocations of `on_close_with_session`, with what they receive. -/
  calls : List Close

namespace Lifetime

/-- `Client::new`: no session yet. -/
def init (onReconnect onCloseWithSession : Bool) : Lifetime where
  start := .create
  system := { System.init onReconnect with
    client := { Client.init onReconnect with epoch := 0, history := [] } }
  onCloseWithSession
  connects := 0
  opened := 0
  read := none
  closes := []
  calls := []

inductive Label where
  /-- `ClientBuilder::connect` goes on; `ok` is what the URL parser or the network answers. -/
  | start (ok : Bool)
  | system (label : System.Label)
  /-- The task of the Close with this number goes on. -/
  | close (i : Nat)

/-- The first connect. -/
def startStep (s : Lifetime) (ok : Bool) : Option Lifetime :=
  match s.start with
  | .create => some { s with start := if ok then .connecting else .failed }
  | .connecting => some { s with start := if ok then .sendConnect else .failed }
  | .sendConnect =>
      if ok then
        let client : Client := { s.system.client with
          epoch := s.system.client.epoch + 1
          history := .connected (s.system.client.epoch + 1) :: s.system.client.history }
        some { s with
          start := .connected, system := { s.system with client }, connects := s.connects + 1 }
      else some { s with start := .failed }
  | .connected => some { s with start := .running }
  | .running => none
  | .failed => none

/-- What a step of the running system adds to the observations. -/
def observe (s : Lifetime) (item : Option Item) (system : System) : Lifetime :=
  let before := s.system.client
  let after := system.client
  { s with
    system
    connects := if connectCompleted before.reader after.reader then s.connects + 1 else s.connects
    opened := if streamOpened before.reader after.reader then s.connects else s.opened
    read := match item with
      | some item => some ⟨item, s.opened, s.connects⟩
      | none => s.read
    closes := s.closes ++ (spawnedCloses before.history after.history).map fun close =>
      (⟨close.1, close.2, s.read⟩, .legacy) }

/-- One step of `callback_close`. -/
def closeStep (s : Lifetime) (i : Nat) : Option Lifetime :=
  match s.closes[i]? with
  | some (close, .legacy) => some { s with closes := s.closes.set i (close, .session) }
  | some (close, .session) =>
      some { s with
        closes := s.closes.set i (close, .done)
        calls := if s.onCloseWithSession then s.calls ++ [close] else s.calls }
  | _ => none

def step (cfg : Config) (s : Lifetime) : Label → Option Lifetime
  | .start ok => s.startStep ok
  | .system label =>
      if s.start = .running then (s.system.step cfg label).map (s.observe label.item) else none
  | .close i => s.closeStep i

/-- A first connect that succeeds leaves the system that the reader and the teardowns start from. -/
theorem run_start (cfg : Config) (onReconnect onCloseWithSession : Bool) :
    Lts.run (step cfg) (init onReconnect onCloseWithSession)
        [.start true, .start true, .start true, .start true] =
      some { init onReconnect onCloseWithSession with
        start := .running, system := .init onReconnect, connects := 1 } := rfl

end Lifetime

/-! ## What a step of the reader means for the counter -/

/-- Where a step that reads nothing, opens no stream and completes no connect takes the reader. -/
inductive Passes (cfg : Config) (c c' : Client) : Prop
  | stays (hr : c'.reader = c.reader) (hm : c'.reason = c.reason ∨ c'.reason = .manual) :
      Passes cfg c c'
  | leaves (hr : c'.reader.streams = false) : Passes cfg c c'
  | nextItem (hr : c.reader.streams = true) (hr' : c'.reader = .reading) : Passes cfg c c'
  | handles (packet : Packet) (hr : c.reader = .received packet) (hnsp : packet.nsp = cfg.nsp)
      (hr' : c'.reader = .handling packet) : Passes cfg c c'
  /-- The guard against a manual disconnect has ended the stream. -/
  | stops (hr : c.reader.streams = true) (hm : c'.reason = .manual)
      (hr' : c'.reader = .streamEnded) : Passes cfg c c'

/-- **What a step means for the counter**, with the item it reads. -/
inductive Move (cfg : Config) (c : Client) : Option Item → Client → Prop
  | passes (c' : Client) (h : Passes cfg c c') (hepoch : c'.epoch = c.epoch)
      (hcloses : spawnedCloses c.history c'.history = [])
      (hconnect : connectCompleted c.reader c'.reader = false)
      (hopen : streamOpened c.reader c'.reader = false) : Move cfg c none c'
  | openStream (hr : c.reader = .asStream) : Move cfg c none { c with reader := .reading }
  | reads (item : Item) (c' : Client) (hr : c.reader = .reading) (hr' : c'.reader = item.place)
      (hepoch : c'.epoch = c.epoch) (hcloses : spawnedCloses c.history c'.history = []) :
      Move cfg c (some item) c'
  | handleDisconnect (packet : Packet) (c' : Client) (hr : c.reader = .handling packet)
      (hd : packet.packetType = .disconnect) (hr' : c'.reader = .reading)
      (hepoch : c'.epoch = c.epoch)
      (hcloses : spawnedCloses c.history c'.history = [(.ioServerDisconnect, c.epoch)]) :
      Move cfg c none c'
  | transportClose (c' : Client) (hr : c.reader = .streamEnded) (hu : c.reason = .unknown)
      (hr' : c'.reader.streams = false) (hepoch : c'.epoch = c.epoch)
      (hcloses : spawnedCloses c.history c'.history = [(.transportClose, c.epoch)])
      (hopen : streamOpened c.reader c'.reader = false) : Move cfg c none c'
  | connected (attempts : UInt8) (hr : c.reader = .sendConnect attempts) :
      Move cfg c none { c with
        epoch := c.epoch + 1
        reader := .asStream
        history := .connected (c.epoch + 1) :: c.history }

theorem spawnedCloses_append (new history : List Occurrence) :
    spawnedCloses history (new ++ history) = new.filterMap Occurrence.close? := by
  rw [spawnedCloses, List.length_append, Nat.add_sub_cancel, List.take_left]

theorem spawnedCloses_self (history : List Occurrence) : spawnedCloses history history = [] :=
  spawnedCloses_append [] history

theorem streams_of_holdsStream {r : Reader} (h : r.holdsStream = true) : r.streams = true := by
  cases r <;> first | rfl | exact h

theorem streams_of_reconnecting {r : Reader} {attempts : UInt8}
    (h : r.reconnecting = some attempts) : r.streams = false := by
  cases r <;> simp_all [Reader.reconnecting, Reader.streams, Reader.holdsStream]

theorem Occurrence.close?_of_silent {o : Occurrence} (h : o.silent = true) : o.close? = none := by
  cases o with
  | spawned task => cases task <;> simp_all [Occurrence.silent, Occurrence.close?]
  | _ => rfl

theorem spawnedCloses_silent {before after : List Occurrence}
    (h : ∃ new, after = new ++ before ∧ ∀ o ∈ new, o.silent = true) :
    spawnedCloses before after = [] := by
  obtain ⟨new, rfl, hsilent⟩ := h
  rw [spawnedCloses_append, List.filterMap_eq_nil_iff]
  exact fun o ho => Occurrence.close?_of_silent (hsilent o ho)

/-- A step from a place where no connect can complete and no stream can be opened. -/
theorem Move.of_passes {cfg : Config} {c c' : Client} (h : Passes cfg c c')
    (hepoch : c'.epoch = c.epoch) (hcloses : spawnedCloses c.history c'.history = [])
    (hconnect : ∀ attempts, c.reader = .sendConnect attempts → c'.reader ≠ .asStream)
    (hopen : c.reader = .asStream → c'.reader ≠ .reading) : Move cfg c none c' := by
  refine .passes c' h hepoch hcloses ?_ ?_
  · cases hr : c.reader <;> cases hr' : c'.reader <;>
      first | rfl | exact absurd hr' (hconnect _ hr)
  · cases hr : c.reader <;> cases hr' : c'.reader <;>
      first | rfl | exact absurd hr' (hopen hr)

/-- The attempts loop holds no stream. -/
theorem nextAttempt_streams (cfg : Config) (c : Client) (attempts : UInt8) :
    (c.nextAttempt cfg attempts).reader.streams = false := by
  unfold Client.nextAttempt
  split
  · rfl
  · dsimp only
    split
    · rfl
    · split <;> rfl

/-- The reader goes on reading, or handles a packet of its namespace. -/
theorem dispatchPacket_reader (cfg : Config) (c : Client) (packet : Packet) :
    (c.dispatchPacket cfg packet).reader = .reading ∨
      packet.nsp = cfg.nsp ∧ (c.dispatchPacket cfg packet).reader = .handling packet := by
  unfold Client.dispatchPacket
  split
  · rename_i hnsp
    split
    · exact .inl rfl
    · exact .inr ⟨hnsp, rfl⟩
  · exact .inl rfl

theorem Transition.move {cfg : Config} {c c' : Client} {label : ReaderLabel}
    (h : Transition cfg c label c') : Move cfg c label.item c' := by
  cases h with
  | openStream hr => exact .openStream hr
  | readPacket packet hr hs =>
      exact .reads (.packet packet) _ hr rfl rfl (spawnedCloses_append [.received _ packet] _)
  | readError hr hs => exact .reads .error _ hr rfl rfl (spawnedCloses_self _)
  | closeEngine label keepTransport hl hr hs =>
      have hitem : label.item = none := by rcases hl with rfl | rfl <;> rfl
      rw [hitem]
      exact .of_passes (.stays rfl (.inl rfl)) rfl (spawnedCloses_self _) (by simp [hr])
        (by simp [hr])
  | endStream hr => exact .reads .streamEnd _ hr rfl rfl (spawnedCloses_self _)
  | stopStream hr hm =>
      have hstreams := streams_of_holdsStream hr
      exact .of_passes (.stops hstreams hm rfl) rfl (spawnedCloses_self _)
        (by simp [Client.endStream]) (by simp [Client.endStream])
  | panicStream hr hs =>
      exact .of_passes (.leaves rfl) rfl (spawnedCloses_append [.sessionEnded _] _) (by simp)
        (by simp)
  | dispatch packet hr hm =>
      have hquiet := dispatchPacket_quiet cfg hr
      have hcloses := spawnedCloses_silent hquiet.history
      have hstreams : c.reader.streams = true := by rw [hr]; rfl
      rcases dispatchPacket_reader cfg c packet with hreading | ⟨hnsp, hhandling⟩
      · exact .of_passes (.nextItem hstreams hreading) hquiet.epoch hcloses (by simp [hr])
          (by simp [hr])
      · exact .of_passes (.handles packet hr hnsp hhandling) hquiet.epoch hcloses (by simp [hr])
          (by simp [hr])
  | spawnError hr hm =>
      have hstreams : c.reader.streams = true := by rw [hr]; rfl
      exact .of_passes (.nextItem hstreams rfl) rfl (spawnedCloses_append [.spawned .error] _)
        (by simp) (by simp [hr])
  | handle packet hr =>
      by_cases hd : packet.packetType = .disconnect
      · refine .handleDisconnect packet _ hr hd (by simp) (by simp) ?_
        rw [Client.handlePacket_history, if_pos hd]
        exact spawnedCloses_append [.spawned (.close .ioServerDisconnect c.epoch)] _
      · have hstreams : c.reader.streams = true := by rw [hr]; rfl
        refine .of_passes (.nextItem hstreams (by simp)) (by simp) ?_ (by simp) (by simp [hr])
        rw [Client.handlePacket_history, if_neg hd]
        exact spawnedCloses_append [.spawned .connect] _
  | afterStream hr =>
      have hstreams : (c.afterStream cfg).reader.streams = false := by
        rw [Client.afterStream_reader]
        split <;> rfl
      by_cases hu : c.reason = .unknown
      · refine .transportClose _ hr hu hstreams (by simp) ?_ (by rw [hr]; rfl)
        rw [Client.afterStream_history, if_pos hu]
        exact spawnedCloses_append
          [.spawned (.close .transportClose c.epoch), .sessionEnded c.epoch] _
      · refine .of_passes (.leaves hstreams) (by simp) ?_ (by simp [hr]) (by simp [hr])
        rw [Client.afterStream_history, if_neg hu]
        exact spawnedCloses_append [.sessionEnded c.epoch] _
  | nextAttempt attempts hr =>
      have hquiet := nextAttempt_quiet cfg hr
      exact .of_passes (.leaves (nextAttempt_streams cfg c attempts)) hquiet.epoch
        (spawnedCloses_silent hquiet.history) (by simp [hr]) (by simp [hr])
  | callOnReconnect attempts hr =>
      exact .of_passes (.leaves rfl) rfl (spawnedCloses_append [.calledOnReconnect] _) (by simp)
        (by simp)
  | reconnecting label next onReconnect socket attempts hl hr hn =>
      have hitem : label.item = none := by rcases hl with rfl | ⟨ok, rfl⟩ <;> rfl
      have hstreams := streams_of_reconnecting hn
      rw [hitem]
      refine .of_passes (.leaves hstreams) rfl (spawnedCloses_self _) ?_ ?_
      · rintro _ - rfl
        simp [Reader.reconnecting] at hn
      · rintro - rfl
        simp [Reader.reconnecting] at hn
  | install attempts hr =>
      exact .of_passes (.leaves rfl) rfl (spawnedCloses_append [.installed] _) (by simp) (by simp)
  | reconnected attempts hr => exact .connected attempts hr
  | tryAgain attempts hr =>
      exact .of_passes (.leaves rfl) rfl (spawnedCloses_self _) (by simp) (by simp)
  | taskFinished index =>
      refine .of_passes (.stays rfl (.inl rfl)) rfl (spawnedCloses_self _) ?_ ?_
      · rintro attempts hr hr'
        simp [hr] at hr'
      · rintro hr hr'
        simp [hr] at hr'

/-- A step that leaves the reader where it is. -/
theorem Move.stays {cfg : Config} {c c' : Client} (hr : c'.reader = c.reader)
    (hm : c'.reason = c.reason ∨ c'.reason = .manual) (hepoch : c'.epoch = c.epoch)
    (hhistory : c'.history = c.history) : Move cfg c none c' := by
  refine .of_passes (.stays hr hm) hepoch ?_ ?_ ?_
  · rw [hhistory]
    exact spawnedCloses_self _
  · intro attempts hsend has
    rw [hr, hsend] at has
    simp at has
  · intro has hreading
    rw [hr, has] at hreading
    simp at hreading

/-- A teardown touches neither the reader nor the counter. -/
theorem System.Advance.move {cfg : Config} {s s' : System} {i : Nat} {ok : Bool} {place : Teardown}
    (h : System.Advance s i ok place s') : Move cfg s.client none s'.client := by
  cases h with
  | announce => exact .stays rfl (.inr rfl) rfl rfl
  | _ => exact .stays rfl (.inl rfl) rfl rfl

theorem System.step_move {cfg : Config} {s s' : System} {label : System.Label}
    (h : System.step cfg s label = some s') : Move cfg s.client label.item s'.client := by
  cases System.step_cases h with
  | reader label client htransition => exact htransition.move
  | register hr => exact .stays rfl (.inl rfl) rfl rfl
  | cancel haborted hrun =>
      refine .of_passes (.leaves rfl) ?_ ?_ (by simp) (by simp)
      · show (if _ then _ else _ : Client).epoch = _
        split <;> rfl
      · have hhistory : (if s.client.reader.holdsStream then s.client.abortDispatch false
            else s.client).history = s.client.history := by split <;> rfl
        show spawnedCloses s.client.history (if _ then _ else _ : Client).history = []
        rw [hhistory]
        exact spawnedCloses_self _
  | disconnect i hidle => exact .stays rfl (.inl rfl) rfl rfl
  | advance i ok place s' hadvance => exact hadvance.move

/-! ## What every run keeps -/

/-- A Close carries the number of successful connects when its cause was read, which is the number
when the stream was opened; and the cause is what its reason says. -/
def Close.OfDyingSession (cfg : Config) (close : Close) : Prop :=
  ∃ cause, close.cause = some cause ∧ close.epoch = cause.connects ∧
    cause.opened = cause.connects ∧
    match close.reason with
    | .ioServerDisconnect => ∃ packet, cause.item = .packet packet ∧ disconnects cfg.nsp packet
    | .transportClose => cause.item = .streamEnd
    | .ioClientDisconnect => False

namespace Lifetime

/-- How the counter, the observations and the Closes hang together. -/
structure Invariant (cfg : Config) (s : Lifetime) : Prop where
  epoch : s.system.client.epoch = s.connects
  idle : s.start ≠ .running → s.system.client.reader = .asStream
  opened : s.system.client.reader.streams = true → s.opened = s.connects
  /-- A packet that is being handled was read in this session. -/
  read : ∀ packet, s.system.client.reader = .received packet ∨
    s.system.client.reader = .handling packet →
      s.read = some ⟨.packet packet, s.connects, s.connects⟩
  nsp : ∀ packet, s.system.client.reader = .handling packet → packet.nsp = cfg.nsp
  /-- So was the end of the stream, unless a manual disconnect stopped the reader. -/
  ended : s.system.client.reader = .streamEnded → s.system.client.reason = .manual ∨
    s.read = some ⟨.streamEnd, s.connects, s.connects⟩
  closes : ∀ entry ∈ s.closes, entry.1.OfDyingSession cfg
  calls : ∀ close ∈ s.calls, close.OfDyingSession cfg

theorem invariant_init (cfg : Config) (onReconnect onCloseWithSession : Bool) :
    Invariant cfg (.init onReconnect onCloseWithSession) where
  epoch := rfl
  idle _ := rfl
  opened h := by simp [init, System.init, Client.init, Reader.streams, Reader.holdsStream] at h
  read packet h := by simp [init, System.init, Client.init] at h
  nsp packet h := by simp [init, System.init, Client.init] at h
  ended h := by simp [init, System.init, Client.init] at h
  closes := by simp [init]
  calls := by simp [init]

theorem Invariant.startStep {cfg : Config} {s s' : Lifetime} {ok : Bool} (hs : Invariant cfg s)
    (h : s.startStep ok = some s') : Invariant cfg s' := by
  have hmove : ∀ start, s.start ≠ .running → Invariant cfg { s with start } := fun start hne =>
    { hs with idle := fun _ => hs.idle hne }
  cases hstart : s.start with
  | create =>
      simp only [Lifetime.startStep, hstart] at h
      cases h
      exact hmove _ (by simp [hstart])
  | connecting =>
      simp only [Lifetime.startStep, hstart] at h
      cases h
      exact hmove _ (by simp [hstart])
  | sendConnect =>
      have hidle := hs.idle (by simp [hstart])
      simp only [Lifetime.startStep, hstart] at h
      split at h
      · -- the first session
        cases h
        exact {
          epoch := congrArg (· + 1) hs.epoch
          idle := fun _ => hidle
          opened := fun hstreams => by simp [hidle, Reader.streams, Reader.holdsStream] at hstreams
          read := fun packet hread => by simp [hidle] at hread
          nsp := fun packet hread => by simp [hidle] at hread
          ended := fun hended => by simp [hidle] at hended
          closes := hs.closes
          calls := hs.calls }
      · cases h
        exact hmove _ (by simp [hstart])
  | connected =>
      simp only [Lifetime.startStep, hstart] at h
      cases h
      exact hmove _ (by simp [hstart])
  | running => simp [Lifetime.startStep, hstart] at h
  | failed => simp [Lifetime.startStep, hstart] at h

/-- The task of a Close hands on what it was spawned with, whenever it runs. -/
theorem Invariant.closeStep {cfg : Config} {s s' : Lifetime} {i : Nat} (hs : Invariant cfg s)
    (h : s.closeStep i = some s') : Invariant cfg s' := by
  have hset : ∀ close place, close.OfDyingSession cfg →
      ∀ entry ∈ s.closes.set i (close, place), entry.1.OfDyingSession cfg := by
    intro close place hclose entry hentry
    rcases List.mem_or_eq_of_mem_set hentry with hold | rfl
    · exact hs.closes entry hold
    · exact hclose
  simp only [Lifetime.closeStep] at h
  split at h
  · rename_i close hclose
    have hdying := hs.closes _ (List.mem_of_getElem? hclose)
    cases h
    exact { hs with closes := hset close _ hdying }
  · rename_i close hclose
    have hdying := hs.closes _ (List.mem_of_getElem? hclose)
    cases h
    refine { hs with closes := hset close _ hdying, calls := ?_ }
    intro call hcall
    dsimp only at hcall
    split at hcall
    · rcases List.mem_append.mp hcall with hold | hnew
      · exact hs.calls call hold
      · obtain rfl := List.mem_singleton.mp hnew
        exact hdying
    · exact hs.calls call hcall
  · simp at h

/-- A state of the running system in which the reader is at work on no stream. -/
theorem Invariant.away {cfg : Config} {s t : Lifetime} (hs : Invariant cfg s)
    (hrunning : t.start = .running) (hepoch : t.system.client.epoch = t.connects)
    (hstreams : t.system.client.reader.streams = false)
    (hcloses : ∀ entry ∈ t.closes, entry.1.OfDyingSession cfg) (hcalls : t.calls = s.calls) :
    Invariant cfg t where
  epoch := hepoch
  idle hne := absurd hrunning hne
  opened h := by simp [hstreams] at h
  read packet h := by
    rcases h with h | h <;> simp [h, Reader.streams, Reader.holdsStream] at hstreams
  nsp packet h := by simp [h, Reader.streams, Reader.holdsStream] at hstreams
  ended h := by simp [h, Reader.streams] at hstreams
  closes := hcloses
  calls := by rw [hcalls]; exact hs.calls

/-- A state of the running system in which the reader is about to read from its stream. -/
theorem Invariant.reading {cfg : Config} {s t : Lifetime} (hs : Invariant cfg s)
    (hrunning : t.start = .running) (hepoch : t.system.client.epoch = t.connects)
    (hreader : t.system.client.reader = .reading) (hopened : t.opened = t.connects)
    (hcloses : ∀ entry ∈ t.closes, entry.1.OfDyingSession cfg) (hcalls : t.calls = s.calls) :
    Invariant cfg t where
  epoch := hepoch
  idle hne := absurd hrunning hne
  opened _ := hopened
  read packet hread := by simp [hreader] at hread
  nsp packet hread := by simp [hreader] at hread
  ended hended := by simp [hreader] at hended
  closes := hcloses
  calls := by rw [hcalls]; exact hs.calls

theorem Invariant.passes {cfg : Config} {s : Lifetime} (hs : Invariant cfg s)
    (hrunning : s.start = .running) {system : System}
    (h : Passes cfg s.system.client system.client)
    (hepoch : system.client.epoch = s.system.client.epoch) :
    Invariant cfg { s with system } := by
  have hcount : system.client.epoch = s.connects := hepoch.trans hs.epoch
  cases h with
  | stays hr hm =>
      exact {
        epoch := hcount
        idle := fun hne => absurd hrunning hne
        opened := fun hstreams => hs.opened (by rwa [← hr])
        read := fun packet hread => hs.read packet (by rwa [← hr])
        nsp := fun packet hread => hs.nsp packet (by rwa [← hr])
        ended := fun hended => by
          rcases hm with hm | hm
          · exact (hs.ended (by rwa [← hr])).imp_left hm.trans
          · exact .inl hm
        closes := hs.closes
        calls := hs.calls }
  | leaves hr => exact hs.away hrunning hcount hr hs.closes rfl
  | nextItem hr hr' => exact hs.reading hrunning hcount hr' (hs.opened hr) hs.closes rfl
  | handles packet hr hnsp hr' =>
      exact {
        epoch := hcount
        idle := fun hne => absurd hrunning hne
        opened := fun _ => hs.opened (by rw [hr]; rfl)
        read := fun p hread => by
          obtain rfl : packet = p := by simpa [hr'] using hread
          exact hs.read packet (.inl hr)
        nsp := fun p hread => by
          obtain rfl : packet = p := by simpa [hr'] using hread
          exact hnsp
        ended := fun hended => by simp [hr'] at hended
        closes := hs.closes
        calls := hs.calls }
  | stops hr hm hr' =>
      exact {
        epoch := hcount
        idle := fun hne => absurd hrunning hne
        opened := fun _ => hs.opened hr
        read := fun packet hread => by simp [hr'] at hread
        nsp := fun packet hread => by simp [hr'] at hread
        ended := fun _ => .inl hm
        closes := hs.closes
        calls := hs.calls }

/-- A Close is spawned for the item that was read last, in the session it was read in. -/
theorem Invariant.spawns {cfg : Config} {s : Lifetime} (hs : Invariant cfg s)
    (reason : CloseReason) {item : Item} (hread : s.read = some ⟨item, s.connects, s.connects⟩)
    (hreason : match reason with
      | .ioServerDisconnect => ∃ packet, item = .packet packet ∧ disconnects cfg.nsp packet
      | .transportClose => item = .streamEnd
      | .ioClientDisconnect => False) :
    ∀ entry ∈ s.closes ++ [(⟨reason, s.system.client.epoch, s.read⟩, .legacy)],
      entry.1.OfDyingSession cfg := by
  intro entry hentry
  rcases List.mem_append.mp hentry with hold | hnew
  · exact hs.closes entry hold
  · obtain rfl := List.mem_singleton.mp hnew
    exact ⟨_, hread, hs.epoch, rfl, hreason⟩

theorem Invariant.reads {cfg : Config} {s : Lifetime} (hs : Invariant cfg s)
    (hrunning : s.start = .running) {item : Item} {system : System}
    (hr : s.system.client.reader = .reading) (hr' : system.client.reader = item.place)
    (hepoch : system.client.epoch = s.system.client.epoch) :
    Invariant cfg { s with system, read := some ⟨item, s.opened, s.connects⟩ } := by
  have hopened : s.opened = s.connects := hs.opened (by rw [hr]; rfl)
  exact {
    epoch := hepoch.trans hs.epoch
    idle := fun hne => absurd hrunning hne
    opened := fun _ => hopened
    read := fun packet hread => by
      have hitem : item = .packet packet := by
        cases item <;> simp_all [Item.place]
      rw [hitem, hopened]
    nsp := fun packet hread => by cases item <;> simp_all [Item.place]
    ended := fun hended => by
      have hitem : item = .streamEnd := by
        cases item <;> simp_all [Item.place]
      rw [hitem, hopened]
      exact .inr rfl
    closes := hs.closes
    calls := hs.calls }

theorem Invariant.observe {cfg : Config} {s : Lifetime} (hs : Invariant cfg s)
    (hrunning : s.start = .running) {item : Option Item} {system : System}
    (h : Move cfg s.system.client item system.client) : Invariant cfg (s.observe item system) := by
  generalize hclient : system.client = client at h
  cases h with
  | passes _ hpasses hepoch hcloses hconnect hopen =>
      subst hclient
      have hobserve : s.observe none system = { s with system } := by
        simp [Lifetime.observe, hconnect, hopen, hcloses]
      rw [hobserve]
      exact hs.passes hrunning hpasses hepoch
  | openStream hr =>
      have hobserve : s.observe none system = { s with system, opened := s.connects } := by
        simp [Lifetime.observe, hclient, hr, connectCompleted, streamOpened, spawnedCloses_self]
      have hepoch : system.client.epoch = s.connects := by rw [hclient]; exact hs.epoch
      have hreader : system.client.reader = .reading := by rw [hclient]
      rw [hobserve]
      exact hs.reading hrunning hepoch hreader rfl hs.closes rfl
  | reads item _ hr hr' hepoch hcloses =>
      subst hclient
      have hobserve : s.observe (some item) system =
          { s with system, read := some ⟨item, s.opened, s.connects⟩ } := by
        simp [Lifetime.observe, hr, connectCompleted, streamOpened, hcloses]
      rw [hobserve]
      exact hs.reads hrunning hr hr' hepoch
  | handleDisconnect packet _ hr hd hr' hepoch hcloses =>
      subst hclient
      have hobserve : s.observe none system = { s with
          system
          closes := s.closes ++
            [(⟨.ioServerDisconnect, s.system.client.epoch, s.read⟩, .legacy)] } := by
        simp [Lifetime.observe, hr, connectCompleted, streamOpened, hcloses]
      have hread := hs.read packet (.inr hr)
      have hnsp := hs.nsp packet hr
      have hspawned := hs.spawns .ioServerDisconnect hread
        ⟨packet, rfl, by simp [disconnects, hd, hnsp]⟩
      have hopened : s.opened = s.connects := hs.opened (by rw [hr]; rfl)
      rw [hobserve]
      exact hs.reading hrunning (hepoch.trans hs.epoch) hr' hopened hspawned rfl
  | transportClose _ hr hu hr' hepoch hcloses hopen =>
      subst hclient
      have hobserve : s.observe none system = { s with
          system
          closes := s.closes ++
            [(⟨.transportClose, s.system.client.epoch, s.read⟩, .legacy)] } := by
        simp [Lifetime.observe, hr, connectCompleted, streamOpened, hcloses]
      have hread : s.read = some ⟨.streamEnd, s.connects, s.connects⟩ := by
        rcases hs.ended hr with hmanual | hread
        · rw [hu] at hmanual
          simp at hmanual
        · exact hread
      have hspawned := hs.spawns .transportClose hread rfl
      rw [hobserve]
      exact hs.away hrunning (hepoch.trans hs.epoch) hr' hspawned rfl
  | connected attempts hr =>
      have hcloses : spawnedCloses s.system.client.history
          (.connected (s.system.client.epoch + 1) :: s.system.client.history) = [] :=
        spawnedCloses_append [.connected _] _
      have hobserve : s.observe none system =
          { s with system, connects := s.connects + 1 } := by
        simp [Lifetime.observe, hclient, hr, connectCompleted, streamOpened, hcloses]
      rw [hobserve]
      refine hs.away hrunning ?_ (by rw [hclient]; rfl) hs.closes rfl
      rw [hclient]
      exact congrArg (· + 1) hs.epoch

theorem invariant_step {cfg : Config} (s : Lifetime) (label : Label) (s' : Lifetime)
    (hs : Invariant cfg s) (h : step cfg s label = some s') : Invariant cfg s' := by
  cases label with
  | start ok => exact hs.startStep h
  | close i => exact hs.closeStep h
  | system label =>
      simp only [step] at h
      split at h
      · rename_i hrunning
        obtain ⟨system, hsystem, rfl⟩ := Option.map_eq_some_iff.mp h
        exact hs.observe hrunning (System.step_move hsystem)
      · simp at h

end Lifetime

/-- **Session epochs count sessions, and late Closes keep theirs.**  In every run, whatever fails
and whenever the close tasks run, `session_epoch` is the number of calls of `connect` that have
returned `Ok`, and `on_close_with_session` receives the number that had when the Disconnect packet
or the end of the stream was read, none of them since that stream was opened. -/
theorem sessionEpoch_run (cfg : Config) (onReconnect onCloseWithSession : Bool)
    {labels : List Lifetime.Label} {s : Lifetime}
    (h : Lts.run (Lifetime.step cfg) (.init onReconnect onCloseWithSession) labels = some s) :
    s.system.client.epoch = s.connects ∧ ∀ call ∈ s.calls, call.OfDyingSession cfg := by
  have hs : Lifetime.Invariant cfg s := Lts.invariant Lifetime.invariant_step
    (Lifetime.invariant_init cfg onReconnect onCloseWithSession) h
  exact ⟨hs.epoch, hs.calls⟩

/-- The first session loses its transport; the client fails to reconnect once and then reconnects,
and only then does the legacy callback return. -/
def lateClose : List Lifetime.Label :=
  [.start true, .start true, .start true, .start true] ++
    ([.proceed, .streamEnd, .proceed, .proceed, .proceed, .proceed, .result false, .proceed,
      .proceed, .proceed, .proceed, .result true, .proceed, .proceed, .result true,
      .result true] : List ReaderLabel).map (fun label => .system (.reader label)) ++
    [.close 0, .close 0]

theorem sessionEpoch_run_lateClose :
    ∃ s, Lts.run (Lifetime.step .new) (.init false true) lateClose = some s ∧
      s.calls = [⟨.transportClose, 1, some ⟨.streamEnd, 1, 1⟩⟩] ∧ s.connects = 2 ∧
      s.system.client.epoch = s.connects ∧ ∀ call ∈ s.calls, call.OfDyingSession .new := by
  have hrun : ∃ s, Lts.run (Lifetime.step .new) (.init false true) lateClose = some s ∧
      s.calls = [⟨.transportClose, 1, some ⟨.streamEnd, 1, 1⟩⟩] ∧ s.connects = 2 :=
    ⟨_, rfl, rfl, rfl⟩
  obtain ⟨s, hs, hcalls, hconnects⟩ := hrun
  exact ⟨s, hs, hcalls, hconnects, sessionEpoch_run .new false true hs⟩

end TfSocketio.Socketio.Async
