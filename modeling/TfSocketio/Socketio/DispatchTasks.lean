/-
# Socketio.DispatchTasks — the dispatch tasks, and the sessions they were spawned in.

`dispatch_tasks` holds the handles by which the tasks of a dead session are aborted; a task whose
handle is not in it cannot be.  Here every dispatch task is kept from its spawn on: the session it
was spawned in, what has become of it, and whether its handle is recorded.  What a step of the
reader or of a teardown does to the tasks is a list of `Effect`s; `dispatch_eq_step` says that then
the entries of `dispatch_tasks` are those of the reader's model.
-/
import TfSocketio.Socketio.Teardown

namespace TfSocketio.Socketio.Async

/-! ## Dispatch tasks -/

/-- Where `abort_dispatch` is called. -/
inductive Abort where
  /-- At a `Disconnect` packet. -/
  | disconnectPacket
  /-- When the engine.io stream ends. -/
  | streamEnd
  /-- When an item is read after a manual disconnect. -/
  | manual
  /-- When the stream is dropped. -/
  | drop
  /-- At the end of a teardown. -/
  | disconnect
  deriving DecidableEq, Repr

inductive Status where
  | running
  | finished
  | aborted (caller : Abort)
  deriving DecidableEq, Repr

structure Job where
  task : Task
  /-- `session_epoch` at the spawn. -/
  epoch : Nat
  status : Status
  /-- The handle is in `dispatch_tasks`. -/
  recorded : Bool
  deriving DecidableEq, Repr

/-- What a step does to the dispatch tasks. -/
inductive Effect where
  | spawn (task : Task)
  | abort (caller : Abort) (includeTerminal : Bool)
  deriving DecidableEq, Repr

/-- `retain` drops the handle of a task that has finished. -/
def Job.prune (job : Job) : Job :=
  if job.status = .finished then { job with recorded := false } else job

/-- `abort_dispatch`, for one task: `drain` takes its handle out of the list, and puts that of a
task that is spared back.  An abort does nothing to a task that has finished. -/
def Job.abort (caller : Abort) (includeTerminal : Bool) (job : Job) : Job :=
  if job.recorded && (includeTerminal || !job.task.terminal) then
    { job with
      status := if job.status = .running then .aborted caller else job.status
      recorded := false }
  else job

/-- `spawn_dispatch` and `abort_dispatch`. -/
def Effect.apply (epoch : Nat) (jobs : List Job) : Effect → List Job
  | .spawn task => jobs.map Job.prune ++ [⟨task, epoch, .running, true⟩]
  | .abort caller includeTerminal => jobs.map (Job.abort caller includeTerminal)

/-- A dispatch task ends by itself. -/
def Job.finish (job : Job) : Job := { job with status := .finished }

/-! ## What a step does to them -/

/-- The spawns and aborts of a step of the reader, in their order. -/
def Client.effects (cfg : Config) (c : Client) (label : ReaderLabel) : List Effect :=
  match c.reader, label with
  | .reading, .streamEnd => [.abort .streamEnd false, .abort .drop false]
  | .reading, .streamPanic => [.abort .drop false]
  | .received packet, .proceed =>
      if c.reason = .manual then [.abort .manual false, .abort .drop false]
      else if packet.nsp = cfg.nsp then
        ((dispatchTask packet.packetType).map Effect.spawn).toList
      else []
  | .receivedError, .proceed =>
      if c.reason = .manual then [.abort .manual false, .abort .drop false] else [.spawn .error]
  | .handling packet, .proceed =>
      if packet.packetType = .disconnect then
        [.abort .disconnectPacket false, .spawn (.close .ioServerDisconnect c.epoch)]
      else [.spawn .connect]
  | .streamEnded, .proceed =>
      if c.reason = .unknown then [.spawn (.close .transportClose c.epoch)] else []
  | _, _ => []

/-- The spawns and aborts of a step. -/
def System.effects (cfg : Config) (s : System) : System.Label → List Effect
  | .reader label => s.client.effects cfg label
  | .cancel => if s.client.reader.holdsStream then [.abort .drop false] else []
  | .advance i _ =>
      match s.teardowns i with
      | .disconnecting _ => if s.client.socket.transport then [] else [.abort .disconnect true]
      | .emittingClose _ => [.abort .disconnect true]
      | _ => []
  | .register => []
  | .disconnect _ => []

/-- A client with all the dispatch tasks it has spawned, in the order of their spawns. -/
structure Dispatching where
  system : System
  jobs : List Job

namespace Dispatching

def init (onReconnect : Bool) : Dispatching where
  system := .init onReconnect
  jobs := []

inductive Label where
  | system (label : System.Label)
  | taskFinished (i : Nat)

/-- The entry of `dispatch_tasks` that belongs to a task. -/
def index (jobs : List Job) (i : Nat) : Nat := (jobs.take i).countP Job.recorded

def step (cfg : Config) (s : Dispatching) : Label → Option Dispatching
  | .system (.reader (.taskFinished _)) => none
  | .system label =>
      (s.system.step cfg label).map fun system =>
        { system
          jobs := (s.system.effects cfg label).foldl
            (Effect.apply s.system.client.epoch) s.jobs }
  | .taskFinished i =>
      match s.jobs[i]? with
      | some job =>
          if job.status = .running then
            (s.system.step cfg (.reader (.taskFinished (index s.jobs i)))).map fun system =>
              { system, jobs := s.jobs.modify i Job.finish }
          else none
      | none => none

end Dispatching

/-! ## The entries of `dispatch_tasks` -/

/-- The entries of the handles that are recorded. -/
def entries (jobs : List Job) : List DispatchTask :=
  (jobs.filter Job.recorded).map fun job => ⟨job.task, job.status = .finished⟩

/-- What an effect does to the entries. -/
def Effect.onEntries (dispatch : List DispatchTask) : Effect → List DispatchTask
  | .spawn task => dispatch.filter (fun t => !t.finished) ++ [⟨task, false⟩]
  | .abort _ includeTerminal =>
      dispatch.filter fun t => !includeTerminal && t.task.terminal

theorem entries_apply (epoch : Nat) (jobs : List Job) (effect : Effect) :
    entries (effect.apply epoch jobs) = effect.onEntries (entries jobs) := by
  cases effect with
  | spawn task =>
      have hprune : entries (jobs.map Job.prune) =
          (entries jobs).filter fun t => !t.finished := by
        induction jobs with
        | nil => rfl
        | cons job jobs ih =>
            simp only [entries] at ih ⊢
            by_cases hf : job.status = .finished <;> cases hr : job.recorded <;>
              simp [Job.prune, hf, hr, ih]
      simp only [Effect.apply, Effect.onEntries]
      rw [← hprune]
      simp [entries]
  | abort caller includeTerminal =>
      simp only [Effect.apply, Effect.onEntries]
      induction jobs with
      | nil => rfl
      | cons job jobs ih =>
          simp only [entries] at ih ⊢
          cases hr : job.recorded <;> cases includeTerminal <;> cases ht : job.task.terminal <;>
            simp [Job.abort, hr, ht, ih]

theorem entries_foldl (epoch : Nat) (jobs : List Job) (effects : List Effect) :
    entries (effects.foldl (Effect.apply epoch) jobs) =
      effects.foldl Effect.onEntries (entries jobs) := by
  induction effects generalizing jobs with
  | nil => rfl
  | cons effect effects ih =>
      rw [List.foldl_cons, List.foldl_cons, ih, entries_apply]

/-- A recorded task that ends marks its own entry. -/
theorem entries_finish {jobs : List Job} {i : Nat} {job : Job} (hi : jobs[i]? = some job)
    (hr : job.recorded = true) : entries (jobs.modify i Job.finish) =
      (entries jobs).modify (Dispatching.index jobs i) fun t => { t with finished := true } := by
  induction jobs generalizing i with
  | nil => simp at hi
  | cons head jobs ih =>
      cases i with
      | zero =>
          obtain rfl : head = job := by simpa using hi
          simp [entries, Job.finish, Dispatching.index, hr]
      | succ i =>
          have htail := ih (by simpa using hi)
          simp only [entries, Dispatching.index] at htail ⊢
          cases hhead : head.recorded <;> simp [hhead, htail]

/-! ## Everything a step can do to the dispatch tasks -/

/-- The tasks that are not terminal are aborted, and none is spawned. -/
def Ends (effects : List Effect) : Prop :=
  (∃ caller, .abort caller false ∈ effects) ∧ ∀ task, .spawn task ∉ effects

/-- What the effects of a step have to do with the step. -/
structure Effective (c c' : Client) (effects : List Effect) : Prop where
  dispatch : c'.dispatch = effects.foldl Effect.onEntries c.dispatch
  spared : ∀ caller, .abort caller true ∈ effects → caller = .disconnect
  /-- Only a reader that holds the stream spawns tasks that are not terminal, and it aborts them
  when it gives the stream up. -/
  stream : c'.reader.holdsStream = true ∨ Ends effects ∨
    c.reader.holdsStream = false ∧ ∀ task, .spawn task ∈ effects → task.terminal = true
  /-- A socket is installed, and a session begins, in a step without effects. -/
  renewal : c'.epoch ≠ c.epoch ∨ c'.history = .installed :: c.history →
    c.reader.holdsStream = false ∧ effects = []

theorem Effective.of_idle {c c' : Client} (hd : c'.dispatch = c.dispatch)
    (hr : c.reader.holdsStream = false) : Effective c c' [] where
  dispatch := hd
  spared := by simp
  stream := .inr (.inr ⟨hr, by simp⟩)
  renewal _ := ⟨hr, rfl⟩

/-- A step in which no session begins. -/
theorem Effective.of_same {c c' : Client} {effects : List Effect}
    (hd : c'.dispatch = effects.foldl Effect.onEntries c.dispatch)
    (hspared : ∀ caller, .abort caller true ∉ effects)
    (hstream : c'.reader.holdsStream = true ∨ Ends effects ∨
      c.reader.holdsStream = false ∧ ∀ task, .spawn task ∈ effects → task.terminal = true)
    (hepoch : c'.epoch = c.epoch) (hhistory : c'.history ≠ .installed :: c.history) :
    Effective c c' effects where
  dispatch := hd
  spared caller h := absurd h (hspared caller)
  stream := hstream
  renewal h := by
    rcases h with h | h
    · exact absurd hepoch h
    · exact absurd h hhistory

theorem cons_ne_self {o : Occurrence} {history : List Occurrence} (ho : o ≠ .installed) :
    o :: history ≠ .installed :: history := by
  intro h
  exact ho (List.cons.inj h).1

/-- Between two streams, the reader leaves the dispatch tasks alone. -/
theorem Transition.dispatch_eq {cfg : Config} {c c' : Client} {label : ReaderLabel}
    (h : Transition cfg c label c') (hl : ∀ index, label ≠ .taskFinished index)
    (hr : c.reader.holdsStream = false) (hended : c.reader ≠ .streamEnded) :
    c'.dispatch = c.dispatch := by
  have hne : ∀ place : Reader, place.holdsStream = true → c.reader ≠ place := by
    intro place hplace hplaced
    rw [hplaced, hplace] at hr
    cases hr
  cases h with
  | openStream _ => rfl
  | readPacket packet _ _ => rfl
  | readError _ _ => rfl
  | closeEngine _ _ _ _ _ => rfl
  | endStream hreading => exact absurd hreading (hne .reading rfl)
  | stopStream hholds _ =>
      rw [hr] at hholds
      cases hholds
  | panicStream hreading _ => exact absurd hreading (hne .reading rfl)
  | dispatch packet hreceived _ => exact absurd hreceived (hne (.received packet) rfl)
  | spawnError hreceived _ => exact absurd hreceived (hne .receivedError rfl)
  | handle packet hhandling => exact absurd hhandling (hne (.handling packet) rfl)
  | afterStream hplace => exact absurd hplace hended
  | nextAttempt attempts _ => exact (c.nextAttempt_same cfg attempts).2
  | callOnReconnect _ _ => rfl
  | reconnecting _ _ _ _ _ _ _ _ => rfl
  | install _ _ => rfl
  | reconnected _ _ => rfl
  | tryAgain _ _ => rfl
  | taskFinished index => exact absurd rfl (hl index)

theorem effective_endStream (c : Client) (caller : Abort) {c' : Client} (h : c.endStream = c') :
    Effective c c' [.abort caller false, .abort .drop false] := by
  have hends : Ends [.abort caller false, .abort .drop false] := ⟨⟨caller, by simp⟩, by simp⟩
  have hhistory : c'.history = c.history := by
    rw [← h]
    rfl
  refine .of_same ?_ (by simp) (.inr (.inl hends)) ?_ ?_
  · rw [← h]
    rfl
  · rw [← h]
    rfl
  · simp [hhistory]

theorem effective_reading {cfg : Config} {c c' : Client} {label : ReaderLabel}
    (h : readerStep cfg c label = some c') (hl : ∀ index, label ≠ .taskFinished index)
    (hr : c.reader = .reading) : Effective c c' (c.effects cfg label) := by
  cases label with
  | proceed => simp [readerStep, Client.proceed, hr] at h
  | packet packet =>
      simp only [Client.effects, hr]
      cases hs : c.socket.streaming <;> simp only [readerStep, hr, hs] at h <;> cases h
      exact .of_same rfl (by simp) (.inl rfl) rfl (cons_ne_self (by simp))
  | error =>
      simp only [Client.effects, hr]
      cases hs : c.socket.streaming <;> simp only [readerStep, hr, hs] at h <;> cases h
      exact .of_same rfl (by simp) (.inl rfl) rfl (by simp [Client.exhaust])
  | streamEnd =>
      simp only [Client.effects, hr]
      simp only [readerStep, hr, Option.some.injEq] at h
      have hended := effective_endStream c.exhaust .streamEnd h
      exact { hended with renewal := hended.renewal }
  | streamPanic =>
      simp only [Client.effects, hr]
      cases hs : c.socket.streaming <;> simp only [readerStep, hr, hs] at h <;> cases h
      have hends : Ends [.abort .drop false] := ⟨⟨.drop, by simp⟩, by simp⟩
      exact .of_same rfl (by simp) (.inr (.inl hends)) rfl (cons_ne_self (by simp))
  | engineClose =>
      simp only [Client.effects, hr]
      cases hs : c.socket.streaming <;> simp only [readerStep, hr, hs] at h <;> cases h
      exact .of_same rfl (by simp) (.inl rfl) rfl (by simp)
  | pingTimeout =>
      simp only [Client.effects, hr]
      cases hs : c.socket.streaming <;> simp only [readerStep, hr, hs] at h <;> cases h
      exact .of_same rfl (by simp) (.inl rfl) rfl (by simp)
  | result ok => simp [readerStep, Client.networkResult, hr] at h
  | taskFinished index => exact absurd rfl (hl index)

/-- Behind a packet or an error that was read. -/
theorem effective_received {cfg : Config} {c c' : Client} (h : c.proceed cfg = some c')
    (hr : (∃ packet, c.reader = .received packet) ∨ c.reader = .receivedError) :
    Effective c c' (c.effects cfg .proceed) := by
  rcases hr with ⟨packet, hr⟩ | hr
  · simp only [Client.proceed, hr] at h
    simp only [Client.effects, hr]
    split at h
    · rename_i hm
      rw [if_pos hm]
      exact effective_endStream c .manual (Option.some.inj h)
    · rename_i hm
      rw [if_neg hm, ← Option.some.inj h, Client.dispatchPacket]
      split
      · cases htask : dispatchTask packet.packetType with
        | some task => exact .of_same rfl (by simp) (.inl rfl) rfl (cons_ne_self (by simp))
        | none => exact .of_same rfl (by simp) (.inl rfl) rfl (by simp)
      · exact .of_same rfl (by simp) (.inl rfl) rfl (by simp)
  · simp only [Client.proceed, hr] at h
    simp only [Client.effects, hr]
    split at h
    · rename_i hm
      rw [if_pos hm]
      exact effective_endStream c .manual (Option.some.inj h)
    · rename_i hm
      rw [if_neg hm, ← Option.some.inj h]
      exact .of_same rfl (by simp) (.inl rfl) rfl (cons_ne_self (by simp))

theorem effective_handling {cfg : Config} {c c' : Client} {packet : Packet}
    (h : c.proceed cfg = some c') (hr : c.reader = .handling packet) :
    Effective c c' (c.effects cfg .proceed) := by
  simp only [Client.proceed, hr, Option.some.injEq] at h
  simp only [Client.effects, hr, ← h, Client.handlePacket]
  split
  · exact .of_same rfl (by simp) (.inl rfl) rfl (cons_ne_self (by simp))
  · exact .of_same rfl (by simp) (.inl rfl) rfl (cons_ne_self (by simp))

theorem effective_streamEnded {cfg : Config} {c c' : Client} (h : c.proceed cfg = some c')
    (hr : c.reader = .streamEnded) : Effective c c' (c.effects cfg .proceed) := by
  simp only [Client.proceed, hr, Option.some.injEq] at h
  have hidle : c.reader.holdsStream = false := by
    rw [hr]
    rfl
  have hhistory := c.afterStream_history cfg
  have hepoch := c.afterStream_epoch cfg
  rw [h] at hhistory hepoch
  simp only [Client.effects, hr]
  split at hhistory
  · rename_i hunknown
    rw [if_pos hunknown]
    refine .of_same ?_ (by simp) (.inr (.inr ⟨hidle, by simp [Task.terminal]⟩)) hepoch ?_
    · simp [← h, Client.afterStream, Client.spawnDispatch, hunknown, Effect.onEntries]
    · rw [hhistory]
      simp
  · rename_i hknown
    rw [if_neg hknown]
    refine .of_idle ?_ hidle
    simp [← h, Client.afterStream, hknown]

/-- With an item read, or the end of the stream, the reader asks nothing of the network. -/
theorem label_of_place {cfg : Config} {c c' : Client} {label : ReaderLabel}
    (h : readerStep cfg c label = some c') (hl : ∀ index, label ≠ .taskFinished index)
    (hreading : c.reader ≠ .reading) (hquiet : c.reader.reconnecting = none) :
    label = .proceed := by
  cases readerStep_cases h with
  | readPacket _ hr _ => exact absurd hr hreading
  | readError hr _ => exact absurd hr hreading
  | closeEngine _ _ _ hr _ => exact absurd hr hreading
  | endStream hr => exact absurd hr hreading
  | panicStream hr _ => exact absurd hr hreading
  | reconnecting _ _ _ _ attempts _ hr _ =>
      rw [hquiet] at hr
      cases hr
  | reconnected attempts hr =>
      rw [hr] at hquiet
      cases hquiet
  | taskFinished index => exact absurd rfl (hl index)
  | _ => rfl

theorem readerStep_effective {cfg : Config} {c c' : Client} {label : ReaderLabel}
    (h : readerStep cfg c label = some c') (hl : ∀ index, label ≠ .taskFinished index) :
    Effective c c' (c.effects cfg label) := by
  have hidle : c.reader.holdsStream = false → c.reader ≠ .streamEnded →
      c.effects cfg label = [] → Effective c c' (c.effects cfg label) := by
    intro hr hended heffects
    rw [heffects]
    exact .of_idle ((readerStep_cases h).dispatch_eq hl hr hended) hr
  cases hr : c.reader with
  | reading => exact effective_reading h hl hr
  | received packet =>
      obtain rfl := label_of_place h hl (by simp [hr]) (by rw [hr]; rfl)
      exact effective_received h (.inl ⟨packet, hr⟩)
  | receivedError =>
      obtain rfl := label_of_place h hl (by simp [hr]) (by rw [hr]; rfl)
      exact effective_received h (.inr hr)
  | handling packet =>
      obtain rfl := label_of_place h hl (by simp [hr]) (by rw [hr]; rfl)
      exact effective_handling h hr
  | streamEnded =>
      obtain rfl := label_of_place h hl (by simp [hr]) (by rw [hr]; rfl)
      exact effective_streamEnded h hr
  | _ => exact hidle (by rw [hr]; rfl) (by simp [hr]) (by simp [Client.effects, hr])

/-- A teardown keeps the place of the reader. -/
theorem Effective.of_kept {c c' : Client} (hd : c'.dispatch = c.dispatch)
    (hr : c'.reader = c.reader) (hepoch : c'.epoch = c.epoch) (hhistory : c'.history = c.history) :
    Effective c c' [] := by
  refine .of_same hd (by simp) ?_ hepoch (by simp [hhistory])
  rw [hr]
  cases c.reader.holdsStream <;> simp

/-- At its end it aborts every task. -/
theorem Effective.of_disconnect {c c' : Client} (hd : c'.dispatch = [])
    (hr : c'.reader = c.reader) (hepoch : c'.epoch = c.epoch) (hhistory : c'.history = c.history) :
    Effective c c' [.abort .disconnect true] := by
  refine ⟨by simp [hd, Effect.onEntries], by simp, ?_, ?_⟩
  · rw [hr]
    cases c.reader.holdsStream <;> simp
  · simp [hepoch, hhistory]

theorem System.Advance.effective {cfg : Config} {s s' : System} {i : Nat} {ok : Bool}
    {place : Teardown} (h : Advance s i ok place s') :
    Effective s.client s'.client (s.effects cfg (.advance i ok)) := by
  cases h with
  | lock hw _ =>
      simp only [System.effects, hw]
      exact .of_kept rfl rfl rfl rfl
  | announce hw =>
      simp only [System.effects, hw]
      exact .of_kept rfl rfl rfl rfl
  | take hw _ =>
      simp only [System.effects, hw]
      exact .of_kept rfl rfl rfl rfl
  | findTaken hw _ =>
      simp only [System.effects, hw]
      exact .of_kept rfl rfl rfl rfl
  | join hw _ =>
      simp only [System.effects, hw]
      exact .of_kept rfl rfl rfl rfl
  | send send hw _ =>
      simp only [System.effects, hw]
      exact .of_kept rfl rfl rfl rfl
  | close send hw =>
      simp only [System.effects, hw]
      exact .of_kept rfl rfl rfl rfl
  | retire send hw ht =>
      simp only [System.effects, hw, ht, if_true]
      exact .of_kept rfl rfl rfl rfl
  | findRetired send hw ht =>
      simp only [System.effects, hw, ht]
      exact .of_disconnect (by simp [finish, System.set, Client.abortDispatch]) rfl rfl rfl
  | emitClose send hw =>
      simp only [System.effects, hw]
      exact .of_disconnect (by simp [finish, System.set, Client.abortDispatch]) rfl rfl rfl

theorem System.step_effective {cfg : Config} {s s' : System} {label : System.Label}
    (h : s.step cfg label = some s') (hl : ∀ index, label ≠ .reader (.taskFinished index)) :
    Effective s.client s'.client (s.effects cfg label) := by
  cases label with
  | reader label =>
      obtain ⟨client, hc, rfl⟩ := Option.map_eq_some_iff.mp h
      exact readerStep_effective hc fun index hindex => hl index (by rw [hindex])
  | register =>
      cases step_cases h with
      | register _ => exact .of_kept rfl rfl rfl rfl
  | disconnect i =>
      cases step_cases h with
      | disconnect _ _ => exact .of_kept rfl rfl rfl rfl
  | cancel =>
      cases step_cases h with
      | cancel _ _ =>
          simp only [System.effects]
          split
          · have hends : Ends [.abort .drop false] := ⟨⟨.drop, by simp⟩, by simp⟩
            exact .of_same rfl (by simp) (.inr (.inl hends)) rfl (by simp [Client.abortDispatch])
          · rename_i hholds
            exact .of_idle rfl (by simpa using hholds)
  | advance i ok =>
      cases step_cases h with
      | advance _ _ place _ hadvance => exact hadvance.effective

/-! ## Sessions -/

/-- **Dispatch tasks do not cross sessions.** -/
structure Dispatching.Separated (s : Dispatching) : Prop where
  /-- A task that is running can be aborted. -/
  recorded : ∀ job ∈ s.jobs, job.status = .running → job.recorded = true
  /-- One that is not terminal belongs to the current session. -/
  current : ∀ job ∈ s.jobs, job.status = .running → job.task.terminal = false →
    job.epoch = s.system.client.epoch
  /-- Between two streams there is none. -/
  quiet : s.system.client.reader.holdsStream = false →
    ∀ job ∈ s.jobs, job.task.terminal = false → job.status ≠ .running
  spared : ∀ job ∈ s.jobs, job.task.terminal = true → ∀ caller, job.status = .aborted caller →
    caller = .disconnect

/-- **Everything an effect does to a task** that was spawned before. -/
structure Effect.Does (effect : Effect) (job job' : Job) : Prop where
  task : job'.task = job.task
  epoch : job'.epoch = job.epoch
  running : job'.status = .running →
    job.status = .running ∧ (job.recorded = true → job'.recorded = true)
  aborted : ∀ caller, job'.status = .aborted caller → job.status = .aborted caller ∨
    ∃ includeTerminal, effect = .abort caller includeTerminal ∧
      (job.task.terminal = true → includeTerminal = true)
  /-- An abort spares no recorded task but the terminal ones. -/
  spares : ∀ caller includeTerminal, effect = .abort caller includeTerminal →
    job.recorded = true → job'.status = .running → job.task.terminal = true

theorem Job.prune_does (task : Task) (job : Job) : (Effect.spawn task).Does job job.prune := by
  unfold Job.prune
  split
  · rename_i hfinished
    exact ⟨rfl, rfl, by simp [hfinished], by simp [hfinished], by simp⟩
  · exact ⟨rfl, rfl, fun h => ⟨h, id⟩, fun caller h => .inl h, by simp⟩

theorem Job.abort_does (caller : Abort) (includeTerminal : Bool) (job : Job) :
    (Effect.abort caller includeTerminal).Does job (job.abort caller includeTerminal) := by
  unfold Job.abort
  split
  · rename_i htaken
    refine ⟨rfl, rfl, ?_, ?_, ?_⟩
    · intro hrunning
      dsimp only at hrunning
      split at hrunning
      · cases hrunning
      · rename_i hdone
        exact absurd hrunning hdone
    · intro caller' haborted
      dsimp only at haborted
      split at haborted
      · cases haborted
        refine .inr ⟨includeTerminal, rfl, fun hterminal => ?_⟩
        simpa [hterminal] using (Bool.and_eq_true_iff.mp htaken).2
      · exact .inl haborted
    · intro _ _ _ _ hrunning
      dsimp only at hrunning
      split at hrunning
      · cases hrunning
      · rename_i hdone
        exact absurd hrunning hdone
  · rename_i hspared
    refine ⟨rfl, rfl, fun h => ⟨h, id⟩, fun caller h => .inl h, ?_⟩
    intro _ _ _ hrecorded _
    by_contra hterminal
    simp [hrecorded, hterminal] at hspared

/-- What every task has that is spawned, and every effect keeps, every task has after a step. -/
theorem forall_foldl {P : Job → Prop} {epoch : Nat} {effects : List Effect} {jobs : List Job}
    (hspawn : ∀ task, .spawn task ∈ effects → P ⟨task, epoch, .running, true⟩)
    (hkeep : ∀ effect ∈ effects, ∀ job job', effect.Does job job' → P job → P job')
    (h : ∀ job ∈ jobs, P job) : ∀ job ∈ effects.foldl (Effect.apply epoch) jobs, P job := by
  induction effects generalizing jobs with
  | nil => exact h
  | cons effect effects ih =>
      apply ih
      · exact fun task htask => hspawn task (List.mem_cons_of_mem _ htask)
      · exact fun later hlater => hkeep later (List.mem_cons_of_mem _ hlater)
      · intro job hjob
        have hfirst := hkeep effect List.mem_cons_self
        cases effect with
        | spawn task =>
            rcases List.mem_append.mp hjob with hold | hnew
            · obtain ⟨before, hbefore, rfl⟩ := List.mem_map.mp hold
              exact hfirst before _ (before.prune_does task) (h before hbefore)
            · obtain rfl := List.mem_singleton.mp hnew
              exact hspawn task List.mem_cons_self
        | abort caller includeTerminal =>
            obtain ⟨before, hbefore, rfl⟩ := List.mem_map.mp hjob
            exact hfirst before _ (before.abort_does caller includeTerminal) (h before hbefore)

/-- A running task has its handle in `dispatch_tasks`. -/
def Job.Held (job : Job) : Prop := job.status = .running → job.recorded = true

/-- A task that is running is terminal. -/
def Job.Quiet (job : Job) : Prop := job.task.terminal = false → job.status ≠ .running

theorem Effect.Does.held {effect : Effect} {job job' : Job} (h : effect.Does job job')
    (hheld : job.Held) : job'.Held := by
  intro hrunning
  obtain ⟨hbefore, hrecorded⟩ := h.running hrunning
  exact hrecorded (hheld hbefore)

theorem Effect.Does.quiet {effect : Effect} {job job' : Job} (h : effect.Does job job')
    (hquiet : job.Quiet) : job'.Quiet := by
  intro hterminal hrunning
  rw [h.task] at hterminal
  exact hquiet hterminal (h.running hrunning).1

/-- After the aborts at the end of a stream no task is running that is not terminal. -/
theorem quiet_of_ends {epoch : Nat} {effects : List Effect} {jobs : List Job} (hends : Ends effects)
    (hheld : ∀ job ∈ jobs, job.Held) :
    ∀ job ∈ effects.foldl (Effect.apply epoch) jobs, job.Quiet := by
  obtain ⟨⟨caller, hmem⟩, hspawn⟩ := hends
  obtain ⟨before, after, rfl⟩ := List.append_of_mem hmem
  rw [List.foldl_append, List.foldl_cons]
  have hbefore : ∀ job ∈ before.foldl (Effect.apply epoch) jobs, job.Held := by
    apply forall_foldl
    · exact fun task htask => absurd (List.mem_append_left _ htask) (hspawn task)
    · exact fun effect _ job job' hdoes => hdoes.held
    · exact hheld
  apply forall_foldl
  · intro task htask
    exact absurd (List.mem_append_right _ (List.mem_cons_of_mem _ htask)) (hspawn task)
  · exact fun effect _ job job' hdoes => hdoes.quiet
  · intro job' hjob'
    obtain ⟨job, hjob, rfl⟩ := List.mem_map.mp hjob'
    have hdoes := job.abort_does caller false
    intro hterminal hrunning
    rw [hdoes.task] at hterminal
    have hheld' := hbefore job hjob (hdoes.running hrunning).1
    have hspared := hdoes.spares caller false rfl hheld' hrunning
    rw [hterminal] at hspared
    cases hspared

namespace Dispatching

theorem separated_init (onReconnect : Bool) : (init onReconnect).Separated where
  recorded := by simp [init]
  current := by simp [init]
  quiet := by simp [init]
  spared := by simp [init]

/-- A step that is not the end of a task. -/
theorem Separated.effects {s : Dispatching} (hs : s.Separated) {system : System}
    {effects : List Effect} (h : Effective s.system.client system.client effects) :
    Separated ⟨system, effects.foldl (Effect.apply s.system.client.epoch) s.jobs⟩ where
  recorded := by
    apply forall_foldl
    · exact fun task _ _ => rfl
    · exact fun effect _ job job' hdoes => hdoes.held
    · exact hs.recorded
  current := by
    show ∀ job ∈ effects.foldl (Effect.apply s.system.client.epoch) s.jobs,
      job.status = .running → job.task.terminal = false → job.epoch = system.client.epoch
    by_cases hepoch : system.client.epoch = s.system.client.epoch
    · rw [hepoch]
      apply forall_foldl
      · exact fun task _ _ _ => rfl
      · intro effect _ job job' hdoes hcurrent hrunning hterminal
        rw [hdoes.epoch]
        exact hcurrent (hdoes.running hrunning).1 (by rw [← hdoes.task, hterminal])
      · exact hs.current
    · -- a session begins between two streams
      obtain ⟨hidle, rfl⟩ := h.renewal (.inl hepoch)
      intro job hjob hrunning hterminal
      exact absurd hrunning (hs.quiet hidle job hjob hterminal)
  quiet hidle := by
    rcases h.stream with hholds | hends | ⟨hbefore, hspawn⟩
    · rw [hidle] at hholds
      cases hholds
    · exact quiet_of_ends hends hs.recorded
    · apply forall_foldl
      · intro task htask hterminal
        rw [hspawn task htask] at hterminal
        cases hterminal
      · exact fun effect _ job job' hdoes => hdoes.quiet
      · exact hs.quiet hbefore
  spared := by
    apply forall_foldl
    · intro task _ _ caller haborted
      cases haborted
    · intro effect heffect job job' hdoes hspared hterminal caller haborted
      rw [hdoes.task] at hterminal
      rcases hdoes.aborted caller haborted with hbefore | ⟨includeTerminal, rfl, hincluded⟩
      · exact hspared hterminal caller hbefore
      · obtain rfl := hincluded hterminal
        exact h.spared caller heffect
    · exact hs.spared

theorem Separated.finish {s : Dispatching} (hs : s.Separated) {i : Nat} {system : System}
    (hepoch : system.client.epoch = s.system.client.epoch)
    (hreader : system.client.reader = s.system.client.reader) :
    Separated ⟨system, s.jobs.modify i Job.finish⟩ := by
  have hmem : ∀ job' ∈ s.jobs.modify i Job.finish, job' ∈ s.jobs ∨ job'.status = .finished := by
    intro job' hjob'
    obtain ⟨j, hj⟩ := List.mem_iff_getElem?.mp hjob'
    rw [List.getElem?_modify] at hj
    obtain ⟨job, hjob, rfl⟩ := Option.map_eq_some_iff.mp hj
    split
    · exact .inr rfl
    · exact .inl (List.mem_of_getElem? hjob)
  refine ⟨?_, ?_, ?_, ?_⟩
  · intro job' hjob' hrunning
    rcases hmem job' hjob' with hold | hdone
    · exact hs.recorded job' hold hrunning
    · rw [hdone] at hrunning
      cases hrunning
  · intro job' hjob' hrunning hterminal
    rcases hmem job' hjob' with hold | hdone
    · show job'.epoch = system.client.epoch
      rw [hepoch]
      exact hs.current job' hold hrunning hterminal
    · rw [hdone] at hrunning
      cases hrunning
  · intro hidle job' hjob' hterminal hrunning
    rcases hmem job' hjob' with hold | hdone
    · exact hs.quiet (by rw [← hreader]; exact hidle) job' hold hterminal hrunning
    · rw [hdone] at hrunning
      cases hrunning
  · intro job' hjob' hterminal caller haborted
    rcases hmem job' hjob' with hold | hdone
    · exact hs.spared job' hold hterminal caller haborted
    · rw [hdone] at haborted
      cases haborted

/-- **Everything a step can do.** -/
inductive Transition (cfg : Config) (s : Dispatching) : Label → Dispatching → Prop
  | system (label : System.Label) (system : System)
      (hl : ∀ index, label ≠ .reader (.taskFinished index))
      (h : s.system.step cfg label = some system) :
      Transition cfg s (.system label) ⟨system,
        (s.system.effects cfg label).foldl (Effect.apply s.system.client.epoch) s.jobs⟩
  | taskFinished (i : Nat) (job : Job) (hjob : s.jobs[i]? = some job)
      (hrunning : job.status = .running) :
      Transition cfg s (.taskFinished i) ⟨{ s.system with client := { s.system.client with
        dispatch := s.system.client.dispatch.modify (index s.jobs i)
          fun t => { t with finished := true } } }, s.jobs.modify i Job.finish⟩

theorem step_cases {cfg : Config} {s s' : Dispatching} {label : Label}
    (h : step cfg s label = some s') : Transition cfg s label s' := by
  unfold step at h
  split at h
  · simp at h
  · rename_i label hl
    obtain ⟨system, hsystem, rfl⟩ := Option.map_eq_some_iff.mp h
    exact .system label system (fun index hindex => hl index (by rw [hindex])) hsystem
  · rename_i i
    split at h
    · rename_i job hjob
      split at h
      · rename_i hrunning
        cases h
        exact .taskFinished i job hjob hrunning
      · simp at h
    · simp at h

theorem Separated.step {cfg : Config} {s s' : Dispatching} {label : Label} (hs : s.Separated)
    (h : s.step cfg label = some s') : s'.Separated := by
  cases step_cases h with
  | system label system hl hsystem => exact hs.effects (System.step_effective hsystem hl)
  | taskFinished i job hjob hrunning => exact hs.finish rfl rfl

/-- **The handles are those of the reader's model.** -/
theorem dispatch_eq_step {cfg : Config} {s s' : Dispatching} {label : Label} (hs : s.Separated)
    (hdispatch : s.system.client.dispatch = entries s.jobs) (h : s.step cfg label = some s') :
    s'.system.client.dispatch = entries s'.jobs := by
  cases step_cases h with
  | system label system hl hsystem =>
      rw [(System.step_effective hsystem hl).dispatch, entries_foldl, hdispatch]
  | taskFinished i job hjob hrunning =>
      show s.system.client.dispatch.modify (index s.jobs i) _ = _
      rw [entries_finish hjob (hs.recorded job (List.mem_of_getElem? hjob) hrunning), hdispatch]

/-- The step is one of `reconnect` that installs a new socket or increments `session_epoch`. -/
def Renews (s s' : Dispatching) : Prop :=
  s'.system.client.epoch ≠ s.system.client.epoch ∨
    s'.system.client.history = .installed :: s.system.client.history

theorem Separated.renews {cfg : Config} {s s' : Dispatching} {label : Label} (hs : s.Separated)
    (h : s.step cfg label = some s') (hrenews : s.Renews s') : ∀ job ∈ s.jobs, job.Quiet := by
  cases step_cases h with
  | system label system hl hsystem =>
      exact hs.quiet ((System.step_effective hsystem hl).renewal hrenews).1
  | taskFinished i job hjob hrunning =>
      rcases hrenews with hepoch | hhistory
      · exact absurd rfl hepoch
      · simp at hhistory

/-- **Dispatch tasks do not cross sessions.**  In every state of every run, a task that is neither
finished nor aborted has its handle in `dispatch_tasks`, and one that is terminal is aborted by an
explicit disconnect only; and when a socket is installed or a session begins, every task spawned so
far that is not terminal has finished or was aborted. -/
theorem sessions_apart {cfg : Config} {onReconnect : Bool} {labels : List Label} {s : Dispatching}
    (h : Lts.run (step cfg) (init onReconnect) labels = some s) :
    s.Separated ∧ s.system.client.dispatch = entries s.jobs ∧
      ∀ label s', s.step cfg label = some s' → s.Renews s' →
        ∀ job ∈ s.jobs, job.task.terminal = false →
          job.status = .finished ∨ ∃ caller, job.status = .aborted caller := by
  have hinv : s.Separated ∧ s.system.client.dispatch = entries s.jobs := by
    apply Lts.invariant (P := fun t : Dispatching =>
      t.Separated ∧ t.system.client.dispatch = entries t.jobs) ?_ ?_ h
    · rintro t label t' ⟨ht, hdispatch⟩ hstep
      exact ⟨ht.step hstep, dispatch_eq_step ht hdispatch hstep⟩
    · exact ⟨separated_init onReconnect, rfl⟩
  refine ⟨hinv.1, hinv.2, ?_⟩
  intro label s' hstep hrenews job hjob hterminal
  have hquiet := hinv.1.renews hstep hrenews job hjob hterminal
  cases hstatus : job.status with
  | running => exact absurd hstatus hquiet
  | finished => exact .inl rfl
  | aborted caller => exact .inr ⟨caller, rfl⟩

/-- An event is read, and then the end of the stream; the reader is about to install a socket. -/
def renewal : List Label :=
  [.system (.reader .proceed),
    .system (.reader (.packet ⟨.event, ['/'], some "[\"a\",1]".toList, none, 0, none⟩)),
    .system (.reader .proceed), .system (.reader .streamEnd), .system (.reader .proceed),
    .system (.reader .proceed), .system (.reader .proceed), .system (.reader .proceed),
    .system (.reader (.result true))]

theorem sessions_apart_renewal :
    ∃ s s', Lts.run (step Config.new) (init false) renewal = some s ∧ s.Separated ∧
      s.step Config.new (.system (.reader .proceed)) = some s' ∧ s.Renews s' ∧
      s.jobs = [⟨.event, 1, .aborted .streamEnd, false⟩,
        ⟨.close .transportClose 1, 1, .running, true⟩] :=
  ⟨_, _, rfl, (@sessions_apart Config.new false renewal _ rfl).1, rfl, .inr rfl, rfl⟩

end Dispatching

end TfSocketio.Socketio.Async
