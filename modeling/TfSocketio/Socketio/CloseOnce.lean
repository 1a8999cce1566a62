/-
# Socketio.CloseOnce — one Close for each session of the asynchronous client.

A session's Close is spawned in two places: by the handler of a Disconnect packet, and after the
end of the stream if `disconnect_reason` is `Unknown`.  The flag is reset by a Connect packet only,
so it may still speak of an earlier session, and after a failed round of attempts the reader comes
back to the end of the same stream.

`ClosedOnce` is what each session that has ended should satisfy, `Orderly` what a step must meet to
keep it, and `closedOnce_iff_orderly` says that a run of the reader keeps one exactly as long as its
steps meet the other.
-/
import TfSocketio.Socketio.Reader

namespace TfSocketio.Socketio.Async

open Text (Str)

/-! ## What the history says about a session -/

/-- The packet disconnects the client's namespace. -/
def disconnects (nsp : Str) (packet : Packet) : Bool :=
  packet.packetType = .disconnect && packet.nsp = nsp

/-- The reason of a Close spawned for a session. -/
def Occurrence.closeOf (epoch : Nat) : Occurrence → Option CloseReason
  | .spawned (.close reason e) => if e = epoch then some reason else none
  | _ => none

/-- A Disconnect packet read in a session. -/
def Occurrence.isDisconnect (nsp : Str) (epoch : Nat) : Occurrence → Bool
  | .received e packet => e = epoch && disconnects nsp packet
  | _ => false

def Occurrence.isEnd (epoch : Nat) : Occurrence → Bool
  | .sessionEnded e => e = epoch
  | _ => false

/-- Something that says nothing about the end of a session. -/
def Occurrence.silent : Occurrence → Bool
  | .received _ _ => false
  | .spawned (.close _ _) => false
  | .sessionEnded _ => false
  | _ => true

/-- The Closes spawned for a session, latest first. -/
def closesOf (epoch : Nat) (history : List Occurrence) : List CloseReason :=
  history.filterMap (Occurrence.closeOf epoch)

/-- How many Disconnect packets for the namespace were read in a session. -/
def disconnectsOf (nsp : Str) (epoch : Nat) (history : List Occurrence) : Nat :=
  history.countP (Occurrence.isDisconnect nsp epoch)

/-- The packet stream of a session has ended. -/
def endedIn (epoch : Nat) (history : List Occurrence) : Bool :=
  history.any (Occurrence.isEnd epoch)

/-- The reason a session's Close should have. -/
def trueReason (nsp : Str) (epoch : Nat) (history : List Occurrence) : CloseReason :=
  if 0 < disconnectsOf nsp epoch history then .ioServerDisconnect else .transportClose

/-- **One Close, with the true reason, for each session that has ended.** -/
def ClosedOnce (cfg : Config) (s : Client) : Prop :=
  ∀ n, endedIn n s.history = true → closesOf n s.history = [trueReason cfg.nsp n s.history]

/-! ### How they grow -/

@[simp] theorem closesOf_received (n e : Nat) (packet : Packet) (history : List Occurrence) :
    closesOf n (.received e packet :: history) = closesOf n history := rfl

@[simp] theorem closesOf_sessionEnded (n e : Nat) (history : List Occurrence) :
    closesOf n (.sessionEnded e :: history) = closesOf n history := rfl

theorem closesOf_close (n e : Nat) (reason : CloseReason) (history : List Occurrence) :
    closesOf n (.spawned (.close reason e) :: history) =
      if e = n then reason :: closesOf n history else closesOf n history := by
  unfold closesOf
  rw [List.filterMap_cons]
  by_cases h : e = n <;> simp [Occurrence.closeOf, h]

theorem disconnectsOf_received (nsp : Str) (n e : Nat) (packet : Packet)
    (history : List Occurrence) :
    disconnectsOf nsp n (.received e packet :: history) =
      disconnectsOf nsp n history + if e = n ∧ disconnects nsp packet = true then 1 else 0 := by
  unfold disconnectsOf
  rw [List.countP_cons]
  simp [Occurrence.isDisconnect]

@[simp] theorem disconnectsOf_spawned (nsp : Str) (n : Nat) (task : Task)
    (history : List Occurrence) :
    disconnectsOf nsp n (.spawned task :: history) = disconnectsOf nsp n history := rfl

@[simp] theorem disconnectsOf_sessionEnded (nsp : Str) (n e : Nat) (history : List Occurrence) :
    disconnectsOf nsp n (.sessionEnded e :: history) = disconnectsOf nsp n history := rfl

@[simp] theorem endedIn_received (n e : Nat) (packet : Packet) (history : List Occurrence) :
    endedIn n (.received e packet :: history) = endedIn n history := rfl

@[simp] theorem endedIn_spawned (n : Nat) (task : Task) (history : List Occurrence) :
    endedIn n (.spawned task :: history) = endedIn n history := rfl

@[simp] theorem endedIn_sessionEnded (n e : Nat) (history : List Occurrence) :
    endedIn n (.sessionEnded e :: history) = (decide (e = n) || endedIn n history) := rfl

theorem Occurrence.closeOf_of_silent {o : Occurrence} (h : o.silent = true) (n : Nat) :
    o.closeOf n = none := by
  cases o with
  | spawned task => cases task <;> simp_all [Occurrence.silent, Occurrence.closeOf]
  | _ => rfl

theorem Occurrence.isDisconnect_of_silent {o : Occurrence} (h : o.silent = true) (nsp : Str)
    (n : Nat) : o.isDisconnect nsp n = false := by
  cases o <;> simp_all [Occurrence.silent, Occurrence.isDisconnect]

theorem Occurrence.isEnd_of_silent {o : Occurrence} (h : o.silent = true) (n : Nat) :
    o.isEnd n = false := by
  cases o <;> simp_all [Occurrence.silent, Occurrence.isEnd]

theorem closesOf_silent {new : List Occurrence} (h : ∀ o ∈ new, o.silent = true) (n : Nat)
    (history : List Occurrence) : closesOf n (new ++ history) = closesOf n history := by
  have hnew : new.filterMap (Occurrence.closeOf n) = [] :=
    List.filterMap_eq_nil_iff.mpr fun o ho => Occurrence.closeOf_of_silent (h o ho) n
  simp [closesOf, hnew]

theorem disconnectsOf_silent {new : List Occurrence} (h : ∀ o ∈ new, o.silent = true) (nsp : Str)
    (n : Nat) (history : List Occurrence) :
    disconnectsOf nsp n (new ++ history) = disconnectsOf nsp n history := by
  have hnew : new.countP (Occurrence.isDisconnect nsp n) = 0 :=
    List.countP_eq_zero.mpr fun o ho => by
      simp [Occurrence.isDisconnect_of_silent (h o ho) nsp n]
  simp [disconnectsOf, hnew]

theorem endedIn_silent {new : List Occurrence} (h : ∀ o ∈ new, o.silent = true) (n : Nat)
    (history : List Occurrence) : endedIn n (new ++ history) = endedIn n history := by
  have hnew : new.any (Occurrence.isEnd n) = false :=
    List.any_eq_false.mpr fun o ho => by simp [Occurrence.isEnd_of_silent (h o ho) n]
  simp [endedIn, hnew]

/-! ## The steps that matter to a session -/

/-- What keeps one Close for each session: what a step reads, and the state before it. -/
structure Orderly (cfg : Config) (s : Client) (label : ReaderLabel) : Prop where
  /-- No first Disconnect packet is read after the session's end. -/
  read : ∀ packet, label = .packet packet → disconnects cfg.nsp packet = true →
    endedIn s.epoch s.history = true → 0 < disconnectsOf cfg.nsp s.epoch s.history
  /-- No Disconnect packet is handled after the session's end. -/
  handle : label = .proceed → ∀ packet, s.reader = .handling packet →
    packet.packetType = .disconnect → endedIn s.epoch s.history = false
  /-- At the first end of the stream, `disconnect_reason` is right about this session, in which at
  most one Disconnect packet was read; later ones do not find it reset. -/
  streamEnd : label = .proceed → s.reader = .streamEnded →
    if endedIn s.epoch s.history then s.reason ≠ .unknown
    else if s.reason = .unknown then disconnectsOf cfg.nsp s.epoch s.history = 0
    else disconnectsOf cfg.nsp s.epoch s.history = 1
  /-- The reader dies only in a session that was closed by the server. -/
  panic : label = .streamPanic → endedIn s.epoch s.history = false →
    disconnectsOf cfg.nsp s.epoch s.history = 1

theorem Orderly.of_proceed {cfg : Config} {s : Client} (he : s.reader ≠ .streamEnded)
    (hh : ∀ packet, s.reader = .handling packet → packet.packetType ≠ .disconnect) :
    Orderly cfg s .proceed where
  read _ h := by simp at h
  handle _ packet hr hd := absurd hd (hh packet hr)
  streamEnd _ hr := absurd hr he
  panic h := by simp at h

/-- The labels that nothing is asked of. -/
def ReaderLabel.harmless : ReaderLabel → Bool
  | .proceed => false
  | .packet _ => false
  | .streamPanic => false
  | _ => true

theorem Orderly.of_harmless {cfg : Config} {s : Client} {label : ReaderLabel}
    (h : label.harmless = true) : Orderly cfg s label where
  read packet hlabel := by
    subst hlabel
    cases h
  handle hlabel := by
    subst hlabel
    cases h
  streamEnd hlabel := by
    subst hlabel
    cases h
  panic hlabel := by
    subst hlabel
    cases h

/-- Disconnect packets that were read and are not handled yet. -/
def pending (nsp : Str) : Reader → Nat
  | .received packet => if disconnects nsp packet then 1 else 0
  | .handling packet => if disconnects nsp packet then 1 else 0
  | _ => 0

/-- A step that reads nothing, ends no session and spawns no Close. -/
structure Quiet (cfg : Config) (s s' : Client) : Prop where
  epoch : s'.epoch = s.epoch
  reason : s.reason ≠ .manual → s'.reason ≠ .manual
  pending : pending cfg.nsp s'.reader = pending cfg.nsp s.reader
  handling : ∀ packet, s'.reader = .handling packet →
    s.reader = .handling packet ∨ packet.nsp = cfg.nsp
  history : ∃ new, s'.history = new ++ s.history ∧ ∀ o ∈ new, o.silent = true

/-- A step between two places at which no packet is waiting. -/
theorem Quiet.of_idle {cfg : Config} {s s' : Client} (new : List Occurrence)
    (hepoch : s'.epoch = s.epoch) (hreason : s.reason ≠ .manual → s'.reason ≠ .manual)
    (hr : Async.pending cfg.nsp s.reader = 0) (hr' : Async.pending cfg.nsp s'.reader = 0)
    (hh : ∀ packet, s'.reader ≠ .handling packet) (hnew : s'.history = new ++ s.history)
    (hsilent : ∀ o ∈ new, o.silent = true) : Quiet cfg s s' where
  epoch := hepoch
  reason := hreason
  pending := by rw [hr, hr']
  handling packet h := absurd h (hh packet)
  history := ⟨new, hnew, hsilent⟩

theorem pending_of_reconnecting {nsp : Str} {r : Reader} {attempts : UInt8}
    (h : r.reconnecting = some attempts) : pending nsp r = 0 := by
  cases r <;> simp_all [Reader.reconnecting, pending]

theorem Reader.ne_handling_of_reconnecting {r : Reader} {attempts : UInt8}
    (h : r.reconnecting = some attempts) (packet : Packet) : r ≠ .handling packet := by
  rintro rfl
  simp [Reader.reconnecting] at h

theorem dispatchPacket_quiet (cfg : Config) {s : Client} {packet : Packet}
    (hr : s.reader = .received packet) : Quiet cfg s (s.dispatchPacket cfg packet) := by
  unfold Client.dispatchPacket
  split
  · rename_i hnsp
    split
    · rename_i task htask
      have hd : disconnects cfg.nsp packet = false := by
        cases hp : packet.packetType <;> simp_all [dispatchTask, disconnects]
      refine .of_idle [.spawned task] rfl id (by rw [hr]; simp [pending, hd]) rfl (by simp)
        rfl ?_
      cases hp : packet.packetType <;> simp_all [dispatchTask, Occurrence.silent] <;>
        subst htask <;> rfl
    · exact {
        epoch := rfl
        reason := id
        pending := by rw [hr]; rfl
        handling := fun p hp => by
          obtain rfl : packet = p := by simpa using hp
          exact .inr hnsp
        history := ⟨[], rfl, by simp⟩ }
  · rename_i hnsp
    have hd : disconnects cfg.nsp packet = false := by simp [disconnects, hnsp]
    exact .of_idle [] rfl id (by rw [hr]; simp [pending, hd]) rfl (by simp) rfl (by simp)

theorem nextAttempt_quiet (cfg : Config) {s : Client} {attempts : UInt8}
    (hr : s.reader = .attempt attempts) : Quiet cfg s (s.nextAttempt cfg attempts) := by
  have hidle : pending cfg.nsp s.reader = 0 := by rw [hr]; rfl
  unfold Client.nextAttempt
  split
  · exact .of_idle [.calledReconnect] rfl id hidle rfl (by simp) rfl
      (by simp [Occurrence.silent])
  · dsimp only
    by_cases hover : attempts = 255
    · -- the build panics on the overflow, or the counter starts again at zero
      simp only [hover, if_true, true_and]
      split
      · exact .of_idle [.overflowed] rfl id hidle rfl (by simp) rfl
          (by simp [Occurrence.silent])
      · split
        · exact .of_idle [.gaveUp, .overflowed] rfl id hidle rfl (by simp) rfl
            (by simp [Occurrence.silent])
        · exact .of_idle [.calledReconnect, .overflowed] rfl id hidle rfl (by simp) rfl
            (by simp [Occurrence.silent])
    · simp only [hover, if_false, false_and]
      split
      · exact .of_idle [.gaveUp] rfl id hidle rfl (by simp) rfl
          (by simp [Occurrence.silent])
      · exact .of_idle [.calledReconnect] rfl id hidle rfl (by simp) rfl
          (by simp [Occurrence.silent])

/-- A step of a client that nobody disconnects, seen from its sessions. -/
inductive SessionStep (cfg : Config) (s : Client) : ReaderLabel → Client → Prop
  | quiet (label : ReaderLabel) (s' : Client) (hq : Quiet cfg s s') (ho : Orderly cfg s label) :
      SessionStep cfg s label s'
  | read (packet : Packet) (hr : s.reader = .reading) :
      SessionStep cfg s (.packet packet) { s with
        socket := { s.socket with connected := handleSocketioPacket s.socket.connected packet }
        reader := .received packet
        history := .received s.epoch packet :: s.history }
  | handle (packet : Packet) (hr : s.reader = .handling packet)
      (hd : packet.packetType = .disconnect) : SessionStep cfg s .proceed (s.handlePacket packet)
  | panicStream (hr : s.reader = .reading) :
      SessionStep cfg s .streamPanic { s.exhaust.abortDispatch false with
        reader := .panicked, history := .sessionEnded s.epoch :: s.history }
  | afterStream (hr : s.reader = .streamEnded) : SessionStep cfg s .proceed (s.afterStream cfg)
  | reconnected (attempts : UInt8) (hr : s.reader = .sendConnect attempts) :
      SessionStep cfg s (.result true) { s with
        epoch := s.epoch + 1
        reader := .asStream
        history := .connected (s.epoch + 1) :: s.history }

theorem Transition.session {cfg : Config} {s s' : Client} {label : ReaderLabel}
    (h : Transition cfg s label s') (hm : s.reason ≠ .manual) : SessionStep cfg s label s' := by
  have hidle : ∀ r : Reader, pending cfg.nsp r = 0 → s.reader = r → pending cfg.nsp s.reader = 0 :=
    fun r h0 hr => by rw [hr, h0]
  cases h with
  | openStream hr =>
      exact .quiet _ _ (.of_idle [] rfl id (hidle _ rfl hr) rfl (by simp) rfl (by simp))
        (.of_proceed (by simp [hr]) (by simp [hr]))
  | readPacket packet hr hs => exact .read packet hr
  | readError hr hs =>
      exact .quiet _ _ (.of_idle [] rfl id (hidle _ rfl hr) rfl (by simp) rfl (by simp))
        (.of_harmless rfl)
  | closeEngine label keepTransport hl hr hs =>
      refine .quiet _ _ (.of_idle [] rfl id (hidle _ rfl hr) (hidle _ rfl hr) (by simp [hr]) rfl
        (by simp)) ?_
      rcases hl with rfl | rfl
      · exact .of_harmless rfl
      · exact .of_harmless rfl
  | endStream hr =>
      exact .quiet _ _ (.of_idle [] rfl id (hidle _ rfl hr) rfl (by simp [Client.endStream]) rfl
        (by simp)) (.of_harmless rfl)
  | stopStream hr hmanual => exact absurd hmanual hm
  | panicStream hr hs => exact .panicStream hr
  | dispatch packet hr _ =>
      exact .quiet _ _ (dispatchPacket_quiet cfg hr) (.of_proceed (by simp [hr]) (by simp [hr]))
  | spawnError hr _ =>
      exact .quiet _ _ (.of_idle [.spawned .error] rfl id (hidle _ rfl hr) rfl (by simp) rfl
        (by simp [Occurrence.silent])) (.of_proceed (by simp [hr]) (by simp [hr]))
  | handle packet hr =>
      by_cases hd : packet.packetType = .disconnect
      · exact .handle packet hr hd
      · -- a Connect packet resets `disconnect_reason` and spawns its own callback
        have hnot : disconnects cfg.nsp packet = false := by simp [disconnects, hd]
        refine .quiet _ _ (.of_idle [.spawned .connect] (by simp) (by simp [hd])
          (by rw [hr]; simp [pending, hnot]) (by simp [pending]) (by simp) (by simp [hd])
          (by simp [Occurrence.silent])) (.of_proceed (by simp [hr]) (by simp [hr, hd]))
  | afterStream hr => exact .afterStream hr
  | nextAttempt attempts hr =>
      exact .quiet _ _ (nextAttempt_quiet cfg hr) (.of_proceed (by simp [hr]) (by simp [hr]))
  | callOnReconnect attempts hr =>
      exact .quiet _ _ (.of_idle [.calledOnReconnect] rfl id (hidle _ rfl hr) rfl (by simp) rfl
        (by simp [Occurrence.silent])) (.of_proceed (by simp [hr]) (by simp [hr]))
  | reconnecting label next onReconnect socket attempts hl hr hn =>
      refine .quiet _ _ (.of_idle [] rfl id (pending_of_reconnecting hr)
        (pending_of_reconnecting hn) (Reader.ne_handling_of_reconnecting hn) rfl (by simp)) ?_
      rcases hl with rfl | ⟨ok, rfl⟩
      · refine .of_proceed (fun he => by simp [he, Reader.reconnecting] at hr) fun packet hp => ?_
        exact absurd hp (Reader.ne_handling_of_reconnecting hr packet)
      · exact .of_harmless rfl
  | install attempts hr =>
      exact .quiet _ _ (.of_idle [.installed] rfl id (hidle _ rfl hr) rfl (by simp) rfl
        (by simp [Occurrence.silent])) (.of_proceed (by simp [hr]) (by simp [hr]))
  | reconnected attempts hr => exact .reconnected attempts hr
  | tryAgain attempts hr =>
      exact .quiet _ _ (.of_idle [] rfl id (hidle _ rfl hr) rfl (by simp) rfl (by simp))
        (.of_proceed (by simp [hr]) (by simp [hr]))
  | taskFinished index =>
      exact .quiet _ _ ⟨rfl, id, rfl, fun _ hp => .inl hp, [], rfl, by simp⟩
        (.of_harmless rfl)

/-! ## What every run keeps -/

/-- How the Closes, the flag and the packets read so far hang together. -/
structure Sessions (cfg : Config) (s : Client) : Prop where
  notManual : s.reason ≠ .manual
  handling : ∀ packet, s.reader = .handling packet → packet.nsp = cfg.nsp
  /-- Nothing has happened in a session yet to come. -/
  future : ∀ n, s.epoch < n → closesOf n s.history = [] ∧
    disconnectsOf cfg.nsp n s.history = 0 ∧ endedIn n s.history = false
  /-- Until a session ends it has one Close for each Disconnect packet that was handled. -/
  current : endedIn s.epoch s.history = false →
    ∃ k, closesOf s.epoch s.history = List.replicate k .ioServerDisconnect ∧
      disconnectsOf cfg.nsp s.epoch s.history = k + pending cfg.nsp s.reader

theorem sessions_init (cfg : Config) (onReconnect : Bool) : Sessions cfg (.init onReconnect) where
  notManual := by simp [Client.init]
  handling := by simp [Client.init]
  future n _ := ⟨rfl, rfl, rfl⟩
  current _ := ⟨0, rfl, rfl⟩

/-- The epochs after the current one are left alone. -/
theorem Sessions.future_cons {cfg : Config} {s : Client} (hs : Sessions cfg s) {o : Occurrence}
    (hclose : ∀ n, s.epoch < n → o.closeOf n = none)
    (hdisconnect : ∀ n, s.epoch < n → o.isDisconnect cfg.nsp n = false)
    (hend : ∀ n, s.epoch < n → o.isEnd n = false) (n : Nat) (hn : s.epoch < n) :
    closesOf n (o :: s.history) = [] ∧ disconnectsOf cfg.nsp n (o :: s.history) = 0 ∧
      endedIn n (o :: s.history) = false := by
  obtain ⟨h1, h2, h3⟩ := hs.future n hn
  unfold closesOf disconnectsOf endedIn at *
  simp [hclose n hn, hdisconnect n hn, hend n hn, h1, h2, h3]

theorem Sessions.quiet {cfg : Config} {s s' : Client} (hs : Sessions cfg s) (h : Quiet cfg s s') :
    Sessions cfg s' := by
  obtain ⟨new, hnew, hsilent⟩ := h.history
  refine ⟨h.reason hs.notManual, fun packet hp => ?_, fun n hn => ?_, fun hend => ?_⟩
  · rcases h.handling packet hp with hold | hnsp
    · exact hs.handling packet hold
    · exact hnsp
  · rw [hnew, closesOf_silent hsilent, disconnectsOf_silent hsilent, endedIn_silent hsilent]
    exact hs.future n (by rw [← h.epoch]; exact hn)
  · rw [hnew, h.epoch, endedIn_silent hsilent] at hend
    obtain ⟨k, hcloses, hread⟩ := hs.current hend
    refine ⟨k, ?_, ?_⟩
    · rw [hnew, h.epoch, closesOf_silent hsilent, hcloses]
    · rw [hnew, h.epoch, h.pending, disconnectsOf_silent hsilent, hread]

theorem Sessions.disconnects_of_handling {cfg : Config} {s : Client} (hs : Sessions cfg s)
    {packet : Packet} (hr : s.reader = .handling packet) (hd : packet.packetType = .disconnect) :
    disconnects cfg.nsp packet = true := by
  simp [disconnects, hd, hs.handling packet hr]

theorem sessions_step {cfg : Config} {s s' : Client} {label : ReaderLabel} (hs : Sessions cfg s)
    (h : SessionStep cfg s label s') : Sessions cfg s' := by
  cases h with
  | quiet label s' hq ho => exact hs.quiet hq
  | read packet hr =>
      refine ⟨hs.notManual, by simp, hs.future_cons (fun n _ => rfl) (fun n hn => ?_)
        (fun n _ => rfl), fun hend => ?_⟩
      · have hne : s.epoch ≠ n := by omega
        simp [Occurrence.isDisconnect, hne]
      · obtain ⟨k, hcloses, hread⟩ := hs.current hend
        refine ⟨k, hcloses, ?_⟩
        show disconnectsOf cfg.nsp s.epoch (.received s.epoch packet :: s.history) =
          k + pending cfg.nsp (.received packet)
        rw [disconnectsOf_received, hread, hr]
        simp [pending]
  | handle packet hr hd =>
      refine ⟨by simp [hd], by simp, ?_, fun hend => ?_⟩
      · rw [Client.handlePacket_epoch, Client.handlePacket_history, if_pos hd]
        refine hs.future_cons (fun n hn => ?_) (fun n _ => rfl) (fun n _ => rfl)
        have hne : s.epoch ≠ n := by omega
        simp [Occurrence.closeOf, hne]
      · rw [Client.handlePacket_epoch, Client.handlePacket_history, if_pos hd] at hend ⊢
        obtain ⟨k, hcloses, hread⟩ := hs.current hend
        refine ⟨k + 1, ?_, ?_⟩
        · rw [closesOf_close, if_pos rfl, hcloses]
          rfl
        · rw [disconnectsOf_spawned, hread, Client.handlePacket_reader, hr]
          simp [pending, hs.disconnects_of_handling hr hd]
  | panicStream hr =>
      refine ⟨hs.notManual, by simp, hs.future_cons (fun n _ => rfl) (fun n _ => rfl)
        (fun n hn => ?_), fun hend => ?_⟩
      · have hne : s.epoch ≠ n := by omega
        simp [Occurrence.isEnd, hne]
      · simp [Client.exhaust, Client.abortDispatch] at hend
  | afterStream hr =>
      refine ⟨by simpa using hs.notManual, fun packet hp => ?_, fun n hn => ?_, fun hend => ?_⟩
      · rw [Client.afterStream_reader] at hp
        split at hp <;> simp at hp
      · rw [Client.afterStream_epoch] at hn
        have hne : s.epoch ≠ n := by omega
        obtain ⟨h1, h2, h3⟩ := hs.future n hn
        rw [Client.afterStream_history]
        split <;> simp [closesOf_close, hne, h1, h2, h3]
      · rw [Client.afterStream_epoch, Client.afterStream_history] at hend
        split at hend <;> simp at hend
  | reconnected attempts hr =>
      refine ⟨hs.notManual, by simp, fun n hn => ?_, fun _ => ?_⟩
      · exact hs.future n (by simp only at hn; omega)
      · obtain ⟨h1, h2, -⟩ := hs.future (s.epoch + 1) (by omega)
        exact ⟨0, h1, h2⟩

/-! ## One Close for each session -/

/-- A step that speaks of the current session only leaves the others closed. -/
theorem ClosedOnce.iff_current {cfg : Config} {s s' : Client} (hs : ClosedOnce cfg s)
    (hsame : ∀ n, n ≠ s.epoch → closesOf n s'.history = closesOf n s.history ∧
      disconnectsOf cfg.nsp n s'.history = disconnectsOf cfg.nsp n s.history ∧
      endedIn n s'.history = endedIn n s.history) :
    ClosedOnce cfg s' ↔ (endedIn s.epoch s'.history = true →
      closesOf s.epoch s'.history = [trueReason cfg.nsp s.epoch s'.history]) := by
  constructor
  · intro h
    exact h s.epoch
  · intro h n hn
    by_cases hcur : n = s.epoch
    · rw [hcur] at hn ⊢
      exact h hn
    · obtain ⟨h1, h2, h3⟩ := hsame n hcur
      rw [h3] at hn
      rw [h1, hs n hn, trueReason, trueReason, h2]

/-- A session in which the server's Disconnects are all there is. -/
theorem replicate_eq_trueReason_iff (k : Nat) :
    List.replicate k CloseReason.ioServerDisconnect =
      [if 0 < k then .ioServerDisconnect else .transportClose] ↔ k = 1 := by
  constructor
  · intro h
    have := congrArg List.length h
    simpa using this
  · rintro rfl
    rfl

theorem trueReason_eq_server_iff (nsp : Str) (n : Nat) (history : List Occurrence) :
    trueReason nsp n history = .ioServerDisconnect ↔ 0 < disconnectsOf nsp n history := by
  unfold trueReason
  split <;> simp_all

/-- While a session is open and no Disconnect packet waits, there is one Close for each that was
read. -/
theorem Sessions.closesOf_eq {cfg : Config} {s : Client} (hs : Sessions cfg s)
    (hidle : pending cfg.nsp s.reader = 0) (hend : endedIn s.epoch s.history = false) :
    closesOf s.epoch s.history =
      List.replicate (disconnectsOf cfg.nsp s.epoch s.history) .ioServerDisconnect := by
  obtain ⟨k, hcloses, hread⟩ := hs.current hend
  rw [hcloses, hread, hidle, Nat.add_zero]

section Step

variable {cfg : Config} {s : Client}

theorem ClosedOnce.read_iff (hc : ClosedOnce cfg s) (packet : Packet) {s' : Client}
    (hhistory : s'.history = .received s.epoch packet :: s.history) :
    ClosedOnce cfg s' ↔ Orderly cfg s (.packet packet) := by
  rw [hc.iff_current fun n hn => by
    rw [hhistory]
    exact ⟨rfl, by simp [disconnectsOf_received, Ne.symm hn], rfl⟩]
  rw [hhistory]
  constructor
  · intro hcur
    refine ⟨?_, by simp, by simp, by simp⟩
    intro p hp hd hend
    obtain rfl : packet = p := by simpa using hp
    -- the Close of the session was spawned before its first Disconnect packet
    have hnew := hcur hend
    have hold := hc s.epoch hend
    rw [closesOf_received, hold] at hnew
    have htrue : trueReason cfg.nsp s.epoch (.received s.epoch packet :: s.history) =
        .ioServerDisconnect := by
      rw [trueReason_eq_server_iff, disconnectsOf_received]
      simp [hd]
    rw [htrue] at hnew
    exact (trueReason_eq_server_iff _ _ _).mp (List.cons.inj hnew).1
  · intro ho hend
    have hold := hc s.epoch hend
    show closesOf s.epoch s.history = _
    rw [hold]
    by_cases hd : disconnects cfg.nsp packet = true
    · have hread := ho.read packet rfl hd hend
      simp [trueReason, disconnectsOf_received, hread]
    · simp [trueReason, disconnectsOf_received, hd]

theorem ClosedOnce.handle_iff (hc : ClosedOnce cfg s) {packet : Packet}
    (hr : s.reader = .handling packet) (hd : packet.packetType = .disconnect) :
    ClosedOnce cfg (s.handlePacket packet) ↔ Orderly cfg s .proceed := by
  have hhistory : (s.handlePacket packet).history =
      .spawned (.close .ioServerDisconnect s.epoch) :: s.history := by simp [hd]
  rw [hc.iff_current fun n hn => by
    rw [hhistory]
    exact ⟨by simp [closesOf_close, Ne.symm hn], rfl, rfl⟩]
  rw [hhistory, endedIn_spawned, closesOf_close, if_pos rfl]
  constructor
  · intro hcur
    refine ⟨by simp, fun _ _ _ _ => ?_, by simp [hr], by simp⟩
    cases hend : endedIn s.epoch s.history with
    | false => rfl
    | true =>
        have hlen := congrArg List.length (hcur hend)
        simp [hc s.epoch hend] at hlen
  · -- in an orderly run the session is still open
    intro ho hend
    have hopen := ho.handle rfl packet hr hd
    simp [hend] at hopen

theorem ClosedOnce.panicStream_iff (hs : Sessions cfg s) (hc : ClosedOnce cfg s)
    (hr : s.reader = .reading) {s' : Client}
    (hhistory : s'.history = .sessionEnded s.epoch :: s.history) :
    ClosedOnce cfg s' ↔ Orderly cfg s .streamPanic := by
  have hidle : pending cfg.nsp s.reader = 0 := by rw [hr]; rfl
  rw [hc.iff_current fun n hn => by
    rw [hhistory]
    exact ⟨rfl, rfl, by simp [Ne.symm hn]⟩]
  rw [hhistory]
  show (_ → closesOf s.epoch s.history = [trueReason cfg.nsp s.epoch s.history]) ↔ _
  constructor
  · intro hcur
    refine ⟨by simp, by simp, by simp, fun _ hend => ?_⟩
    have hone := hcur (by simp)
    rw [hs.closesOf_eq hidle hend, trueReason] at hone
    exact (replicate_eq_trueReason_iff _).mp hone
  · intro ho _
    cases hend : endedIn s.epoch s.history with
    | true => exact hc s.epoch hend
    | false =>
        rw [hs.closesOf_eq hidle hend, trueReason]
        exact (replicate_eq_trueReason_iff _).mpr (ho.panic rfl hend)

theorem ClosedOnce.afterStream_iff (hs : Sessions cfg s) (hc : ClosedOnce cfg s)
    (hr : s.reader = .streamEnded) :
    ClosedOnce cfg (s.afterStream cfg) ↔ Orderly cfg s .proceed := by
  have hidle : pending cfg.nsp s.reader = 0 := by rw [hr]; rfl
  have hsame : ∀ n, n ≠ s.epoch →
      closesOf n (s.afterStream cfg).history = closesOf n s.history ∧
      disconnectsOf cfg.nsp n (s.afterStream cfg).history = disconnectsOf cfg.nsp n s.history ∧
      endedIn n (s.afterStream cfg).history = endedIn n s.history := by
    intro n hn
    rw [Client.afterStream_history]
    split <;> simp [closesOf_close, Ne.symm hn]
  have horderly : Orderly cfg s .proceed ↔
      if endedIn s.epoch s.history then s.reason ≠ .unknown
      else if s.reason = .unknown then disconnectsOf cfg.nsp s.epoch s.history = 0
      else disconnectsOf cfg.nsp s.epoch s.history = 1 :=
    ⟨fun ho => ho.streamEnd rfl hr,
      fun hend => ⟨by simp, by simp [hr], fun _ _ => hend, by simp⟩⟩
  rw [hc.iff_current hsame, horderly, Client.afterStream_history]
  cases hend : endedIn s.epoch s.history with
  | true =>
      -- a failed round came back to the stream: an unset flag reports the end again
      have hold := hc s.epoch hend
      by_cases hu : s.reason = .unknown
      · simp [hu, closesOf_close, hold]
      · simp [hu, trueReason, hold]
  | false =>
      have hcloses := hs.closesOf_eq hidle hend
      by_cases hu : s.reason = .unknown
      · simp [hu, closesOf_close, trueReason, hcloses]
      · simpa [hu, trueReason, hcloses] using replicate_eq_trueReason_iff _

/-- **What a step does to the property is in what it meets.** -/
theorem closedOnce_step {s' : Client} {label : ReaderLabel} (hs : Sessions cfg s)
    (hc : ClosedOnce cfg s) (h : SessionStep cfg s label s') :
    ClosedOnce cfg s' ↔ Orderly cfg s label := by
  cases h with
  | quiet label s' hq ho =>
      obtain ⟨new, hnew, hsilent⟩ := hq.history
      refine ⟨fun _ => ho, fun _ n hn => ?_⟩
      rw [hnew, endedIn_silent hsilent] at hn
      rw [hnew, closesOf_silent hsilent, trueReason, disconnectsOf_silent hsilent]
      exact hc n hn
  | read packet hr => exact hc.read_iff packet rfl
  | handle packet hr hd => exact hc.handle_iff hr hd
  | panicStream hr => exact hc.panicStream_iff hs hr rfl
  | afterStream hr => exact hc.afterStream_iff hs hr
  | reconnected attempts hr =>
      exact ⟨fun _ => .of_harmless rfl, fun _ => hc⟩

end Step

/-- **One Close for each session, exactly as long as the run is orderly.**  For every run of the
reader from the first session on, without a disconnect by the user. -/
theorem closedOnce_iff_orderly (cfg : Config) (onReconnect : Bool) (labels : List ReaderLabel) :
    Lts.Throughout (readerStep cfg) (ClosedOnce cfg) (.init onReconnect) labels ↔
      Lts.Along (readerStep cfg) (Orderly cfg) (.init onReconnect) labels := by
  refine Lts.throughout_iff_along (I := Sessions cfg) ?_ ?_ (sessions_init cfg onReconnect) ?_
    labels
  · intro s label s' hs _ h
    exact sessions_step hs ((readerStep_cases h).session hs.notManual)
  · intro s label s' hs hc h
    exact closedOnce_step hs hc ((readerStep_cases h).session hs.notManual)
  · intro n hn
    exact absurd hn (by simp [Client.init, endedIn, Occurrence.isEnd])

/-- A client that reconnects when the server disconnects it. -/
def reconnectingConfig : Config := Config.new.setReconnectOnDisconnect true

/-- The server disconnects the first session; the second one loses its transport before the Connect
packet of the server, and `disconnect_reason` is still `Server`. -/
def deathBeforeConnect : List ReaderLabel :=
  [.proceed, .packet (Packet.disconnect ['/']), .proceed, .proceed, .streamEnd, .proceed, .proceed,
    .proceed, .proceed, .result true, .proceed, .proceed, .result true, .result true, .proceed,
    .streamEnd, .proceed]

theorem not_closedOnce_deathBeforeConnect :
    ∃ s, Lts.run (readerStep reconnectingConfig) (.init false) deathBeforeConnect = some s ∧
      endedIn 2 s.history = true ∧ closesOf 2 s.history = [] ∧
      ¬ ClosedOnce reconnectingConfig s := by
  have hrun :
      ∃ s, Lts.run (readerStep reconnectingConfig) (.init false) deathBeforeConnect = some s ∧
        endedIn 2 s.history = true ∧ closesOf 2 s.history = [] := ⟨_, rfl, rfl, rfl⟩
  obtain ⟨s, hs, hend, hcloses⟩ := hrun
  refine ⟨s, hs, hend, hcloses, fun hc => ?_⟩
  have := hc 2 hend
  simp [hcloses] at this

end TfSocketio.Socketio.Async
