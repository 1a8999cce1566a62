/-
# Socketio.SyncClose — one Close for each session of the synchronous client.

The close chain is called by the handler of a Disconnect packet and by `RawClient::disconnect`,
which the user calls, and the poll thread too before it reconnects.  So a session that dies of an
engine.io error is reported as closed by the client, and one that the server disconnected is
reported twice if the client then reconnects.

`ClosedOnce` counts the calls made so far and those that the two threads are bound to make;
`closedOnce_iff_undisturbed` says which steps keep it.
-/
import TfSocketio.Socketio.SyncDisconnect

namespace TfSocketio.Socketio.Sync

/-! ## What the history says about a session -/

/-- The reason of a call of the close chain with an epoch. -/
def Occurrence.closeOf (epoch : Nat) : Occurrence → Option CloseReason
  | .closed reason e => if e = epoch then some reason else none
  | _ => none

/-- The reason for which a session ends here. -/
def Occurrence.causeOf (epoch : Nat) : Occurrence → Option CloseReason
  | .serverDisconnect e => if e = epoch then some .ioServerDisconnect else none
  | .engineError e => if e = epoch then some .transportClose else none
  | .userDisconnect e => if e = epoch then some .ioClientDisconnect else none
  | _ => none

/-- The calls of the close chain for a session, latest first. -/
def closesOf (epoch : Nat) (history : List Occurrence) : List CloseReason :=
  history.filterMap (Occurrence.closeOf epoch)

/-- The true reason of a session's end: what ended it first. -/
def endOf (epoch : Nat) (history : List Occurrence) : Option CloseReason :=
  (history.filterMap (Occurrence.causeOf epoch)).getLast?

/-- The poll thread is bound to disconnect. -/
def Poller.closes (cfg : Config) : Poller → Bool
  | .deciding result => shouldReconnect cfg result
  | .disconnecting _ => true
  | _ => false

/-- The calls of the close chain that the two threads are bound to make. -/
def Client.closesToCome (cfg : Config) (s : Client) : List CloseReason :=
  (if s.user.isSome then [.ioClientDisconnect] else []) ++
    if s.poller.closes cfg then [.ioClientDisconnect] else []

/-- **One call of the close chain, with the true reason, for each session that has ended**, and none
for the others. -/
def ClosedOnce (cfg : Config) (s : Client) : Prop :=
  ∀ n, closesOf n s.history ++ (if n = s.epoch then s.closesToCome cfg else []) =
    (endOf n s.history).toList

theorem closesOf_cons (n : Nat) (o : Occurrence) (history : List Occurrence) :
    closesOf n (o :: history) = (o.closeOf n).toList ++ closesOf n history := by
  unfold closesOf
  rw [List.filterMap_cons]
  cases o.closeOf n <;> rfl

theorem endOf_cons (n : Nat) (o : Occurrence) (history : List Occurrence) :
    endOf n (o :: history) = (endOf n history).or (o.causeOf n) := by
  unfold endOf
  rw [List.filterMap_cons]
  cases o.causeOf n with
  | none => simp
  | some reason => simp [List.getLast?_cons]

/-! ## The steps that matter to a session -/

/-- What keeps one call for each session: what the poll thread meets, and when the user calls. -/
structure Undisturbed (cfg : Config) (s : Client) (label : Label) : Prop where
  /-- No poll fails with an engine.io error. -/
  transport : label ≠ .transportError
  pong : ∀ ok, label = .pong ok → (s.engineConnected && ok) = true
  /-- The server disconnects a session that has not ended, and the client does not reconnect. -/
  handle : ∀ packet ok, label = .handled ok → s.poller = .handling packet →
    packet.packetType = .disconnect →
      cfg.reconnectOnDisconnect = false ∧ endOf s.epoch s.history = none
  /-- The user disconnects a session that has not ended. -/
  call : label = .disconnect → endOf s.epoch s.history = none

/-- The poll thread is at a place that no reconnect leads to. -/
def Poller.calm (cfg : Config) : Poller → Bool
  | .next => true
  | .polling _ => true
  | .polled _ => true
  | .pinged _ => true
  | .handling _ => true
  | .deciding result => !shouldReconnect cfg result
  | .panicked => true
  | _ => false

theorem Poller.closes_of_calm {cfg : Config} {r : Poller} (h : r.calm cfg = true) :
    r.closes cfg = false := by
  cases r <;> simp_all [Poller.calm, Poller.closes]

theorem calm_skipPacket (cfg : Config) (header : Header) :
    (skipPacket header).calm cfg = true := by
  cases header <;> rfl

theorem calm_deliver (cfg : Config) (s : Client) (packet : Packet) :
    (s.deliver cfg packet).poller.calm cfg = true := by
  unfold Client.deliver
  dsimp only
  split <;> rfl

theorem calm_receive (cfg : Config) (s : Client) (header : Header)
    (packetId : Engineio.PacketId) (decoded : Option Packet) :
    (s.receive cfg header packetId decoded).poller.calm cfg = true := by
  have hmessage : (s.receiveMessage cfg header decoded).poller.calm cfg = true := by
    unfold Client.receiveMessage
    split
    · split
      · exact calm_deliver cfg s _
      · rfl
    · split
      · rfl
      · split
        · rfl
        · exact calm_deliver cfg s _
  cases packetId with
  | message => exact hmessage
  | messageBinary => exact hmessage
  | close => exact calm_skipPacket cfg header
  | ping => rfl
  | upgrade => exact calm_skipPacket cfg header
  | noop => exact calm_skipPacket cfg header
  | «open» => rfl
  | pong => rfl

/-! ## One Close for each session -/

/-- Only what is said of the current session can change. -/
theorem ClosedOnce.iff_current {cfg : Config} {s s' : Client} (hs : ClosedOnce cfg s)
    (he : s'.epoch = s.epoch)
    (hsame : ∀ n, n ≠ s.epoch → closesOf n s'.history = closesOf n s.history ∧
      endOf n s'.history = endOf n s.history) :
    ClosedOnce cfg s' ↔ closesOf s.epoch s'.history ++ s'.closesToCome cfg =
      (endOf s.epoch s'.history).toList := by
  constructor
  · intro h
    have hcur := h s.epoch
    rw [he] at hcur
    simpa using hcur
  · intro h n
    rw [he]
    by_cases hcur : n = s.epoch
    · rw [hcur]
      simpa using h
    · obtain ⟨h1, h2⟩ := hsame n hcur
      have hold := hs n
      rw [h1, h2]
      simpa [hcur] using hold

/-- A step that adds nothing to the history, and binds nobody. -/
theorem ClosedOnce.of_quiet {cfg : Config} {s s' : Client} (hs : ClosedOnce cfg s)
    (he : s'.epoch = s.epoch) (hu : s'.user.isSome = s.user.isSome)
    (hp : s.poller.calm cfg = true) (hp' : s'.poller.calm cfg = true)
    (hh : s'.history = s.history) : ClosedOnce cfg s' := by
  intro n
  have hcome : s'.closesToCome cfg = s.closesToCome cfg := by
    unfold Client.closesToCome
    rw [hu, Poller.closes_of_calm hp, Poller.closes_of_calm hp']
  rw [hh, he, hcome]
  exact hs n

/-- The current session of a client whose poll thread is calm. -/
theorem ClosedOnce.current {cfg : Config} {s : Client} (hs : ClosedOnce cfg s)
    (hp : s.poller.calm cfg = true) :
    closesOf s.epoch s.history ++ (if s.user.isSome then [.ioClientDisconnect] else []) =
      (endOf s.epoch s.history).toList := by
  have h := hs s.epoch
  unfold Client.closesToCome at h
  rw [Poller.closes_of_calm hp] at h
  simpa using h

/-- Until a session ends, no call is made or under way. -/
theorem ClosedOnce.open_session {cfg : Config} {s : Client} (hs : ClosedOnce cfg s)
    (hp : s.poller.calm cfg = true) (he : endOf s.epoch s.history = none) :
    closesOf s.epoch s.history = [] ∧ s.user = none := by
  have h := hs.current hp
  rw [he] at h
  obtain ⟨hc, hu⟩ := List.append_eq_nil_iff.mp h
  refine ⟨hc, ?_⟩
  cases hs : s.user with
  | none => rfl
  | some place => simp [hs] at hu

/-- After a session has ended, its one call is made or under way: a further one is too many. -/
theorem ClosedOnce.ended_session {cfg : Config} {s : Client} (hs : ClosedOnce cfg s)
    (hp : s.poller.calm cfg = true) {reason : CloseReason}
    (he : endOf s.epoch s.history = some reason) :
    (closesOf s.epoch s.history ++
      (if s.user.isSome then [.ioClientDisconnect] else [] : List CloseReason)).length = 1 := by
  rw [hs.current hp, he]
  rfl

theorem closedOnce_failPoll {cfg : Config} {s : Client} (hs : ClosedOnce cfg s)
    (hp : s.poller.calm cfg = true) : ¬ ClosedOnce cfg s.failPoll := by
  refine mt (Iff.mp (hs.iff_current rfl fun n hn => ⟨by
    simp [Client.failPoll, closesOf_cons, Occurrence.closeOf], by
    simp [Client.failPoll, endOf_cons, Occurrence.causeOf, Ne.symm hn]⟩)) ?_
  show ¬ (closesOf s.epoch (.engineError s.epoch :: s.history) ++
    ((if s.user.isSome then [.ioClientDisconnect] else []) ++ [.ioClientDisconnect]) =
      (endOf s.epoch (.engineError s.epoch :: s.history)).toList)
  rw [closesOf_cons, endOf_cons]
  intro h
  cases he : endOf s.epoch s.history with
  | none =>
      -- the poll thread's own disconnect will report a disconnect by the client
      obtain ⟨hc, hu⟩ := hs.open_session hp he
      simp [he, hc, hu, Occurrence.closeOf, Occurrence.causeOf] at h
  | some reason =>
      have hlen := hs.ended_session hp he
      have := congrArg List.length h
      simp [he, Occurrence.closeOf] at this hlen
      omega

theorem closedOnce_handle_disconnect {cfg : Config} {s : Client} {packet : Packet} {ok : Bool}
    (hs : ClosedOnce cfg s) (hp : s.poller.calm cfg = true)
    (hd : packet.packetType = .disconnect) : ClosedOnce cfg (s.handle packet ok) ↔
      cfg.reconnectOnDisconnect = false ∧ endOf s.epoch s.history = none := by
  have hhandle : s.handle packet ok = { s with
      poller := .deciding (.packet packet)
      history :=
        .closed .ioServerDisconnect s.epoch :: .serverDisconnect s.epoch :: s.history } := by
    unfold Client.handle
    rw [hd]
  rw [hhandle]
  refine Iff.trans (hs.iff_current rfl fun n hn => ⟨by
    simp [closesOf_cons, Occurrence.closeOf, Ne.symm hn], by
    simp [endOf_cons, Occurrence.causeOf, Ne.symm hn]⟩) ?_
  rw [closesOf_cons, closesOf_cons, endOf_cons, endOf_cons]
  unfold Client.closesToCome
  cases he : endOf s.epoch s.history with
  | none =>
      -- with `reconnect_on_disconnect` the poll thread will call the chain once more
      obtain ⟨hc, hu⟩ := hs.open_session hp he
      cases hr : cfg.reconnectOnDisconnect <;>
        simp [hc, hu, hd, hr, Occurrence.closeOf, Occurrence.causeOf, Poller.closes,
          shouldReconnect]
  | some reason =>
      have hlen := hs.ended_session hp he
      constructor
      · intro h
        have hmore := congrArg List.length h
        simp only [List.length_append, Occurrence.closeOf, if_true, Option.toList_some,
          Option.toList_none, Option.some_or, List.length_cons, List.length_nil] at hmore hlen
        omega
      · rintro ⟨-, h⟩
        simp at h

theorem closedOnce_call {cfg : Config} {s : Client} (hs : ClosedOnce cfg s)
    (hp : s.poller.calm cfg = true) (hu : s.user = none) :
    ClosedOnce cfg { s with
      user := some .sending, history := .userDisconnect s.epoch :: s.history } ↔
      endOf s.epoch s.history = none := by
  refine Iff.trans (hs.iff_current rfl fun n hn => ⟨by simp [closesOf_cons, Occurrence.closeOf], by
    simp [endOf_cons, Occurrence.causeOf, Ne.symm hn]⟩) ?_
  rw [closesOf_cons, endOf_cons]
  unfold Client.closesToCome
  rw [Poller.closes_of_calm hp]
  cases he : endOf s.epoch s.history with
  | none =>
      obtain ⟨hc, -⟩ := hs.open_session hp he
      simp [hc, Occurrence.closeOf, Occurrence.causeOf]
  | some reason =>
      have hlen := hs.ended_session hp he
      constructor
      · intro h
        have hmore := congrArg List.length h
        simp only [List.length_append, hu, Occurrence.closeOf, Option.isSome_none,
          Option.isSome_some, if_true, Option.toList_none, Option.toList_some, Option.some_or,
          List.length_cons, List.length_nil] at hmore hlen
        simp only [Bool.false_eq_true, if_false, List.length_nil] at hmore hlen
        omega
      · intro h
        simp at h

theorem closedOnce_return {cfg : Config} {s : Client} (hs : ClosedOnce cfg s)
    (hp : s.poller.calm cfg = true) (hu : s.user = some .notifying) :
    ClosedOnce cfg { s with
      user := none, history := .closed .ioClientDisconnect s.epoch :: s.history } := by
  refine Iff.mpr (hs.iff_current rfl fun n hn =>
    ⟨by simp [closesOf_cons, Occurrence.closeOf, Ne.symm hn], by
      simp [endOf_cons, Occurrence.causeOf]⟩) ?_
  rw [closesOf_cons, endOf_cons]
  have hcur := hs.current hp
  unfold Client.closesToCome
  rw [Poller.closes_of_calm hp]
  cases he : endOf s.epoch s.history with
  | none =>
      -- the user's call has ended the session, at the latest
      obtain ⟨-, hnone⟩ := hs.open_session hp he
      simp [hu] at hnone
  | some reason =>
      have hlen := hs.ended_session hp he
      have hc : closesOf s.epoch s.history = [] := by simpa [hu] using hlen
      simpa [hu, hc, he, Occurrence.closeOf, Occurrence.causeOf] using hcur

/-- The labels that nothing is asked of. -/
def Label.harmless : Label → Bool
  | .transportError => false
  | .pong _ => false
  | .handled _ => false
  | .disconnect => false
  | _ => true

theorem Undisturbed.of_harmless {cfg : Config} {s : Client} {label : Label}
    (h : label.harmless = true) : Undisturbed cfg s label where
  transport hlabel := by
    subst hlabel
    cases h
  pong ok hlabel := by
    subst hlabel
    cases h
  handle packet ok hlabel := by
    subst hlabel
    cases h
  call hlabel := by
    subst hlabel
    cases h

theorem calm_handle {cfg : Config} {s : Client} {packet : Packet} {ok : Bool}
    (hd : packet.packetType ≠ .disconnect) : (s.handle packet ok).poller.calm cfg = true := by
  unfold Client.handle
  cases hp : packet.packetType <;> cases ok <;> simp_all [Poller.calm, shouldReconnect]

theorem handle_history {s : Client} {packet : Packet} {ok : Bool}
    (hd : packet.packetType ≠ .disconnect) : (s.handle packet ok).history = s.history := by
  unfold Client.handle
  cases hp : packet.packetType <;> first | rfl | exact absurd hp hd

/-- **What a step does to the property is in what it meets.** -/
theorem closedOnce_step {cfg : Config} {s s' : Client} {label : Label} (hs : ClosedOnce cfg s)
    (hp : s.poller.calm cfg = true) (h : Transition cfg s label s') :
    (ClosedOnce cfg s' ↔ Undisturbed cfg s label) ∧
      (Undisturbed cfg s label → s'.poller.calm cfg = true) := by
  -- most steps add nothing to the history and leave the poll thread calm
  have hquiet : s'.epoch = s.epoch → s'.user.isSome = s.user.isSome →
      s'.poller.calm cfg = true → s'.history = s.history → Undisturbed cfg s label →
      (ClosedOnce cfg s' ↔ Undisturbed cfg s label) ∧
        (Undisturbed cfg s label → s'.poller.calm cfg = true) :=
    fun he hu hp' hh ho => ⟨⟨fun _ => ho, fun _ => hs.of_quiet he hu hp hp' hh⟩, fun _ => hp'⟩
  cases h with
  | startPoll hr => exact hquiet rfl rfl rfl rfl (.of_harmless rfl)
  | findsOpen header hr he =>
      exact hquiet rfl rfl rfl rfl (.of_harmless rfl)
  | findsClosed header hr he =>
      exact hquiet rfl rfl rfl rfl (.of_harmless rfl)
  | failPoll label header hl hr =>
      have hnot : ¬ Undisturbed cfg s label := by
        intro ho
        rcases hl with rfl | ⟨ok, rfl, hfail⟩
        · exact ho.transport rfl
        · have := ho.pong ok rfl
          simp [hfail] at this
      exact ⟨⟨fun hc => absurd hc (closedOnce_failPoll hs hp), fun ho => absurd ho hnot⟩,
        fun ho => absurd ho hnot⟩
  | pollAgain header hr =>
      exact hquiet rfl rfl rfl rfl (.of_harmless rfl)
  | receive header packetId decoded hr =>
      obtain ⟨he, hu, hh, -⟩ := receive_keeps cfg s header packetId decoded
      exact hquiet he (by rw [hu]) (calm_receive cfg s header packetId decoded) hh
        (.of_harmless rfl)
  | answerPing ok header hr hok =>
      refine hquiet rfl rfl (calm_skipPacket cfg header) rfl ⟨by simp, fun ok' h => ?_, by simp,
        by simp⟩
      obtain rfl := Label.pong.inj h
      exact hok
  | handle packet ok hr =>
      by_cases hd : packet.packetType = .disconnect
      · have hiff : Undisturbed cfg s (.handled ok) ↔
            cfg.reconnectOnDisconnect = false ∧ endOf s.epoch s.history = none := by
          refine ⟨fun ho => ho.handle packet ok rfl hr hd, fun hmeets => ⟨by simp, by simp, ?_,
            by simp⟩⟩
          intro _ _ _ _ _
          exact hmeets
        rw [hiff]
        refine ⟨closedOnce_handle_disconnect hs hp hd, fun hmeets => ?_⟩
        simp [Client.handle, hd, Poller.calm, shouldReconnect, hmeets.1]
      · obtain ⟨he, hu, -, -⟩ := handle_keeps s packet ok
        refine hquiet he (by rw [hu]) (calm_handle hd) (handle_history hd) ⟨by simp, by simp, ?_,
          by simp⟩
        intro p _ _ hp' hd'
        rw [hr] at hp'
        obtain rfl := Poller.handling.inj hp'
        exact absurd hd' hd
  | decide result hr =>
      have hno : shouldReconnect cfg result = false := by simpa [hr, Poller.calm] using hp
      exact hquiet rfl rfl (by simp [hno, Poller.calm]) rfl
        (.of_harmless rfl)
  | callDisconnect hu =>
      have hiff : Undisturbed cfg s .disconnect ↔ endOf s.epoch s.history = none :=
        ⟨fun ho => ho.call rfl, fun he => ⟨by simp, by simp, by simp, fun _ => he⟩⟩
      rw [hiff]
      exact ⟨closedOnce_call hs hp hu, fun _ => hp⟩
  | userDisconnecting place next t hu hstep =>
      obtain ⟨he, hpoller, -, hh, -⟩ := Client.disconnectStep_keeps hstep
      exact hquiet he (by simp [hu]) (by rw [← hp]; exact congrArg (Poller.calm cfg) hpoller) hh
        (.of_harmless rfl)
  | userReturns hu =>
      have ho : Undisturbed cfg s .user := .of_harmless rfl
      exact ⟨⟨fun _ => ho, fun _ => closedOnce_return hs hp hu⟩, fun _ => hp⟩
  -- a calm poll thread is neither disconnecting nor reconnecting
  | disconnecting place next t hr hstep => simp [hr, Poller.calm] at hp
  | disconnected hr => simp [hr, Poller.calm] at hp
  | nextAttempt attempts hr => simp [hr, Poller.calm] at hp
  | wakeUp attempts hr => simp [hr, Poller.calm] at hp
  | connected attempts hr => simp [hr, Poller.calm] at hp
  | connectFailed attempts hr => simp [hr, Poller.calm] at hp
  | install hr hu => simp [hr, Poller.calm] at hp

theorem closedOnce_init (cfg : Config) : ClosedOnce cfg .init := by
  intro n
  have hcome : Client.init.closesToCome cfg = [] := rfl
  rw [hcome]
  show [] ++ (if n = 1 then [] else []) = []
  split <;> rfl

/-- **One Close for each session, exactly as long as the run is undisturbed.** -/
theorem closedOnce_iff_undisturbed (cfg : Config) (labels : List Label) :
    Lts.Throughout (step cfg) (ClosedOnce cfg) .init labels ↔
      Lts.Along (step cfg) (Undisturbed cfg) .init labels := by
  refine Lts.throughout_iff_along (I := fun s => ClosedOnce cfg s → s.poller.calm cfg = true)
    ?_ ?_ (fun _ => rfl) (closedOnce_init cfg) labels
  · intro s label s' hcalm hs h hs'
    obtain ⟨hiff, hnext⟩ := closedOnce_step hs (hcalm hs) (step_cases h)
    exact hnext (hiff.mp hs')
  · intro s label s' hcalm hs h
    exact (closedOnce_step hs (hcalm hs) (step_cases h)).1

/-- The transport fails while the poll thread is blocked in it, and the client reconnects. -/
def transportFails : List Label :=
  [.proceed, .proceed, .transportError, .proceed, .proceed, .proceed, .proceed, .proceed, .proceed,
    .proceed, .connectRaw true, .proceed]

theorem not_closedOnce_transportFails :
    ∃ s, Lts.run (step .new) .init transportFails = some s ∧ s.epoch = 2 ∧ s.user = none ∧
      endOf 1 s.history = some .transportClose ∧
      closesOf 1 s.history = [.ioClientDisconnect] ∧ ¬ ClosedOnce .new s := by
  have hrun : ∃ s, Lts.run (step .new) .init transportFails = some s ∧ s.epoch = 2 ∧ s.user = none ∧
      endOf 1 s.history = some .transportClose ∧ closesOf 1 s.history = [.ioClientDisconnect] :=
    ⟨_, rfl, rfl, rfl, rfl, rfl⟩
  obtain ⟨s, hs, he, hu, hend, hcloses⟩ := hrun
  refine ⟨s, hs, he, hu, hend, hcloses, fun hc => ?_⟩
  have := hc 1
  simp [he, hend, hcloses] at this

end TfSocketio.Socketio.Sync
