/-
# Socketio.ReconnectBudget — what `max_reconnect_attempts` bounds.

The counter of attempts lives in one round of the attempts loop.  A round that gives up leaves the
inner loop only: the reader goes back to the stream that has ended, and a new round starts with a
counter of zero.  The counter is a `u8`, so a round with 255 failures overflows it when the maximum
is 255.

`Bounded` is what a maximum should give, over all rounds since the last session; `WithinBudget` is
what a turn of the attempts loop must meet to keep it.  The runs are those of the whole system:
reader, dispatch tasks and disconnects.
-/
import TfSocketio.Socketio.Disconnect

namespace TfSocketio.Socketio.Async

/-! ## What the history says about the attempts -/

/-- How often the reader has called `reconnect` since the last session began. -/
def callsSince : List Occurrence → Nat
  | [] => 0
  | .connected _ :: _ => 0
  | .calledReconnect :: history => callsSince history + 1
  | _ :: history => callsSince history

/-- Whether a round of attempts has given up since the last session began. -/
def gaveUpSince : List Occurrence → Bool
  | [] => false
  | .connected _ :: _ => false
  | .gaveUp :: _ => true
  | _ :: history => gaveUpSince history

def overflowedIn : List Occurrence → Bool
  | [] => false
  | .overflowed :: _ => true
  | _ :: history => overflowedIn history

/-- **The reconnect work of a maximum**: at most so many calls since the last session, and the
counter has never overflowed. -/
def Bounded (max : UInt8) (s : Client) : Prop :=
  callsSince s.history ≤ max.toNat ∧ overflowedIn s.history = false

/-- Something that says nothing about the attempts. -/
def Occurrence.idle : Occurrence → Bool
  | .connected _ => false
  | .calledReconnect => false
  | .gaveUp => false
  | .overflowed => false
  | _ => true

theorem callsSince_idle {new : List Occurrence} (h : ∀ o ∈ new, o.idle = true)
    (history : List Occurrence) : callsSince (new ++ history) = callsSince history := by
  induction new with
  | nil => rfl
  | cons o new ih =>
      have ho := h o List.mem_cons_self
      rw [List.cons_append, ← ih fun o' ho' => h o' (List.mem_cons_of_mem _ ho')]
      cases o <;> simp_all [Occurrence.idle, callsSince]

theorem gaveUpSince_idle {new : List Occurrence} (h : ∀ o ∈ new, o.idle = true)
    (history : List Occurrence) : gaveUpSince (new ++ history) = gaveUpSince history := by
  induction new with
  | nil => rfl
  | cons o new ih =>
      have ho := h o List.mem_cons_self
      rw [List.cons_append, ← ih fun o' ho' => h o' (List.mem_cons_of_mem _ ho')]
      cases o <;> simp_all [Occurrence.idle, gaveUpSince]

theorem overflowedIn_idle {new : List Occurrence} (h : ∀ o ∈ new, o.idle = true)
    (history : List Occurrence) : overflowedIn (new ++ history) = overflowedIn history := by
  induction new with
  | nil => rfl
  | cons o new ih =>
      have ho := h o List.mem_cons_self
      rw [List.cons_append, ← ih fun o' ho' => h o' (List.mem_cons_of_mem _ ho')]
      cases o <;> simp_all [Occurrence.idle, overflowedIn]

/-! ## The steps that matter to the attempts -/

/-- The counter of the round in progress. -/
def Reader.round : Reader → Nat
  | .attempt attempts => attempts.toNat
  | r => (r.reconnecting.map UInt8.toNat).getD 0

/-- A step that neither calls `reconnect`, nor gives up, nor begins a session. -/
structure Idle (s s' : Client) : Prop where
  round : s'.reader.finished = false →
    s.reader.finished = false ∧ s'.reader.round = s.reader.round
  history : ∃ new, s'.history = new ++ s.history ∧ ∀ o ∈ new, o.idle = true

theorem Idle.of_eq {s s' : Client} (new : List Occurrence) {n : Nat}
    (hr : s.reader.finished = false) (h : s.reader.round = n) (h' : s'.reader.round = n)
    (hnew : s'.history = new ++ s.history) (hidle : ∀ o ∈ new, o.idle = true) : Idle s s' where
  round _ := ⟨hr, by rw [h', h]⟩
  history := ⟨new, hnew, hidle⟩

/-- A step of the client, seen from the attempts loop. -/
inductive AttemptStep (cfg : Config) (s : Client) : ReaderLabel → Client → Prop
  | idle (label : ReaderLabel) (s' : Client) (hi : Idle s s')
      (hn : ∀ attempts, s.reader = .attempt attempts → label ≠ .proceed) :
      AttemptStep cfg s label s'
  | nextAttempt (attempts : UInt8) (hr : s.reader = .attempt attempts) :
      AttemptStep cfg s .proceed (s.nextAttempt cfg attempts)
  | reconnected (attempts : UInt8) (hr : s.reader = .sendConnect attempts) :
      AttemptStep cfg s (.result true) { s with
        epoch := s.epoch + 1
        reader := .asStream
        history := .connected (s.epoch + 1) :: s.history }

theorem Reader.finished_of_reconnecting {r : Reader} {attempts : UInt8}
    (h : r.reconnecting = some attempts) : r.finished = false := by
  cases r <;> simp_all [Reader.reconnecting, Reader.finished]

theorem Reader.round_of_reconnecting {r : Reader} {attempts : UInt8}
    (h : r.reconnecting = some attempts) : r.round = attempts.toNat := by
  cases r <;> simp_all [Reader.reconnecting, Reader.round]

/-- A step away from the attempts loop, or inside it between two looks at the counter. -/
theorem AttemptStep.of_reader {cfg : Config} {s s' : Client} {label : ReaderLabel} {r : Reader}
    (new : List Occurrence) (hr : s.reader = r) (hfinished : r.finished = false)
    (hround : s'.reader.round = r.round) (hnew : s'.history = new ++ s.history)
    (hidle : ∀ o ∈ new, o.idle = true) (hne : ∀ attempts, r ≠ .attempt attempts) :
    AttemptStep cfg s label s' := by
  subst hr
  exact .idle _ _ (.of_eq new hfinished rfl hround hnew hidle)
    fun attempts hattempt => absurd hattempt (hne attempts)

theorem Transition.attempt {cfg : Config} {s s' : Client} {label : ReaderLabel}
    (h : Transition cfg s label s') : AttemptStep cfg s label s' := by
  cases h with
  | nextAttempt attempts hr => exact .nextAttempt attempts hr
  | reconnected attempts hr => exact .reconnected attempts hr
  | openStream hr => exact .of_reader [] hr rfl rfl rfl (by simp) (by simp)
  | readPacket packet hr hs =>
      exact .of_reader [.received s.epoch packet] hr rfl rfl rfl (by simp [Occurrence.idle])
        (by simp)
  | readError hr hs => exact .of_reader [] hr rfl rfl rfl (by simp) (by simp)
  | closeEngine label keepTransport hl hr hs =>
      exact .of_reader [] hr rfl (by rw [← hr]) rfl (by simp) (by simp)
  | endStream hr => exact .of_reader [] hr rfl rfl rfl (by simp) (by simp)
  | stopStream hr hm =>
      have hfacts : s.reader.finished = false ∧ s.reader.round = 0 ∧
          ∀ attempts, s.reader ≠ .attempt attempts := by
        cases hreader : s.reader <;>
          simp_all [Reader.holdsStream, Reader.finished, Reader.round, Reader.reconnecting]
      exact .of_reader [] rfl hfacts.1 hfacts.2.1.symm rfl (by simp) hfacts.2.2
  | panicStream hr hs =>
      exact .idle _ _ ⟨fun hf => by simp [Reader.finished] at hf, [.sessionEnded s.epoch], rfl,
        by simp [Occurrence.idle]⟩ (by simp [hr])
  | dispatch packet hr hm =>
      unfold Client.dispatchPacket
      split
      · split
        · rename_i task htask
          exact .of_reader [.spawned task] hr rfl rfl rfl (by simp [Occurrence.idle]) (by simp)
        · exact .of_reader [] hr rfl rfl rfl (by simp) (by simp)
      · exact .of_reader [] hr rfl rfl rfl (by simp) (by simp)
  | spawnError hr hm =>
      exact .of_reader [.spawned .error] hr rfl rfl rfl (by simp [Occurrence.idle]) (by simp)
  | handle packet hr =>
      unfold Client.handlePacket
      split
      · exact .of_reader [_] hr rfl rfl rfl (by simp [Occurrence.idle]) (by simp)
      · exact .of_reader [_] hr rfl rfl rfl (by simp [Occurrence.idle]) (by simp)
  | afterStream hr =>
      refine .idle _ _ ⟨fun _ => ⟨by rw [hr]; rfl, ?_⟩, ?_⟩ (by simp [hr])
      · rw [Client.afterStream_reader, hr]
        split <;> rfl
      · rw [Client.afterStream_history]
        split
        · exact ⟨[.spawned (.close .transportClose s.epoch), .sessionEnded s.epoch], rfl,
            by simp [Occurrence.idle]⟩
        · exact ⟨[.sessionEnded s.epoch], rfl, by simp [Occurrence.idle]⟩
  | callOnReconnect attempts hr =>
      exact .of_reader [.calledOnReconnect] hr rfl rfl rfl (by simp [Occurrence.idle]) (by simp)
  | reconnecting label next onReconnect socket attempts hl hr hn =>
      have hround : next.round = s.reader.round :=
        (Reader.round_of_reconnecting hn).trans (Reader.round_of_reconnecting hr).symm
      refine .of_reader [] rfl (Reader.finished_of_reconnecting hr) hround rfl (by simp) ?_
      intro k hk
      simp [hk, Reader.reconnecting] at hr
  | install attempts hr =>
      exact .of_reader [.installed] hr rfl rfl rfl (by simp [Occurrence.idle]) (by simp)
  | tryAgain attempts hr => exact .of_reader [] hr rfl rfl rfl (by simp) (by simp)
  | taskFinished index =>
      exact .idle _ _ ⟨fun hf => ⟨hf, rfl⟩, [], rfl, by simp⟩ (by simp)

/-! ## What every run keeps -/

/-- Unless the counter has overflowed, it is the number of calls until a round gives up, and a round
that gave up has used up the maximum. -/
structure Counted (max : UInt8) (s : Client) : Prop where
  counter : overflowedIn s.history = false → s.reader.finished = false →
    gaveUpSince s.history = false → callsSince s.history = s.reader.round
  spent : overflowedIn s.history = false → gaveUpSince s.history = true →
    max.toNat ≤ callsSince s.history

theorem counted_init (max : UInt8) (onReconnect : Bool) : Counted max (.init onReconnect) where
  counter _ _ _ := rfl
  spent _ h := by simp [Client.init, gaveUpSince] at h

theorem Counted.idle {max : UInt8} {s s' : Client} (hs : Counted max s) (h : Idle s s') :
    Counted max s' := by
  obtain ⟨new, hnew, hidle⟩ := h.history
  refine ⟨fun hover hfin hgave => ?_, fun hover hgave => ?_⟩
  · rw [hnew, overflowedIn_idle hidle] at hover
    rw [hnew, gaveUpSince_idle hidle] at hgave
    obtain ⟨hfin, hround⟩ := h.round hfin
    rw [hnew, callsSince_idle hidle, hround]
    exact hs.counter hover hfin hgave
  · rw [hnew, overflowedIn_idle hidle] at hover
    rw [hnew, gaveUpSince_idle hidle] at hgave
    rw [hnew, callsSince_idle hidle]
    exact hs.spent hover hgave

theorem toNat_succ_of_ne {attempts : UInt8} (h : attempts ≠ 255) :
    (attempts + 1).toNat = attempts.toNat + 1 := by
  have hne : attempts.toNat ≠ 255 := fun heq => h (UInt8.toNat_inj.mp heq)
  have hlt := attempts.toNat_lt
  rw [UInt8.toNat_add]
  show (attempts.toNat + 1) % 2 ^ 8 = _
  omega

/-- What a turn of the attempts loop does below the counter's limit. -/
theorem nextAttempt_of_ne {cfg : Config} {max : UInt8} {s : Client} {attempts : UInt8}
    (h : attempts ≠ 255) : s.nextAttempt (cfg.setMaxReconnectAttempts max) attempts =
      if attempts.toNat < max.toNat then
        { s with
          reader := .takeOnReconnect (attempts + 1), history := .calledReconnect :: s.history }
      else { s with reader := .asStream, history := .gaveUp :: s.history } := by
  have hlt : max < attempts + 1 ↔ ¬ attempts.toNat < max.toNat := by
    rw [UInt8.lt_iff_toNat_lt, toNat_succ_of_ne h]
    omega
  unfold Client.nextAttempt Config.setMaxReconnectAttempts
  by_cases hmax : attempts.toNat < max.toNat
  · have hnot : ¬ max < attempts + 1 := fun hgt => hlt.mp hgt hmax
    simp [h, hmax, hnot]
  · simp [h, hmax, hlt.mpr hmax]

/-- At its limit the counter overflows. -/
theorem nextAttempt_limit {cfg : Config} {max : UInt8} {s : Client} :
    overflowedIn (s.nextAttempt (cfg.setMaxReconnectAttempts max) 255).history = true := by
  unfold Client.nextAttempt Config.setMaxReconnectAttempts
  dsimp only
  split
  · rfl
  · split
    · rfl
    · rfl

theorem counted_step {cfg : Config} {max : UInt8} {s s' : Client} {label : ReaderLabel}
    (hs : Counted max s) (h : AttemptStep (cfg.setMaxReconnectAttempts max) s label s') :
    Counted max s' := by
  cases h with
  | idle label s' hi hn => exact hs.idle hi
  | nextAttempt attempts hr =>
      by_cases hlimit : attempts = 255
      · -- `Counted` says nothing of a counter that has overflowed
        subst hlimit
        exact ⟨fun hover => by simp [nextAttempt_limit] at hover,
          fun hover => by simp [nextAttempt_limit] at hover⟩
      · rw [nextAttempt_of_ne hlimit]
        have hround : s.reader.round = attempts.toNat := by rw [hr]; rfl
        have hfin : s.reader.finished = false := by rw [hr]; rfl
        split
        · rename_i hmax
          refine ⟨fun hover _ hgave => ?_, fun hover hgave =>
            Nat.le_succ_of_le (hs.spent hover hgave)⟩
          show callsSince s.history + 1 = (attempts + 1).toNat
          rw [toNat_succ_of_ne hlimit, hs.counter hover hfin hgave, hround]
        · rename_i hmax
          refine ⟨fun _ _ hgave => by simp [gaveUpSince] at hgave, fun hover _ => ?_⟩
          show max.toNat ≤ callsSince s.history
          cases hgave : gaveUpSince s.history with
          | true => exact hs.spent hover hgave
          | false =>
              rw [hs.counter hover hfin hgave, hround]
              omega
  | reconnected attempts hr =>
      exact ⟨fun _ _ _ => rfl, fun _ hgave => by simp [gaveUpSince] at hgave⟩

/-! ## The bound -/

/-- What keeps the bound: at the top of the attempts loop the counter is not at its limit, and a
call of `reconnect` does not follow a round that gave up in the same session. -/
def WithinBudget (max : UInt8) (s : Client) (label : ReaderLabel) : Prop :=
  label = .proceed → ∀ attempts, s.reader = .attempt attempts →
    attempts ≠ 255 ∧ (attempts < max → gaveUpSince s.history = false)

theorem bounded_step {cfg : Config} {max : UInt8} {s s' : Client} {label : ReaderLabel}
    (hs : Counted max s) (hb : Bounded max s)
    (h : AttemptStep (cfg.setMaxReconnectAttempts max) s label s') :
    Bounded max s' ↔ WithinBudget max s label := by
  cases h with
  | idle label s' hi hn =>
      obtain ⟨new, hnew, hidle⟩ := hi.history
      refine ⟨fun _ hl attempts hr => absurd hl (hn attempts hr), fun _ => ?_⟩
      unfold Bounded
      rw [hnew, callsSince_idle hidle, overflowedIn_idle hidle]
      exact hb
  | nextAttempt attempts hr =>
      have hbudget : WithinBudget max s .proceed ↔
          attempts ≠ 255 ∧ (attempts < max → gaveUpSince s.history = false) := by
        refine ⟨fun h => h rfl attempts hr, fun h _ k hk => ?_⟩
        rw [hr] at hk
        obtain rfl := Reader.attempt.inj hk
        exact h
      rw [hbudget]
      by_cases hlimit : attempts = 255
      · subst hlimit
        refine ⟨fun hb' => ?_, fun h => absurd rfl h.1⟩
        simp [Bounded, nextAttempt_limit] at hb'
      · have hround : s.reader.round = attempts.toNat := by rw [hr]; rfl
        have hfin : s.reader.finished = false := by rw [hr]; rfl
        rw [nextAttempt_of_ne hlimit, UInt8.lt_iff_toNat_lt]
        by_cases hmax : attempts.toNat < max.toNat
        · rw [if_pos hmax]
          show callsSince s.history + 1 ≤ max.toNat ∧ overflowedIn s.history = false ↔ _
          cases hgave : gaveUpSince s.history with
          | true =>
              -- the maximum is used up, one more call exceeds it
              have := hs.spent hb.2 hgave
              simp [hmax]
              omega
          | false =>
              have := hs.counter hb.2 hfin hgave
              refine ⟨fun _ => ⟨hlimit, fun _ => rfl⟩, fun _ => ⟨?_, hb.2⟩⟩
              omega
        · rw [if_neg hmax]
          exact ⟨fun _ => ⟨hlimit, fun h => absurd h hmax⟩, fun _ => hb⟩
  | reconnected attempts hr =>
      exact ⟨fun _ hl => by simp at hl, fun _ => ⟨Nat.zero_le _, hb.2⟩⟩

/-- What the other tasks do is idle. -/
theorem System.step_idle {cfg : Config} {s s' : System} {label : System.Label}
    (h : System.step cfg s label = some s') :
    (∃ l, label = .reader l ∧ Transition cfg s.client l s'.client) ∨
      Idle s.client s'.client ∧ ∀ l, label ≠ .reader l := by
  cases System.step_cases h with
  | reader label client htrans => exact .inl ⟨label, rfl, htrans⟩
  | register hr => exact .inr ⟨⟨fun hf => ⟨hf, rfl⟩, [], rfl, by simp⟩, by simp⟩
  | cancel haborted hrun =>
      refine .inr ⟨⟨fun hf => by simp [Reader.finished] at hf, [], ?_, by simp⟩, by simp⟩
      show (if s.client.reader.holdsStream then s.client.abortDispatch false
        else s.client).history = s.client.history
      split <;> rfl
  | disconnect i hidle => exact .inr ⟨⟨fun hf => ⟨hf, rfl⟩, [], rfl, by simp⟩, by simp⟩
  | advance i ok place s' hadvance =>
      have hfrozen := advance_frozen hadvance
      exact .inr ⟨⟨fun hf => ⟨by rw [← hfrozen.reader]; exact hf, by rw [hfrozen.reader]⟩, [],
        hfrozen.history, by simp⟩, by simp⟩

/-- **The maximum bounds the reconnect work of a session exactly as long as no call of `reconnect`
follows a round that gave up, and the counter stays below its limit.** -/
theorem bounded_iff_withinBudget (cfg : Config) (max : UInt8) (onReconnect : Bool)
    (labels : List System.Label) :
    Lts.Throughout (System.step (cfg.setMaxReconnectAttempts max))
        (fun s => Bounded max s.client) (.init onReconnect) labels ↔
      Lts.Along (System.step (cfg.setMaxReconnectAttempts max))
        (fun s label => ∀ l, label = .reader l → WithinBudget max s.client l)
        (.init onReconnect) labels := by
  refine Lts.throughout_iff_along (I := fun s => Counted max s.client) ?_ ?_
    (counted_init max onReconnect) ⟨Nat.zero_le _, rfl⟩ labels
  · intro s label s' hs _ h
    rcases System.step_idle h with ⟨l, -, htrans⟩ | ⟨hidle, -⟩
    · exact counted_step hs htrans.attempt
    · exact hs.idle hidle
  · intro s label s' hs hb h
    rcases System.step_idle h with ⟨l, rfl, htrans⟩ | ⟨hidle, hother⟩
    · rw [bounded_step hs hb htrans.attempt]
      refine ⟨fun hw l' hl => ?_, fun hw => hw l rfl⟩
      obtain rfl := System.Label.reader.inj hl
      exact hw
    · obtain ⟨new, hnew, hnewIdle⟩ := hidle.history
      refine ⟨fun _ l hl => absurd hl (hother l), fun _ => ?_⟩
      unfold Bounded
      rw [hnew, callsSince_idle hnewIdle, overflowedIn_idle hnewIdle]
      exact hb

/-- With a maximum of one: the session is lost, the one attempt fails, the round gives up, and the
end of the same stream starts a second round. -/
def secondRound : List System.Label :=
  [.register, .reader .proceed, .reader .streamEnd, .reader .proceed, .reader .proceed,
    .reader .proceed, .reader .proceed, .reader (.result false), .reader .proceed, .reader .proceed,
    .reader .proceed, .reader .streamEnd, .reader .proceed, .reader .proceed]

theorem not_bounded_secondRound :
    ∃ s, Lts.run (System.step (Config.new.setMaxReconnectAttempts 1)) (.init false) secondRound =
        some s ∧ callsSince s.client.history = 2 ∧ ¬ Bounded 1 s.client := by
  have hrun : ∃ s, Lts.run (System.step (Config.new.setMaxReconnectAttempts 1)) (.init false)
      secondRound = some s ∧ callsSince s.client.history = 2 := ⟨_, rfl, rfl⟩
  obtain ⟨s, hs, hcalls⟩ := hrun
  refine ⟨s, hs, hcalls, fun hb => ?_⟩
  have hle := hb.1
  rw [hcalls] at hle
  exact absurd hle (by decide)

end TfSocketio.Socketio.Async
