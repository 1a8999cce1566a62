/-
# Socketio.ReconnectLoop — how often the synchronous `reconnect` calls `do_reconnect`.

The counter of the loop is a `u8` like the maximum, and it is increased before it is compared.  So a
maximum of 255 is never exceeded: after 255 failures the next increment overflows.

`reconnectLoop` is the loop with the outcomes of the successive calls as a sequence without end;
`reconnectLoop_run` says that the poll thread takes these turns.
-/
import TfSocketio.Socketio.PollThread

namespace TfSocketio.Socketio.Sync

/-! ## The loop -/

inductive Ending where
  | returned
  | panicked
  deriving DecidableEq, Repr

/-- What a call of `reconnect` comes to: how often it has called `do_reconnect`, and whether its
counter has overflowed. -/
structure Reconnected where
  ending : Ending
  calls : Nat
  overflowed : Bool
  deriving DecidableEq, Repr

/-- The loop of `reconnect`, from a turn with the given counter and so many calls behind it; nothing
if it has not ended after so many turns. -/
def reconnectLoop (cfg : Config) (outcomes : Nat → Bool) :
    Nat → UInt8 → Nat → Bool → Option Reconnected
  | 0, _, _, _ => none
  | turns + 1, attempts, calls, overflowed =>
      let overflowed := overflowed || cfg.maxReconnectAttempts.isSome && attempts == 255
      match nextAttempt cfg attempts with
      | .sleeping attempts =>
          -- the backoff changes nothing; then comes `do_reconnect`
          if outcomes calls then some ⟨.returned, calls + 1, overflowed⟩
          else reconnectLoop cfg outcomes turns attempts (calls + 1) overflowed
      | .panicked => some ⟨.panicked, calls, overflowed⟩
      | _ => some ⟨.returned, calls, overflowed⟩

/-- `Client::reconnect`. -/
def reconnect (cfg : Config) (outcomes : Nat → Bool) (turns : Nat) : Option Reconnected :=
  if cfg.reconnect then reconnectLoop cfg outcomes turns 0 0 false
  else some ⟨.returned, 0, false⟩

/-- `reconnect` returns after so many calls, and its counter has not overflowed. -/
def Returns (cfg : Config) (outcomes : Nat → Bool) (calls : Nat) : Prop :=
  ∃ turns, reconnect cfg outcomes turns = some ⟨.returned, calls, false⟩

/-- The first `k` calls fail and the next one succeeds. -/
def FirstSuccess (outcomes : Nat → Bool) (k : Nat) : Prop :=
  outcomes k = true ∧ ∀ i < k, outcomes i = false

/-- **The allowed number of attempts.**  A maximum bounds the calls, and the first success ends
them; without a maximum only a success does. -/
def ExactlyAllowed (cfg : Config) (outcomes : Nat → Bool) : Prop :=
  match cfg.maxReconnectAttempts with
  | some max =>
      (∀ k, FirstSuccess outcomes k → Returns cfg outcomes (min max.toNat (k + 1))) ∧
        ((∀ i, outcomes i = false) → Returns cfg outcomes max.toNat)
  | none =>
      (∀ k, FirstSuccess outcomes k → Returns cfg outcomes (k + 1)) ∧
        ((∀ i, outcomes i = false) → ∀ turns, reconnect cfg outcomes turns = none)

/-! ## Turns below the maximum -/

section Turns

variable {cfg : Config} {outcomes : Nat → Bool}

/-- The counter after so many calls; without a maximum it is not increased. -/
def counter (cfg : Config) (calls : Nat) : UInt8 :=
  if cfg.maxReconnectAttempts.isSome then UInt8.ofNat calls else 0

theorem nextAttempt_counter {calls : Nat}
    (h : ∀ max ∈ cfg.maxReconnectAttempts, calls < max.toNat) :
    nextAttempt cfg (counter cfg calls) = .sleeping (counter cfg (calls + 1)) ∧
      (cfg.maxReconnectAttempts.isSome && counter cfg calls == 255) = false := by
  unfold nextAttempt counter
  cases hmax : cfg.maxReconnectAttempts with
  | none => exact ⟨rfl, rfl⟩
  | some max =>
      have hlt : calls < max.toNat := h max hmax
      have hbound := max.toNat_lt
      have hcalls : (UInt8.ofNat calls).toNat = calls :=
        UInt8.toNat_ofNat_of_lt' (show calls < 256 by omega)
      have hne : UInt8.ofNat calls ≠ 255 := by
        intro heq
        rw [heq] at hcalls
        have h255 : (255 : UInt8).toNat = 255 := rfl
        omega
      have hle : ¬ max < UInt8.ofNat calls + 1 := by
        rw [UInt8.lt_iff_toNat_lt, UInt8.toNat_add, hcalls]
        have h1 : (1 : UInt8).toNat = 1 := rfl
        omega
      refine ⟨?_, ?_⟩
      · show (if UInt8.ofNat calls = 255 ∧ cfg.overflowChecks then Poller.panicked
          else if max < UInt8.ofNat calls + 1 then .next
          else .sleeping (UInt8.ofNat calls + 1)) = .sleeping (UInt8.ofNat (calls + 1))
        rw [if_neg fun h => hne h.1, if_neg hle, UInt8.ofNat_add]
        rfl
      · show (true && UInt8.ofNat calls == 255) = false
        rw [Bool.true_and]
        exact beq_false_of_ne hne

/-- At a maximum below 255 the loop is left. -/
theorem nextAttempt_max {max : UInt8} (hmax : cfg.maxReconnectAttempts = some max)
    (hne : max ≠ 255) : nextAttempt cfg max = .next := by
  have hlt : max < max + 1 := by
    have hbound := max.toNat_lt
    have hnat : max.toNat ≠ 255 := fun heq => hne (UInt8.toNat_inj.mp heq)
    have h1 : (1 : UInt8).toNat = 1 := rfl
    rw [UInt8.lt_iff_toNat_lt, UInt8.toNat_add]
    omega
  simp [nextAttempt, hmax, hne, hlt]

/-- A turn whose call is allowed. -/
theorem reconnectLoop_succ {calls : Nat} (h : ∀ max ∈ cfg.maxReconnectAttempts,
    calls < max.toNat) (turns : Nat) :
    reconnectLoop cfg outcomes (turns + 1) (counter cfg calls) calls false =
      if outcomes calls then some ⟨.returned, calls + 1, false⟩
      else reconnectLoop cfg outcomes turns (counter cfg (calls + 1)) (calls + 1) false := by
  obtain ⟨hnext, hoverflow⟩ := nextAttempt_counter h
  rw [reconnectLoop, hnext, hoverflow]
  rfl

/-- The turns of calls that are allowed and fail. -/
theorem reconnectLoop_fails {calls : Nat} (h : ∀ max ∈ cfg.maxReconnectAttempts,
    calls ≤ max.toNat) (hfail : ∀ i < calls, outcomes i = false) (turns : Nat) :
    reconnectLoop cfg outcomes (turns + calls) 0 0 false =
      reconnectLoop cfg outcomes turns (counter cfg calls) calls false := by
  induction calls generalizing turns with
  | zero =>
      have hzero : counter cfg 0 = 0 := by unfold counter; split <;> rfl
      rw [hzero, Nat.add_zero]
  | succ calls ih =>
      have hbefore : ∀ max ∈ cfg.maxReconnectAttempts, calls < max.toNat := h
      rw [show turns + (calls + 1) = turns + 1 + calls by omega,
        ih (fun max hmax => Nat.le_of_lt (hbefore max hmax)) (fun i hi => hfail i (by omega)),
        reconnectLoop_succ hbefore, hfail calls (by omega)]
      rfl

/-- More turns do not change the end. -/
theorem reconnectLoop_mono {turns calls : Nat} {attempts : UInt8} {overflowed : Bool}
    {r : Reconnected} (h : reconnectLoop cfg outcomes turns attempts calls overflowed = some r)
    (more : Nat) :
    reconnectLoop cfg outcomes (turns + more) attempts calls overflowed = some r := by
  induction turns generalizing attempts calls overflowed with
  | zero => simp [reconnectLoop] at h
  | succ turns ih =>
      rw [show turns + 1 + more = turns + more + 1 by omega]
      rw [reconnectLoop] at h ⊢
      cases hnext : nextAttempt cfg attempts with
      | sleeping attempts' =>
          rw [hnext] at h
          by_cases hsuccess : outcomes calls = true
          · simp only [hsuccess, if_true] at h ⊢
            exact h
          · simp only [hsuccess, Bool.false_eq_true, if_false] at h ⊢
            exact ih h
      | _ =>
          rw [hnext] at h
          exact h

/-- An overflow stays. -/
theorem reconnectLoop_overflowed {turns calls : Nat} {attempts : UInt8} {r : Reconnected}
    (h : reconnectLoop cfg outcomes turns attempts calls true = some r) :
    r.overflowed = true := by
  induction turns generalizing attempts calls with
  | zero => simp [reconnectLoop] at h
  | succ turns ih =>
      rw [reconnectLoop, Bool.true_or] at h
      split at h
      · split at h
        · cases h
          rfl
        · exact ih h
      · cases h
        rfl
      · cases h
        rfl

/-! ## How the loop ends -/

variable (hreconnect : cfg.reconnect = true)
include hreconnect

/-- The first success within the maximum is the last call. -/
theorem returns_of_success {k : Nat} (h : ∀ max ∈ cfg.maxReconnectAttempts, k < max.toNat)
    (hk : FirstSuccess outcomes k) : Returns cfg outcomes (k + 1) := by
  refine ⟨1 + k, ?_⟩
  rw [reconnect, if_pos hreconnect,
    reconnectLoop_fails (fun max hmax => Nat.le_of_lt (h max hmax)) hk.2,
    reconnectLoop_succ h, if_pos hk.1]

/-- A maximum below 255 is used up and the loop returns. -/
theorem returns_of_max {max : UInt8} (hmax : cfg.maxReconnectAttempts = some max)
    (hne : max ≠ 255) (hfail : ∀ i < max.toNat, outcomes i = false) :
    Returns cfg outcomes max.toNat := by
  refine ⟨1 + max.toNat, ?_⟩
  have hall : ∀ m ∈ cfg.maxReconnectAttempts, max.toNat ≤ m.toNat := by
    intro m hm
    rw [hmax] at hm
    obtain rfl := Option.some.inj hm
    exact Nat.le_refl _
  have hcounter : counter cfg max.toNat = max := by simp [counter, hmax]
  rw [reconnect, if_pos hreconnect, reconnectLoop_fails hall hfail, hcounter, reconnectLoop,
    nextAttempt_max hmax hne]
  have hno : (cfg.maxReconnectAttempts.isSome && max == 255) = false := by
    rw [beq_false_of_ne hne, Bool.and_false]
  simp only [hno, Bool.or_false]

/-- After 255 failures the counter overflows. -/
theorem not_returns_of_overflow (hmax : cfg.maxReconnectAttempts = some 255)
    (hfail : ∀ i < 255, outcomes i = false) (calls : Nat) : ¬ Returns cfg outcomes calls := by
  rintro ⟨turns, h⟩
  have hall : ∀ m ∈ cfg.maxReconnectAttempts, 255 ≤ m.toNat := by
    intro m hm
    rw [hmax] at hm
    obtain rfl := Option.some.inj hm
    decide
  have hcounter : counter cfg 255 = 255 := by simp [counter, hmax]
  rw [reconnect, if_pos hreconnect] at h
  have hmore := reconnectLoop_mono h (1 + 255)
  rw [← Nat.add_assoc, reconnectLoop_fails hall hfail, hcounter, reconnectLoop] at hmore
  have hover : (false || cfg.maxReconnectAttempts.isSome && (255 : UInt8) == 255) = true := by
    rw [hmax]
    rfl
  rw [hover] at hmore
  split at hmore
  · split at hmore
    · cases hmore
    · cases reconnectLoop_overflowed hmore
  · cases hmore
  · cases hmore

theorem reconnectLoop_none (hmax : cfg.maxReconnectAttempts = none)
    (hfail : ∀ i, outcomes i = false) (turns : Nat) : reconnect cfg outcomes turns = none := by
  have hall : ∀ m ∈ cfg.maxReconnectAttempts, turns ≤ m.toNat := by
    intro m hm
    rw [hmax] at hm
    cases hm
  have hloop := reconnectLoop_fails hall (fun i _ => hfail i) 0
  rw [reconnect, if_pos hreconnect, ← Nat.zero_add turns, hloop]
  rfl

/-- **When the allowed number of attempts is made.**  The maximum is not 255, or one of the first
255 calls succeeds. -/
theorem exactlyAllowed_iff : ExactlyAllowed cfg outcomes ↔
    (cfg.maxReconnectAttempts = some 255 → ∃ i < 255, outcomes i = true) := by
  unfold ExactlyAllowed
  cases hmax : cfg.maxReconnectAttempts with
  | none =>
      have hall : ∀ k, ∀ m ∈ cfg.maxReconnectAttempts, k < m.toNat := by
        intro k m hm
        rw [hmax] at hm
        cases hm
      simp only [reduceCtorEq, false_imp_iff, iff_true]
      exact ⟨fun k hk => returns_of_success hreconnect (hall k) hk,
        reconnectLoop_none hreconnect hmax⟩
  | some max =>
      simp only [Option.some.injEq]
      constructor
      · rintro ⟨hsuccess, hnone⟩ rfl
        by_contra hearly
        have hfail : ∀ i < 255, outcomes i = false := by
          intro i hi
          by_contra hne
          exact hearly ⟨i, hi, by simpa using hne⟩
        by_cases hlate : ∃ i, outcomes i = true
        · have hfirst : FirstSuccess outcomes (Nat.find hlate) :=
            ⟨Nat.find_spec hlate, fun i hi => by simpa using Nat.find_min hlate hi⟩
          exact not_returns_of_overflow hreconnect hmax hfail _ (hsuccess _ hfirst)
        · refine not_returns_of_overflow hreconnect hmax hfail _ (hnone fun i => ?_)
          by_contra hne
          exact hlate ⟨i, by simpa using hne⟩
      · intro hearly
        have hbelow : (∀ i < max.toNat, outcomes i = false) → max ≠ 255 := by
          rintro hfail rfl
          obtain ⟨i, hi, hsuccess⟩ := hearly rfl
          rw [hfail i hi] at hsuccess
          cases hsuccess
        refine ⟨fun k hk => ?_, fun hfail => ?_⟩
        · by_cases hlt : k < max.toNat
          · have hall : ∀ m ∈ cfg.maxReconnectAttempts, k < m.toNat := by
              intro m hm
              rw [hmax] at hm
              obtain rfl := Option.some.inj hm
              exact hlt
            rw [Nat.min_eq_right hlt]
            exact returns_of_success hreconnect hall hk
          · have hfail : ∀ i < max.toNat, outcomes i = false := fun i hi => hk.2 i (by omega)
            rw [Nat.min_eq_left (by omega)]
            exact returns_of_max hreconnect hmax (hbelow hfail) hfail
        · exact returns_of_max hreconnect hmax (hbelow fun i _ => hfail i) fun i _ => hfail i

end Turns

/-- Two attempts are allowed, and the third would succeed. -/
theorem exactlyAllowed_two :
    ExactlyAllowed (Config.new.setMaxReconnectAttempts 2) (fun i => i == 2) :=
  (@exactlyAllowed_iff (Config.new.setMaxReconnectAttempts 2) (fun i => i == 2) rfl).mpr
    (fun h => absurd h (by decide))

/-- The largest maximum, and a server that never comes back: the 256th increment overflows. -/
theorem not_exactlyAllowed :
    ¬ ∀ (cfg : Config) (outcomes : Nat → Bool), cfg.reconnect = true →
      ExactlyAllowed cfg outcomes := by
  intro h
  obtain ⟨-, hnone⟩ := h (Config.new.setMaxReconnectAttempts 255) (fun _ => false) rfl
  exact not_returns_of_overflow rfl rfl (fun _ _ => rfl) _ (hnone fun _ => rfl)

/-! ## The poll thread -/

/-- How often the poll thread has called `do_reconnect`. -/
def Client.calls (s : Client) : Nat := s.history.count .calledDoReconnect

section PollThread

variable {cfg : Config} {s : Client} {attempts : UInt8}

theorem nextAttempt_cases (cfg : Config) (attempts : UInt8) :
    nextAttempt cfg attempts = .next ∨ nextAttempt cfg attempts = .panicked ∨
      ∃ attempts', nextAttempt cfg attempts = .sleeping attempts' := by
  unfold nextAttempt
  split
  · exact .inr (.inr ⟨_, rfl⟩)
  · split
    · exact .inr (.inl rfl)
    · split
      · exact .inl rfl
      · exact .inr (.inr ⟨_, rfl⟩)

theorem step_attempt (h : s.poller = .attempt attempts) :
    step cfg s .proceed = some { s with poller := nextAttempt cfg attempts } := by
  simp [step, Client.proceed, h]

/-- The backoff and one call of `do_reconnect`, which fails. -/
theorem run_fails (h : s.poller = .sleeping attempts) : ∃ s',
    Lts.run (step cfg) s [.proceed, .connectRaw false] = some s' ∧
      s'.poller = .attempt attempts ∧ s'.calls = s.calls + 1 := by
  refine ⟨_, by simp [Lts.run, step, Client.proceed, h]; rfl, rfl, ?_⟩
  simp [Client.calls]

/-- The backoff and one call of `do_reconnect`, which connects. -/
theorem run_succeeds (h : s.poller = .sleeping attempts) : ∃ s',
    Lts.run (step cfg) s [.proceed, .connectRaw true] = some s' ∧
      s'.poller = .installing ∧ s'.calls = s.calls + 1 := by
  refine ⟨_, by simp [Lts.run, step, Client.proceed, h]; rfl, rfl, ?_⟩
  simp [Client.calls]

/-- The poll thread takes the turns of the loop: it makes as many calls, and then it panics, polls
on, or installs the new client. -/
theorem reconnectLoop_run {outcomes : Nat → Bool} {turns calls : Nat} {overflowed : Bool}
    {r : Reconnected} (h : reconnectLoop cfg outcomes turns attempts calls overflowed = some r)
    (hs : s.poller = .attempt attempts) : ∃ labels s',
    Lts.run (step cfg) s labels = some s' ∧ s'.calls + calls = s.calls + r.calls ∧
      match r.ending with
      | .panicked => s'.poller = .panicked
      | .returned => s'.poller = .next ∨ s'.poller = .installing := by
  induction turns generalizing s attempts calls overflowed with
  | zero => simp [reconnectLoop] at h
  | succ turns ih =>
      have hstep := @step_attempt cfg s attempts hs
      rw [reconnectLoop] at h
      rcases nextAttempt_cases cfg attempts with hnext | hnext | ⟨attempts', hnext⟩
      · rw [hnext] at h hstep
        obtain rfl := Option.some.inj h
        refine ⟨[.proceed], { s with poller := .next }, ?_, rfl, .inl rfl⟩
        rw [Lts.run_cons, hstep]
        rfl
      · rw [hnext] at h hstep
        obtain rfl := Option.some.inj h
        refine ⟨[.proceed], { s with poller := .panicked }, ?_, rfl, rfl⟩
        rw [Lts.run_cons, hstep]
        rfl
      · rw [hnext] at h hstep
        by_cases hsuccess : outcomes calls = true
        · simp only [hsuccess, if_true, Option.some.injEq] at h
          subst h
          obtain ⟨s', hrun, hpoller, hcalls⟩ := @run_succeeds cfg
            { s with poller := .sleeping attempts' } attempts' rfl
          refine ⟨.proceed :: [.proceed, .connectRaw true], s', ?_, ?_, .inr hpoller⟩
          · rw [Lts.run_cons, hstep]
            exact hrun
          · rw [hcalls]
            show s.calls + 1 + calls = s.calls + (calls + 1)
            omega
        · simp only [hsuccess, Bool.false_eq_true, if_false] at h
          obtain ⟨t, hrun, hpoller, hcalls⟩ := @run_fails cfg
            { s with poller := .sleeping attempts' } attempts' rfl
          obtain ⟨labels, s', hrest, hcount, hend⟩ := ih h hpoller
          refine ⟨.proceed :: ([.proceed, .connectRaw false] ++ labels), s', ?_, ?_, hend⟩
          · rw [Lts.run_cons, hstep, Option.bind_some, Lts.run_append, hrun]
            exact hrest
          · have hcalls' : t.calls = s.calls + 1 := hcalls
            omega

end PollThread

end TfSocketio.Socketio.Sync
