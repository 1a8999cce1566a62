/-
# Lts: runs of a labelled step function.

A system is a partial step function on labels; a run is a list of labels, taken from a state.
`invariant` carries what every step preserves to the end of a run, `invariant_labels` does so for a
property that also tells the labels, `invariant_along` for a run whose steps all meet a side
condition (`Along`), and `throughout_iff_along` turns "the side condition is exactly what a step
needs to keep the property" into "it is exactly what a run needs".  `simulation` carries a run over
to another system, and `insertion` compares a run with what becomes of it when labels are inserted.
`account` counts the labels of a run that increase a number, `taken_le` bounds the steps of a kind
by a rank, and `taken_cycle` repeats them without end.  `consume` runs a list of labels as far as
they are enabled.  `outputs` is what the steps of a run put out, and `ledger` says of what a run
holds that it is a queue.
-/
import Mathlib.Data.List.Basic
import Mathlib.Data.List.Induction

namespace Lts

variable {σ α : Type} {step : σ → α → Option σ}

/-- The state a list of labels leads to, if every one of them is enabled in turn. -/
def run (step : σ → α → Option σ) : σ → List α → Option σ
  | s, [] => some s
  | s, a :: as => (step s a).bind fun s' => run step s' as

@[simp] theorem run_nil (s : σ) : run step s [] = some s := rfl

theorem run_cons (s : σ) (a : α) (as : List α) :
    run step s (a :: as) = (step s a).bind fun s' => run step s' as := rfl

theorem run_append (s : σ) (as bs : List α) :
    run step s (as ++ bs) = (run step s as).bind fun s' => run step s' bs := by
  induction as generalizing s with
  | nil => rfl
  | cons a as ih =>
      rw [List.cons_append, run_cons, run_cons, Option.bind_assoc]
      congr
      funext s'
      exact ih s'

theorem run_concat {s s' s'' : σ} {as : List α} {a : α} (h : run step s as = some s')
    (ha : step s' a = some s'') : run step s (as ++ [a]) = some s'' := by
  rw [run_append, h, Option.bind_some, run_cons, ha]
  rfl

/-- **The invariant rule.** -/
theorem invariant {P : σ → Prop} (hstep : ∀ s a s', P s → step s a = some s' → P s') {s s' : σ}
    {as : List α} (h0 : P s) (h : run step s as = some s') : P s' := by
  induction as generalizing s with
  | nil =>
      obtain rfl := Option.some.inj h
      exact h0
  | cons a as ih =>
      rw [run_cons] at h
      obtain ⟨t, ht, h⟩ := Option.bind_eq_some_iff.mp h
      exact ih (hstep s a t h0 ht) h

/-- The invariant rule for a property that also tells which labels have led to the state. -/
theorem invariant_labels {P : List α → σ → Prop}
    (hstep : ∀ as s a s', P as s → step s a = some s' → P (as ++ [a]) s') {s s' : σ}
    {as : List α} (h0 : P [] s) (h : run step s as = some s') : P as s' := by
  induction as using List.reverseRecOn generalizing s' with
  | nil =>
      obtain rfl := Option.some.inj h
      exact h0
  | append_singleton as a ih =>
      rw [run_append] at h
      obtain ⟨t, ht, h⟩ := Option.bind_eq_some_iff.mp h
      rw [run_cons] at h
      obtain ⟨u, hu, h⟩ := Option.bind_eq_some_iff.mp h
      obtain rfl := Option.some.inj h
      exact hstep as t a u (ih ht) hu

/-- **The simulation rule.**  If every step is one of another system, every run is a run of it. -/
theorem simulation {τ β : Type} {step' : τ → β → Option τ} {state : σ → τ} {label : α → β}
    (hstep : ∀ s a s', step s a = some s' → step' (state s) (label a) = some (state s'))
    {s s' : σ} {as : List α} (h : run step s as = some s') :
    run step' (state s) (as.map label) = some (state s') := by
  induction as generalizing s with
  | nil =>
      obtain rfl := Option.some.inj h
      rfl
  | cons a as ih =>
      rw [run_cons] at h
      obtain ⟨t, ht, h⟩ := Option.bind_eq_some_iff.mp h
      rw [List.map_cons, run_cons, hstep s a t ht]
      exact ih h

/-- **The account of a run.**  A number that certain labels increase by one counts them. -/
theorem account {f : σ → Nat} {counts : α → Bool}
    (hstep : ∀ s a s', step s a = some s' → f s' = f s + if counts a then 1 else 0) {s s' : σ}
    {as : List α} (h : run step s as = some s') : f s' = f s + as.countP counts := by
  induction as generalizing s with
  | nil =>
      obtain rfl := Option.some.inj h
      rfl
  | cons a as ih =>
      rw [run_cons] at h
      obtain ⟨t, ht, h⟩ := Option.bind_eq_some_iff.mp h
      rw [ih h, hstep s a t ht, List.countP_cons]
      omega

/-- Every step the run takes meets a condition on its label and the state before it. -/
def Along (step : σ → α → Option σ) (G : σ → α → Prop) (s : σ) (as : List α) : Prop :=
  ∀ before a after t u, as = before ++ a :: after → run step s before = some t →
    step t a = some u → G t a

/-- Every state of the run, the first one included, has a property. -/
def Throughout (step : σ → α → Option σ) (P : σ → Prop) (s : σ) (as : List α) : Prop :=
  ∀ before after t, as = before ++ after → run step s before = some t → P t

theorem Along.nil {G : σ → α → Prop} (s : σ) : Along step G s [] := by
  intro before a after t u has
  simp at has

theorem Along.cons {G : σ → α → Prop} {s t : σ} {a : α} {as : List α} (ht : step s a = some t)
    (hG : G s a) (h : Along step G t as) : Along step G s (a :: as) := by
  intro before b after u v has hu hv
  cases before with
  | nil =>
      obtain ⟨rfl, -⟩ := List.cons.inj has
      obtain rfl := Option.some.inj hu
      exact hG
  | cons c before =>
      obtain ⟨rfl, hrest⟩ := List.cons.inj has
      rw [run_cons, ht] at hu
      exact h before b after u v hrest hu hv

theorem Along.tail {G : σ → α → Prop} {s t : σ} {a : α} {as : List α}
    (h : Along step G s (a :: as)) (ht : step s a = some t) : Along step G t as := by
  intro before b after u v has hu hv
  refine h (a :: before) b after u v (by rw [has]; rfl) ?_ hv
  rw [run_cons, ht]
  exact hu

theorem Along.before {G : σ → α → Prop} {s : σ} {before after : List α}
    (h : Along step G s (before ++ after)) : Along step G s before := by
  intro b a c t u hb ht hu
  exact h b a (c ++ after) t u (by rw [hb]; simp) ht hu

/-- The invariant rule for a run whose steps all meet a condition. -/
theorem invariant_along {P : σ → Prop} {G : σ → α → Prop}
    (hstep : ∀ s a s', P s → G s a → step s a = some s' → P s') {s s' : σ} {as : List α}
    (h0 : P s) (hG : Along step G s as) (h : run step s as = some s') : P s' := by
  induction as generalizing s with
  | nil =>
      obtain rfl := Option.some.inj h
      exact h0
  | cons a as ih =>
      rw [run_cons] at h
      obtain ⟨t, ht, h⟩ := Option.bind_eq_some_iff.mp h
      exact ih (hstep s a t h0 (hG [] a as s t rfl rfl ht) ht) (hG.tail ht) h

theorem Throughout.before {P : σ → Prop} {s : σ} {before after : List α}
    (h : Throughout step P s (before ++ after)) : Throughout step P s before := by
  intro b c t hb ht
  exact h b (c ++ after) t (by rw [hb]; simp) ht

theorem Throughout.tail {P : σ → Prop} {s t : σ} {a : α} {as : List α}
    (h : Throughout step P s (a :: as)) (ht : step s a = some t) : Throughout step P t as := by
  intro before after u has hu
  refine h (a :: before) after u (by rw [has]; rfl) ?_
  rw [run_cons, ht]
  exact hu

/-- The invariant rule for a run whose states all have a property. -/
theorem invariant_throughout {I P : σ → Prop}
    (hI : ∀ s a s', I s → P s → step s a = some s' → I s') {s s' : σ} {as : List α}
    (h0 : I s) (hP : Throughout step P s as) (h : run step s as = some s') : I s' := by
  induction as generalizing s with
  | nil =>
      obtain rfl := Option.some.inj h
      exact h0
  | cons a as ih =>
      rw [run_cons] at h
      obtain ⟨t, ht, h⟩ := Option.bind_eq_some_iff.mp h
      exact ih (hI s a t h0 (hP [] (a :: as) s rfl rfl) ht) (hP.tail ht) h

/-- A property that an enabled step keeps exactly when it meets a condition holds throughout a run
exactly when all its steps meet the condition.  An invariant may be assumed on the way. -/
theorem throughout_iff_along {I P : σ → Prop} {G : σ → α → Prop}
    (hI : ∀ s a s', I s → P s → step s a = some s' → I s')
    (hP : ∀ s a s', I s → P s → step s a = some s' → (P s' ↔ G s a)) {s : σ} (hI0 : I s)
    (hP0 : P s) (as : List α) : Throughout step P s as ↔ Along step G s as := by
  constructor
  · rintro hall before a after t u rfl ht hu
    have hIt : I t := invariant_throughout hI hI0 hall.before ht
    have hPt : P t := hall before (a :: after) t rfl ht
    have hPu : P u := hall (before ++ [a]) after u (by simp) (run_concat ht hu)
    exact (hP t a u hIt hPt hu).mp hPu
  · rintro hall before after t rfl ht
    have hboth : I t ∧ P t := by
      refine invariant_along (P := fun s => I s ∧ P s) ?_ ⟨hI0, hP0⟩ hall.before ht
      rintro u a v ⟨hIu, hPu⟩ hGu hstep
      exact ⟨hI u a v hIu hPu hstep, (hP u a v hIu hPu hstep).mpr hGu⟩
    exact hboth.2

/-! ## Runs as far as the labels are enabled -/

section Consume

/-- Takes labels from the front of a list while they are enabled, and leaves the rest. -/
def consume (step : σ → α → Option σ) : σ → List α → σ × List α
  | s, [] => (s, [])
  | s, a :: as =>
      match step s a with
      | some s' => consume step s' as
      | none => (s, a :: as)

theorem consume_of_step {s t : σ} {a : α} (ha : step s a = some t) (as : List α) :
    consume step s (a :: as) = consume step t as := by
  rw [consume, ha]

theorem consume_of_stuck {s : σ} (h : ∀ a, step s a = none) (as : List α) :
    consume step s as = (s, as) := by
  cases as with
  | nil => rfl
  | cons a as => rw [consume, h a]

/-- What is taken is a run. -/
theorem exists_run_consume (step : σ → α → Option σ) (s : σ) (as : List α) :
    ∃ taken, as = taken ++ (consume step s as).2 ∧
      run step s taken = some (consume step s as).1 := by
  induction as generalizing s with
  | nil => exact ⟨[], rfl, rfl⟩
  | cons a as ih =>
      cases ha : step s a with
      | none =>
          have hstuck : consume step s (a :: as) = (s, a :: as) := by rw [consume, ha]
          rw [hstuck]
          exact ⟨[], rfl, rfl⟩
      | some t =>
          obtain ⟨taken, htaken, hrun⟩ := ih t
          rw [consume_of_step ha]
          refine ⟨a :: taken, ?_, ?_⟩
          · rw [List.cons_append, ← htaken]
          · rw [run_cons, ha]
            exact hrun

end Consume

/-! ## What a run puts out -/

section Outputs

variable {β : Type} {out : σ → α → List β}

/-- What the steps of a run put out, one after the other. -/
def outputs (step : σ → α → Option σ) (out : σ → α → List β) : σ → List α → List β
  | _, [] => []
  | s, a :: as =>
      out s a ++
        match step s a with
        | some s' => outputs step out s' as
        | none => []

theorem outputs_cons {s t : σ} {a : α} (ha : step s a = some t) (as : List α) :
    outputs step out s (a :: as) = out s a ++ outputs step out t as := by
  rw [outputs, ha]

/-- Whatever a run puts out, one of its steps does. -/
theorem mem_outputs {b : β} {s : σ} {as : List α} (h : b ∈ outputs step out s as) :
    ∃ t, ∃ a ∈ as, b ∈ out t a := by
  induction as generalizing s with
  | nil => simp [outputs] at h
  | cons a as ih =>
      rw [outputs] at h
      rcases List.mem_append.mp h with h | h
      · exact ⟨s, a, List.mem_cons_self, h⟩
      · cases ha : step s a with
        | none => simp [ha] at h
        | some t =>
            rw [ha] at h
            obtain ⟨u, b, hb, hu⟩ := ih h
            exact ⟨u, b, List.mem_cons_of_mem _ hb, hu⟩

theorem outputs_filter (p : β → Bool) (s : σ) (as : List α) :
    outputs step (fun s a => (out s a).filter p) s as = (outputs step out s as).filter p := by
  induction as generalizing s with
  | nil => rfl
  | cons a as ih =>
      rw [outputs, outputs, List.filter_append]
      congr 1
      cases step s a with
      | none => rfl
      | some t => exact ih t

/-- **The ledger rule.**  What is held is a queue: what enters goes to its end, and what leaves
leaves it at the front. -/
theorem ledger {held : σ → List β} {enters leaves : σ → α → List β}
    (hstep : ∀ s a s', step s a = some s' → leaves s a ++ held s' = held s ++ enters s a)
    {s s' : σ} {as : List α} (h : run step s as = some s') :
    outputs step leaves s as ++ held s' = held s ++ outputs step enters s as := by
  induction as generalizing s with
  | nil =>
      obtain rfl := Option.some.inj h
      simp [outputs]
  | cons a as ih =>
      rw [run_cons] at h
      obtain ⟨t, ht, h⟩ := Option.bind_eq_some_iff.mp h
      rw [outputs_cons ht, outputs_cons ht, List.append_assoc, ih h, ← List.append_assoc,
        hstep s a t ht, List.append_assoc]

end Outputs

/-! ## Steps of a kind -/

section Taken

variable {kind : σ → α → Bool}

/-- How many steps of a kind a run takes. -/
def taken (step : σ → α → Option σ) (kind : σ → α → Bool) : σ → List α → Nat
  | _, [] => 0
  | s, a :: as =>
      (if kind s a then 1 else 0) +
        match step s a with
        | some s' => taken step kind s' as
        | none => 0

theorem taken_cons {s t : σ} {a : α} (ha : step s a = some t) (as : List α) :
    taken step kind s (a :: as) = (if kind s a then 1 else 0) + taken step kind t as := by
  rw [taken, ha]

theorem taken_append {s t : σ} {as : List α} (h : run step s as = some t) (bs : List α) :
    taken step kind s (as ++ bs) = taken step kind s as + taken step kind t bs := by
  induction as generalizing s with
  | nil =>
      obtain rfl := Option.some.inj h
      rw [List.nil_append, taken, Nat.zero_add]
  | cons a as ih =>
      rw [run_cons] at h
      obtain ⟨u, hu, h⟩ := Option.bind_eq_some_iff.mp h
      rw [List.cons_append, taken_cons hu, taken_cons hu, ih h, Nat.add_assoc]

/-- **The ranking rule.**  What lowers a rank that nothing raises is not taken more often than the
rank allows. -/
theorem taken_le {P : σ → Prop} {G : σ → α → Prop} {r : σ → Nat}
    (hstep : ∀ s a s', P s → G s a → step s a = some s' →
      P s' ∧ (if kind s a then 1 else 0) + r s' ≤ r s) {s s' : σ} {as : List α} (h0 : P s)
    (hG : Along step G s as) (h : run step s as = some s') : taken step kind s as ≤ r s := by
  induction as generalizing s with
  | nil => exact Nat.zero_le _
  | cons a as ih =>
      rw [run_cons] at h
      obtain ⟨t, ht, h⟩ := Option.bind_eq_some_iff.mp h
      obtain ⟨hPt, hrank⟩ := hstep s a t h0 (hG [] a as s t rfl rfl ht) ht
      have hrest := ih hPt (hG.tail ht) h
      rw [taken_cons ht]
      omega

/-- A run that comes back to where it started can be repeated. -/
theorem taken_cycle {s : σ} {cycle : List α} (h : run step s cycle = some s) (n : Nat) :
    run step s (List.replicate n cycle).flatten = some s ∧
      taken step kind s (List.replicate n cycle).flatten = n * taken step kind s cycle := by
  induction n with
  | zero => exact ⟨rfl, by simp [taken]⟩
  | succ n ih =>
      rw [List.replicate_succ, List.flatten_cons]
      refine ⟨?_, ?_⟩
      · rw [run_append, h]
        exact ih.1
      · rw [taken_append h, ih.2, Nat.succ_mul, Nat.add_comm]

/-- A run at whose end a number that never falls is what it was meets every condition without which
the number rises. -/
theorem along_of_eq {f : σ → Nat} {G : σ → α → Prop}
    (hmono : ∀ s a s', step s a = some s' → f s ≤ f s')
    (hG : ∀ s a s', step s a = some s' → f s' = f s → G s a) {s s' : σ} {as : List α}
    (h : run step s as = some s') (hf : f s' = f s) : Along step G s as := by
  induction as generalizing s with
  | nil => exact Along.nil s
  | cons a as ih =>
      rw [run_cons] at h
      obtain ⟨t, ht, h⟩ := Option.bind_eq_some_iff.mp h
      have hst := hmono s a t ht
      have hts : f t ≤ f s' :=
        invariant (P := fun u => f t ≤ f u)
          (fun u b v hu hv => Nat.le_trans hu (hmono u b v hv)) (Nat.le_refl _) h
      exact Along.cons ht (hG s a t ht (by omega)) (ih h (by omega))

end Taken

/-! ## Runs that read inputs -/

section Reads

variable {ι : Type} {input : α → Option ι}

/-- A run that takes its inputs, in order, from the front of a list and leaves the rest. -/
def Reads (step : σ → α → Option σ) (input : α → Option ι) (s : σ) (inputs : List ι) (s' : σ)
    (rest : List ι) : Prop :=
  ∃ as, run step s as = some s' ∧ inputs = as.filterMap input ++ rest

theorem Reads.refl (s : σ) (inputs : List ι) : Reads step input s inputs s inputs := ⟨[], rfl, rfl⟩

theorem Reads.cons {s t s' : σ} {a : α} {inputs rest : List ι} (ha : step s a = some t)
    (h : Reads step input t inputs s' rest) :
    Reads step input s ((input a).toList ++ inputs) s' rest := by
  obtain ⟨as, hrun, rfl⟩ := h
  refine ⟨a :: as, ?_, ?_⟩
  · rw [run_cons, ha]
    exact hrun
  · cases hi : input a <;> simp [hi]

/-- A step without an input. -/
theorem Reads.silent {s t s' : σ} {a : α} {inputs rest : List ι} (hi : input a = none)
    (ha : step s a = some t) (h : Reads step input t inputs s' rest) :
    Reads step input s inputs s' rest := by
  have hcons := Reads.cons ha h
  rwa [hi] at hcons

/-- A step that takes an input. -/
theorem Reads.take {s t s' : σ} {a : α} {i : ι} {inputs rest : List ι} (hi : input a = some i)
    (ha : step s a = some t) (h : Reads step input t inputs s' rest) :
    Reads step input s (i :: inputs) s' rest := by
  have hcons := Reads.cons ha h
  rwa [hi] at hcons

/-- The invariant rule, for a property of the state and of what is left to read. -/
theorem Reads.invariant {P : σ → List ι → Prop}
    (hstep : ∀ s a s' rest, P s ((input a).toList ++ rest) → step s a = some s' → P s' rest)
    {s s' : σ} {inputs rest : List ι} (h0 : P s inputs) (h : Reads step input s inputs s' rest) :
    P s' rest := by
  obtain ⟨as, hrun, rfl⟩ := h
  induction as generalizing s with
  | nil =>
      obtain rfl := Option.some.inj hrun
      exact h0
  | cons a as ih =>
      rw [run_cons] at hrun
      obtain ⟨t, ht, hrun⟩ := Option.bind_eq_some_iff.mp hrun
      have hread : P t (as.filterMap input ++ rest) := by
        apply hstep s a t _ ?_ ht
        cases hi : input a with
        | none => simpa [hi] using h0
        | some i => simpa [hi] using h0
      exact ih hrun hread

end Reads

/-! ## Runs with inserted labels -/

section Insertion

variable {β φ : Type} (inject : β → α)

/-- What a label makes of a state: nothing, where it is not enabled. -/
def attempt (step : σ → α → Option σ) (s : σ) (a : α) : σ := (step s a).getD s

/-- Takes the labels that are enabled, one after the other, and passes over those that are not. -/
def attempts (step : σ → α → Option σ) (s : σ) (as : List α) : σ := as.foldl (attempt step) s

theorem attempt_of_step {s s' : σ} {a : α} (h : step s a = some s') : attempt step s a = s' := by
  rw [attempt, h]
  rfl

theorem attempt_of_stuck {s : σ} {a : α} (h : step s a = none) : attempt step s a = s := by
  rw [attempt, h]
  rfl

/-- The labels of a run with what was inserted. -/
def inserted (trace : List (α ⊕ β)) : List α := trace.map (Sum.elim id inject)

/-- The labels of the run without. -/
def original (trace : List (α ⊕ β)) : List α := trace.filterMap Sum.getLeft?

/-- At every label of the run without, a condition on the state before it and on what is tracked of
the run with what was inserted. -/
def Beside (step : σ → α → Option σ) (track : φ → σ → α ⊕ β → φ) (G : φ → σ → α → Prop) :
    φ → σ → List (α ⊕ β) → Prop
  | _, _, [] => True
  | f, t, .inl a :: trace =>
      G f t a ∧ ∀ t', step t a = some t' → Beside step track G (track f t (.inl a)) t' trace
  | f, t, .inr b :: trace => Beside step track G (track f t (.inr b)) t trace

variable {inject}

/-- **The insertion rule.**  A run is compared with what becomes of it when labels are inserted: of
its own labels, those that are then no longer enabled are passed over.  What the two have in common
at the end they had at the beginning, if each label of the run keeps it exactly under a condition on
the state and on what is tracked, and what was inserted keeps it. -/
theorem insertion (R : φ → σ → σ → Prop) (E : σ → σ → Prop) {P : β → Prop}
    {track : φ → σ → α ⊕ β → φ} {G : φ → σ → α → Prop}
    (hkept : ∀ f s t a t', R f s t → step t a = some t' →
      R (track f t (.inl a)) (attempt step s a) t' ∧
        (E (attempt step s a) t' ↔ E s t ∧ G f t a))
    (hinserted : ∀ f s t b, P b → R f s t →
      R (track f t (.inr b)) (attempt step s (inject b)) t ∧
        (E (attempt step s (inject b)) t ↔ E s t))
    {trace : List (α ⊕ β)} (hP : ∀ b, .inr b ∈ trace → P b) {f : φ} {s t t' : σ} (h0 : R f s t)
    (h : run step t (original trace) = some t') :
    E (attempts step s (inserted inject trace)) t' ↔ E s t ∧ Beside step track G f t trace := by
  induction trace generalizing f s t with
  | nil =>
      obtain rfl := Option.some.inj h
      simp [Beside, attempts, inserted]
  | cons item trace ih =>
      have hrest : ∀ b, .inr b ∈ trace → P b := fun b hb => hP b (List.mem_cons_of_mem _ hb)
      cases item with
      | inl a =>
          change run step t (a :: original trace) = some t' at h
          rw [run_cons] at h
          obtain ⟨u, hu, h⟩ := Option.bind_eq_some_iff.mp h
          obtain ⟨hR, hE⟩ := hkept f s t a u h0 hu
          have hlater := ih hrest hR h
          show E (attempts step (attempt step s a) (inserted inject trace)) t' ↔ _
          rw [hlater, hE, Beside, and_assoc]
          simp only [hu, Option.some.injEq, forall_eq']
      | inr b =>
          obtain ⟨hR, hE⟩ := hinserted f s t b (hP b (List.mem_cons_self ..)) h0
          have hlater := ih hrest hR h
          show E (attempts step (attempt step s (inject b)) (inserted inject trace)) t' ↔ _
          rw [hlater, hE, Beside]

end Insertion

end Lts
