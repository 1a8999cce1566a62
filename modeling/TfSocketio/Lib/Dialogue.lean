/-
# Dialogue: programs that ask their environment.

A program is a tree.  It is finished, with a value or with a failure, or it asks something and goes
on as the answer says.  `Runs` relates a program to the exchanges on one path through the tree and
to what it ends with, so a statement about all runs is one about every behaviour of the environment,
also about one that does not answer the same question the same way twice.

`runs_bind` and `runs_attempt` peel a composed program apart; `Agree` compares two programs in the
environments that meet a condition, and `Agree.bind` goes through a composition.
-/
import Mathlib.Data.List.Basic

namespace Dialogue

/-- A program with requests `ρ`, each with answers of its own type, failures `ε` and values `α`. -/
inductive Prog (ρ : Type) (answer : ρ → Type) (ε α : Type) : Type
  | ok (value : α)
  | error (failure : ε)
  | ask (request : ρ) (next : answer request → Prog ρ answer ε α)

variable {ρ : Type} {answer : ρ → Type} {ε α β : Type}

/-- Goes on with the value; a failure ends the whole. -/
def Prog.bind (x : Prog ρ answer ε α) (f : α → Prog ρ answer ε β) : Prog ρ answer ε β :=
  match x with
  | .ok value => f value
  | .error failure => .error failure
  | .ask request next => .ask request fun reply => (next reply).bind f

instance : Monad (Prog ρ answer ε) where
  pure := .ok
  bind := Prog.bind

/-- Asks, and returns the answer. -/
def ask (request : ρ) : Prog ρ answer ε (answer request) := .ask request .ok

/-- A computed result as a program. -/
def lift : Except ε α → Prog ρ answer ε α
  | .ok value => .ok value
  | .error failure => .error failure

/-- Makes the failure a value. -/
def attempt : Prog ρ answer ε α → Prog ρ answer ε (Except ε α)
  | .ok value => .ok (.ok value)
  | .error failure => .ok (.error failure)
  | .ask request next => .ask request fun reply => attempt (next reply)

/-- A request and its answer. -/
structure Exchange (answer : ρ → Type) where
  request : ρ
  reply : answer request

/-- The exchanges on a path through the program, and what it ends with. -/
inductive Runs : Prog ρ answer ε α → List (Exchange answer) → Except ε α → Prop
  | ok (value : α) : Runs (.ok value) [] (.ok value)
  | error (failure : ε) : Runs (.error failure) [] (.error failure)
  | ask {request : ρ} {next : answer request → Prog ρ answer ε α} (reply : answer request)
      {exchanges : List (Exchange answer)} {result : Except ε α}
      (h : Runs (next reply) exchanges result) :
      Runs (.ask request next) (⟨request, reply⟩ :: exchanges) result

/-- What has been asked. -/
def requests (exchanges : List (Exchange answer)) : List ρ := exchanges.map Exchange.request

@[simp] theorem requests_nil : requests ([] : List (Exchange answer)) = [] := rfl

@[simp] theorem requests_cons (exchange : Exchange answer) (exchanges : List (Exchange answer)) :
    requests (exchange :: exchanges) = exchange.request :: requests exchanges := rfl

@[simp] theorem requests_append (exchanges exchanges' : List (Exchange answer)) :
    requests (exchanges ++ exchanges') = requests exchanges ++ requests exchanges' :=
  List.map_append

section Runs

variable {x : Prog ρ answer ε α} {f : α → Prog ρ answer ε β} {exchanges : List (Exchange answer)}

@[simp] theorem runs_pure {value : α} {result : Except ε α} :
    Runs (pure value : Prog ρ answer ε α) exchanges result ↔
      exchanges = [] ∧ result = .ok value := by
  constructor
  · rintro ⟨⟩
    exact ⟨rfl, rfl⟩
  · rintro ⟨rfl, rfl⟩
    exact .ok value

@[simp] theorem runs_error {failure : ε} {result : Except ε α} :
    Runs (.error failure : Prog ρ answer ε α) exchanges result ↔
      exchanges = [] ∧ result = .error failure := by
  constructor
  · rintro ⟨⟩
    exact ⟨rfl, rfl⟩
  · rintro ⟨rfl, rfl⟩
    exact .error failure

@[simp] theorem runs_lift {outcome : Except ε α} {result : Except ε α} :
    Runs (lift outcome : Prog ρ answer ε α) exchanges result ↔
      exchanges = [] ∧ result = outcome := by
  cases outcome with
  | ok value => exact runs_pure
  | error failure => exact runs_error

/-- A program that asks goes on as the answer says. -/
theorem runs_asking {request : ρ} {next : answer request → Prog ρ answer ε α}
    {result : Except ε α} :
    Runs (.ask request next) exchanges result ↔
      ∃ reply rest, exchanges = ⟨request, reply⟩ :: rest ∧ Runs (next reply) rest result := by
  constructor
  · intro h
    cases h with
    | ask reply h => exact ⟨reply, _, rfl, h⟩
  · rintro ⟨reply, rest, rfl, h⟩
    exact .ask reply h

/-- **A composed program** fails with its first part, or its second part goes on behind it. -/
theorem runs_bind {result : Except ε β} :
    Runs (x >>= f) exchanges result ↔
      (∃ failure, result = .error failure ∧ Runs x exchanges (.error failure)) ∨
      ∃ value before after, exchanges = before ++ after ∧ Runs x before (.ok value) ∧
        Runs (f value) after result := by
  show Runs (x.bind f) exchanges result ↔ _
  induction x generalizing exchanges with
  | ok value =>
      constructor
      · intro h
        exact .inr ⟨value, [], exchanges, rfl, .ok value, h⟩
      · rintro (⟨failure, -, ⟨⟩⟩ | ⟨value', before, after, rfl, ⟨⟩, h⟩)
        exact h
  | error failure =>
      constructor
      · rintro ⟨⟩
        exact .inl ⟨failure, rfl, .error failure⟩
      · rintro (⟨failure', rfl, ⟨⟩⟩ | ⟨value', before, after, -, ⟨⟩, -⟩)
        exact .error failure
  | ask request next ih =>
      constructor
      · intro h
        cases h with
        | ask reply h =>
            rcases (ih reply).mp h with ⟨failure, rfl, hx⟩ | ⟨value, before, after, rfl, hx, hf⟩
            · exact .inl ⟨failure, rfl, .ask reply hx⟩
            · exact .inr ⟨value, ⟨request, reply⟩ :: before, after, rfl, .ask reply hx, hf⟩
      · rintro (⟨failure, rfl, h⟩ | ⟨value, before, after, rfl, h, hf⟩)
        · cases h with
          | ask reply hx => exact .ask reply ((ih reply).mpr (.inl ⟨failure, rfl, hx⟩))
        · cases h with
          | ask reply hx =>
              exact .ask reply ((ih reply).mpr (.inr ⟨value, _, after, rfl, hx, hf⟩))

/-- Whatever a program ends with, its attempt has it as a value. -/
theorem runs_attempt {result : Except ε (Except ε α)} :
    Runs (attempt x) exchanges result ↔ ∃ outcome, result = .ok outcome ∧
      Runs x exchanges outcome := by
  induction x generalizing exchanges with
  | ok value =>
      constructor
      · rintro ⟨⟩
        exact ⟨.ok value, rfl, .ok value⟩
      · rintro ⟨outcome, rfl, ⟨⟩⟩
        exact .ok _
  | error failure =>
      constructor
      · rintro ⟨⟩
        exact ⟨.error failure, rfl, .error failure⟩
      · rintro ⟨outcome, rfl, ⟨⟩⟩
        exact .ok _
  | ask request next ih =>
      constructor
      · intro h
        cases h with
        | ask reply h =>
            obtain ⟨outcome, rfl, hx⟩ := (ih reply).mp h
            exact ⟨outcome, rfl, .ask reply hx⟩
      · rintro ⟨outcome, rfl, h⟩
        cases h with
        | ask reply hx => exact .ask reply ((ih reply).mpr ⟨outcome, rfl, hx⟩)

end Runs

/-! ## Two programs in the same environments -/

/-- The programs have the same runs where every exchange meets the condition. -/
def Agree (G : Exchange answer → Prop) (x y : Prog ρ answer ε α) : Prop :=
  ∀ exchanges result, (∀ exchange ∈ exchanges, G exchange) →
    (Runs x exchanges result ↔ Runs y exchanges result)

section Agree

variable {G : Exchange answer → Prop}

theorem Agree.refl (x : Prog ρ answer ε α) : Agree G x x := fun _ _ _ => Iff.rfl

/-- Programs that ask the same agree when they do so behind the answers that meet the condition. -/
theorem Agree.ask {request : ρ} {next next' : answer request → Prog ρ answer ε α}
    (h : ∀ reply, G ⟨request, reply⟩ → Agree G (next reply) (next' reply)) :
    Agree G (.ask request next) (.ask request next') := by
  intro exchanges result hG
  rw [runs_asking, runs_asking]
  constructor
  · rintro ⟨reply, rest, rfl, hnext⟩
    obtain ⟨hreply, hrest⟩ := List.forall_mem_cons.mp hG
    exact ⟨reply, rest, rfl, (h reply hreply _ _ hrest).mp hnext⟩
  · rintro ⟨reply, rest, rfl, hnext⟩
    obtain ⟨hreply, hrest⟩ := List.forall_mem_cons.mp hG
    exact ⟨reply, rest, rfl, (h reply hreply _ _ hrest).mpr hnext⟩

/-- **Programs agree when their parts do**, the second at the values that the first end with. -/
theorem Agree.bind {x y : Prog ρ answer ε α} {f g : α → Prog ρ answer ε β} (h : Agree G x y)
    (hf : ∀ value exchanges, Runs x exchanges (.ok value) → Agree G (f value) (g value)) :
    Agree G (x >>= f) (y >>= g) := by
  intro exchanges result hG
  rw [runs_bind, runs_bind]
  constructor
  · rintro (⟨failure, rfl, hx⟩ | ⟨value, before, after, rfl, hx, hnext⟩)
    · exact .inl ⟨failure, rfl, (h _ _ hG).mp hx⟩
    · obtain ⟨hbefore, hafter⟩ := List.forall_mem_append.mp hG
      exact .inr ⟨value, before, after, rfl, (h _ _ hbefore).mp hx,
        (hf value before hx _ _ hafter).mp hnext⟩
  · rintro (⟨failure, rfl, hx⟩ | ⟨value, before, after, rfl, hy, hnext⟩)
    · exact .inl ⟨failure, rfl, (h _ _ hG).mpr hx⟩
    · obtain ⟨hbefore, hafter⟩ := List.forall_mem_append.mp hG
      have hx := (h _ _ hbefore).mpr hy
      exact .inr ⟨value, before, after, rfl, hx, (hf value before hx _ _ hafter).mpr hnext⟩

theorem Agree.attempt {x y : Prog ρ answer ε α} (h : Agree G x y) :
    Agree G (attempt x) (attempt y) := by
  intro exchanges result hG
  rw [runs_attempt, runs_attempt]
  constructor
  · rintro ⟨outcome, rfl, hx⟩
    exact ⟨outcome, rfl, (h _ _ hG).mp hx⟩
  · rintro ⟨outcome, rfl, hx⟩
    exact ⟨outcome, rfl, (h _ _ hG).mpr hx⟩

end Agree

end Dialogue
