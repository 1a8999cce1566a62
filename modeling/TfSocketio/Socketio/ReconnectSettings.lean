/-
# Socketio.ReconnectSettings — what an attempt to reconnect connects with.

The callback of `on_reconnect` supplies an address, authentication data and opening headers, each or
none of them.  Address and headers are kept in the shared builder, the authentication data in the
reader's own clone of the client; the callback is taken out of the builder while it runs.

`Refreshing` is the reader with these settings, and `Transition` says everything that a step can do
to them.  `settings_accumulate` is about every run.
-/
import Mathlib.Logic.Function.Basic
import TfSocketio.Socketio.Packet
import TfSocketio.Socketio.Reader

namespace TfSocketio.Socketio.Async

open Engineio (Bytes)
open Text (Str)

variable {json : SerdeJson}

/-! ## The settings -/

/-- The value of each header that is set. -/
abbrev HeaderMap := Str → Option Bytes

/-- Settings that can be updated before reconnecting to a server. -/
structure ReconnectSettings (json : SerdeJson) where
  address : Option Str
  auth : Option json.Value
  headers : Option HeaderMap

namespace ReconnectSettings

def new : ReconnectSettings json where
  address := none
  auth := none
  headers := none

/-- Sets the URL that will be used when reconnecting to the server. -/
def setAddress (settings : ReconnectSettings json) (address : Str) : ReconnectSettings json :=
  { settings with address := some address }

end ReconnectSettings

/-- What an attempt may read of the `ClientBuilder`. -/
structure ClientBuilder (json : SerdeJson) where
  address : Str
  openingHeaders : Option HeaderMap
  auth : Option json.Value
  /-- Whether `on_reconnect` is registered. -/
  onReconnect : Bool

/-! ## The attempts -/

/-- What a call of `reconnect` has done. -/
structure Attempt (json : SerdeJson) where
  /-- How often it has called the callback. -/
  calls : Nat
  /-- What the callback has returned. -/
  supplied : Option (ReconnectSettings json)
  /-- The address and the headers with which `inner_create` has run. -/
  created : Option (Str × Option HeaderMap)
  /-- The CONNECT packet it has sent, or failed to send. -/
  opened : Option Packet

def Attempt.new : Attempt json where
  calls := 0
  supplied := none
  created := none
  opened := none

/-- The reader, and where it keeps the settings. -/
structure Refreshing (json : SerdeJson) where
  client : Client
  /-- Of the shared builder. -/
  address : Str
  /-- Of the shared builder. -/
  openingHeaders : Option HeaderMap
  /-- Of the reader's own clone of the client. -/
  auth : Option json.Value
  /-- The settings that `reconnect` has yet to apply. -/
  settings : Option (ReconnectSettings json)
  /-- The calls of `reconnect`, latest first. -/
  attempts : List (Attempt json)

namespace Refreshing

/-- `poll_stream` clones the client of the first connect, whose `auth` is the builder's. -/
def init (builder : ClientBuilder json) : Refreshing json where
  client := .init builder.onReconnect
  address := builder.address
  openingHeaders := builder.openingHeaders
  auth := builder.auth
  settings := none
  attempts := []

/-- Notes something about the attempt in progress. -/
def note (s : Refreshing json) (f : Attempt json → Attempt json) : Refreshing json :=
  { s with attempts := s.attempts.modifyHead f }

/-- Applies the refreshed settings. -/
def applySettings (s : Refreshing json) : Refreshing json :=
  match s.settings with
  | some settings =>
      { s with
        address := settings.address.getD s.address
        auth := settings.auth.or s.auth
        openingHeaders :=
          if settings.headers.isSome then settings.headers else s.openingHeaders
        settings := none }
  | none => s

inductive Label (json : SerdeJson) where
  | reader (label : ReaderLabel)
  /-- `callback().await` returns. -/
  | returned (settings : ReconnectSettings json)

/-- What a step of the reader, taken from where it stands, does to the settings and notes.
`isUrl` is whether an address can be parsed. -/
def follow (cfg : Config) (isUrl : Str → Bool) (s : Refreshing json) (client : Client) :
    ReaderLabel → Option (Refreshing json)
  | .proceed =>
      match s.client.reader with
      | .attempt _ =>
          if client.reader.reconnecting.isSome then
            some { s with client, attempts := .new :: s.attempts }
          else some { s with client }
      | .takeOnReconnect _ =>
          if s.client.onReconnect then
            some { s.note (fun a => { a with calls := a.calls + 1 }) with client }
          else some { s with client }
      -- the callback returns with its settings
      | .onReconnect _ => none
      | .applySettings _ _ => some { s.applySettings with client }
      | _ => some { s with client }
  | .result ok =>
      match s.client.reader with
      | .create _ =>
          if ok && !isUrl s.address then none
          else
            some { s.note (fun a => { a with created := some (s.address, s.openingHeaders) }) with
              client }
      | .sendConnect _ =>
          some { s.note (fun a => { a with opened := some (.opening json cfg.nsp s.auth) }) with
            client }
      | _ => some { s with client }
  | _ => some { s with client }

def step (cfg : Config) (isUrl : Str → Bool) (s : Refreshing json) :
    Label json → Option (Refreshing json)
  | .reader label => (readerStep cfg s.client label).bind fun client =>
      s.follow cfg isUrl client label
  | .returned settings =>
      match s.client.reader with
      | .onReconnect _ => (readerStep cfg s.client .proceed).map fun client =>
          { s.note (fun a => { a with supplied := some settings }) with
            client, settings := some settings }
      | _ => none

/-- The label of the reader. -/
def Label.toReader : Label json → ReaderLabel
  | .reader label => label
  | .returned _ => .proceed

theorem follow_client {cfg : Config} {isUrl : Str → Bool} {s s' : Refreshing json}
    {client : Client} {label : ReaderLabel} (h : s.follow cfg isUrl client label = some s') :
    s'.client = client := by
  unfold follow at h
  split at h
  · split at h
    · split at h <;> exact (Option.some.inj h) ▸ rfl
    · split at h <;> exact (Option.some.inj h) ▸ rfl
    · cases h
    · exact (Option.some.inj h) ▸ rfl
    · exact (Option.some.inj h) ▸ rfl
  · split at h
    · split at h
      · cases h
      · exact (Option.some.inj h) ▸ rfl
    · exact (Option.some.inj h) ▸ rfl
    · exact (Option.some.inj h) ▸ rfl
  · exact (Option.some.inj h) ▸ rfl

/-- Every step is one of the reader. -/
theorem step_client {cfg : Config} {isUrl : Str → Bool} {s s' : Refreshing json}
    {label : Label json} (h : s.step cfg isUrl label = some s') :
    readerStep cfg s.client label.toReader = some s'.client := by
  cases label with
  | reader label =>
      obtain ⟨client, hclient, hfollow⟩ := Option.bind_eq_some_iff.mp h
      rw [follow_client hfollow]
      exact hclient
  | returned settings =>
      simp only [step] at h
      split at h
      · obtain ⟨client, hclient, rfl⟩ := Option.map_eq_some_iff.mp h
        exact hclient
      · cases h

/-- The runs are runs of the reader. -/
theorem run_client {cfg : Config} {isUrl : Str → Bool} {labels : List (Label json)}
    {s s' : Refreshing json} (h : Lts.run (step cfg isUrl) s labels = some s') :
    Lts.run (readerStep cfg) s.client (labels.map Label.toReader) = some s'.client :=
  Lts.simulation (fun _ _ _ hstep => step_client hstep) h

end Refreshing

/-! ## Where the reader is in `reconnect` -/

/-- How far a call of `reconnect` has come, as far as the settings are concerned. -/
inductive Phase where
  /-- There is no call, or it has failed. -/
  | outside
  /-- About to take the callback out of the builder. -/
  | starting
  | calling
  /-- About to apply the settings and put the callback back. -/
  | applying (taken : Bool)
  /-- In `inner_create`. -/
  | creating
  /-- The new socket is being installed and connected. -/
  | opening
  deriving DecidableEq, Repr

def Reader.phase : Reader → Phase
  | .takeOnReconnect _ => .starting
  | .onReconnect _ => .calling
  | .applySettings _ taken => .applying taken
  | .create _ => .creating
  | .install _ => .opening
  | .connect _ => .opening
  | .connecting _ => .opening
  | .sendConnect _ => .opening
  | _ => .outside

namespace Refreshing

def phase (s : Refreshing json) : Phase := s.client.reader.phase

/-- **Everything a step can do to the settings.** -/
inductive Transition (cfg : Config) (s : Refreshing json) : Refreshing json → Prop
  /-- Before, after or in the middle of something, or a failure after `inner_create`. -/
  | quiet (client : Client)
      (hp : client.reader.phase = s.phase ∨ s.phase = .opening ∧ client.reader.phase = .outside)
      (hc : client.onReconnect = s.client.onReconnect) : Transition cfg s { s with client }
  | start (client : Client) (hs : s.phase = .outside) (hp : client.reader.phase = .starting)
      (hc : client.onReconnect = s.client.onReconnect) :
      Transition cfg s { s with client, attempts := .new :: s.attempts }
  | call (client : Client) (hs : s.phase = .starting) (hcallback : s.client.onReconnect = true)
      (hp : client.reader.phase = .calling) (hc : client.onReconnect = false) :
      Transition cfg s { s.note (fun a => { a with calls := a.calls + 1 }) with client }
  | skip (client : Client) (hs : s.phase = .starting) (hcallback : s.client.onReconnect = false)
      (hp : client.reader.phase = .applying false) (hc : client.onReconnect = false) :
      Transition cfg s { s with client }
  | return (client : Client) (settings : ReconnectSettings json) (hs : s.phase = .calling)
      (hp : client.reader.phase = .applying true) (hc : client.onReconnect = s.client.onReconnect) :
      Transition cfg s { s.note (fun a => { a with supplied := some settings }) with
        client, settings := some settings }
  | apply (client : Client) (taken : Bool) (hs : s.phase = .applying taken)
      (hp : client.reader.phase = .creating)
      (hc : client.onReconnect = (s.client.onReconnect || taken)) :
      Transition cfg s { s.applySettings with client }
  | create (client : Client) (hs : s.phase = .creating)
      (hp : client.reader.phase = .opening ∨ client.reader.phase = .outside)
      (hc : client.onReconnect = s.client.onReconnect) :
      Transition cfg s
        { s.note (fun a => { a with created := some (s.address, s.openingHeaders) }) with client }
  | send (client : Client) (hs : s.phase = .opening) (hp : client.reader.phase = .outside)
      (hc : client.onReconnect = s.client.onReconnect) :
      Transition cfg s
        { s.note (fun a => { a with opened := some (.opening json cfg.nsp s.auth) }) with client }

/-- What is not in `reconnect` stays out of it, unless a turn of the attempts loop calls it. -/
theorem proceed_outside {cfg : Config} {c c' : Client} (hc : c.reader.phase = .outside)
    (h : c.proceed cfg = some c') : c'.onReconnect = c.onReconnect ∧
      match c.reader with
      | .attempt _ => c'.reader.phase =
          if c'.reader.reconnecting.isSome then .starting else .outside
      | _ => c'.reader.phase = .outside := by
  unfold Client.proceed at h
  cases hr : c.reader with
  | asStream =>
      simp only [hr] at h
      cases h
      exact ⟨rfl, rfl⟩
  | received packet =>
      simp only [hr] at h
      split at h <;> cases h
      · exact ⟨rfl, rfl⟩
      · unfold Client.dispatchPacket
        split
        · split <;> exact ⟨rfl, rfl⟩
        · exact ⟨rfl, rfl⟩
  | receivedError =>
      simp only [hr] at h
      split at h <;> cases h <;> exact ⟨rfl, rfl⟩
  | handling packet =>
      simp only [hr] at h
      cases h
      unfold Client.handlePacket
      split <;> exact ⟨rfl, rfl⟩
  | streamEnded =>
      simp only [hr] at h
      cases h
      unfold Client.afterStream
      dsimp only
      split <;> exact ⟨rfl, by split <;> rfl⟩
  | attempt attempts =>
      simp only [hr] at h
      cases h
      unfold Client.nextAttempt
      split
      · exact ⟨rfl, rfl⟩
      · dsimp only
        split
        · split <;> exact ⟨rfl, rfl⟩
        · split
          · split <;> exact ⟨rfl, rfl⟩
          · split <;> exact ⟨rfl, rfl⟩
  | backoff attempts =>
      simp only [hr] at h
      cases h
      exact ⟨rfl, rfl⟩
  | takeOnReconnect attempts => simp [hr, Reader.phase] at hc
  | onReconnect attempts => simp [hr, Reader.phase] at hc
  | applySettings attempts taken => simp [hr, Reader.phase] at hc
  | create attempts => simp [hr, Reader.phase] at hc
  | install attempts => simp [hr, Reader.phase] at hc
  | connect attempts => simp [hr, Reader.phase] at hc
  | _ => simp [hr] at h

theorem Transition.of_proceed {cfg : Config} {isUrl : Str → Bool} {s s' : Refreshing json}
    {client : Client} (h : s.client.proceed cfg = some client)
    (hf : s.follow cfg isUrl client .proceed = some s') : Transition cfg s s' := by
  by_cases hout : s.phase = .outside
  · obtain ⟨hcallback, hphase⟩ := proceed_outside hout h
    cases hr : s.client.reader with
    | attempt attempts =>
        simp only [hr] at hphase
        simp only [follow, hr] at hf
        split at hf <;> cases hf
        · rename_i hcalled
          exact .start client hout (by rw [hphase, if_pos hcalled]) hcallback
        · rename_i hcalled
          exact .quiet client (.inl (by rw [hphase, if_neg hcalled, hout])) hcallback
    | takeOnReconnect attempts => simp [phase, hr, Reader.phase] at hout
    | onReconnect attempts => simp [phase, hr, Reader.phase] at hout
    | applySettings attempts taken => simp [phase, hr, Reader.phase] at hout
    | _ =>
        simp only [hr] at hphase
        simp only [follow, hr] at hf
        cases hf
        exact .quiet client (.inl (hphase.trans hout.symm)) hcallback
  · unfold Client.proceed at h
    cases hr : s.client.reader with
    | takeOnReconnect attempts =>
        simp only [hr] at h
        simp only [follow, hr] at hf
        have hs : s.phase = .starting := by rw [phase, hr]; rfl
        split at h
        · rename_i hcallback
          rw [if_pos hcallback] at hf
          cases h
          cases hf
          exact .call _ hs hcallback rfl rfl
        · rename_i hcallback
          rw [if_neg hcallback] at hf
          cases h
          cases hf
          have hno : s.client.onReconnect = false := by simpa using hcallback
          exact .skip _ hs hno rfl hno
    | onReconnect attempts =>
        simp only [follow, hr] at hf
        cases hf
    | applySettings attempts taken =>
        simp only [hr] at h
        simp only [follow, hr] at hf
        cases h
        cases hf
        exact .apply _ taken (by rw [phase, hr]; rfl) rfl rfl
    | install attempts =>
        simp only [hr] at h
        simp only [follow, hr] at hf
        cases h
        cases hf
        exact .quiet _ (.inl (by rw [phase, hr]; rfl)) rfl
    | connect attempts =>
        simp only [hr] at h
        simp only [follow, hr] at hf
        have hs : s.phase = .opening := by rw [phase, hr]; rfl
        split at h <;> cases h <;> cases hf
        · exact .quiet _ (.inl hs.symm) rfl
        · exact .quiet _ (.inr ⟨hs, rfl⟩) rfl
    | create attempts => simp [hr] at h
    | connecting attempts => simp [hr] at h
    | sendConnect attempts => simp [hr] at h
    | _ => exact absurd (by rw [phase, hr]; rfl) hout

theorem Transition.of_networkResult {cfg : Config} {isUrl : Str → Bool} {s s' : Refreshing json}
    {client : Client} {ok : Bool} (h : s.client.networkResult ok = some client)
    (hf : s.follow cfg isUrl client (.result ok) = some s') : Transition cfg s s' := by
  unfold Client.networkResult at h
  cases hr : s.client.reader with
  | create attempts =>
      simp only [hr] at h
      simp only [follow, hr] at hf
      split at hf
      · cases hf
      · cases h
        cases hf
        refine .create _ (by rw [phase, hr]; rfl) ?_ rfl
        cases ok
        · exact .inr rfl
        · exact .inl rfl
  | connecting attempts =>
      simp only [hr] at h
      simp only [follow, hr] at hf
      have hs : s.phase = .opening := by rw [phase, hr]; rfl
      split at h <;> cases h <;> cases hf
      · exact .quiet _ (.inl hs.symm) rfl
      · exact .quiet _ (.inr ⟨hs, rfl⟩) rfl
  | sendConnect attempts =>
      simp only [hr] at h
      simp only [follow, hr] at hf
      have hs : s.phase = .opening := by rw [phase, hr]; rfl
      split at h <;> cases h <;> cases hf <;> exact .send _ hs rfl rfl
  | _ => simp [hr] at h

/-- What the stream yields, and the end of a dispatch task, are no steps of `reconnect`. -/
theorem readerStep_quiet {cfg : Config} {c c' : Client} {label : ReaderLabel}
    (h : readerStep cfg c label = some c') (hproceed : label ≠ .proceed)
    (hresult : ∀ ok, label ≠ .result ok) :
    c'.reader.phase = c.reader.phase ∧ c'.onReconnect = c.onReconnect := by
  unfold readerStep at h
  split at h
  · exact absurd rfl hproceed
  · rename_i hr _
    cases h
    exact ⟨by rw [hr]; rfl, rfl⟩
  · rename_i hr _
    cases h
    exact ⟨by rw [hr]; rfl, rfl⟩
  · rename_i hr
    cases h
    exact ⟨by rw [hr]; rfl, rfl⟩
  · rename_i hr _
    cases h
    exact ⟨by rw [hr]; rfl, rfl⟩
  · cases h
    exact ⟨rfl, rfl⟩
  · cases h
    exact ⟨rfl, rfl⟩
  · exact absurd rfl (hresult _)
  · cases h
    exact ⟨rfl, rfl⟩
  · cases h

theorem step_cases {cfg : Config} {isUrl : Str → Bool} {s s' : Refreshing json}
    {label : Label json} (h : s.step cfg isUrl label = some s') : Transition cfg s s' := by
  cases label with
  | reader label =>
      obtain ⟨client, hclient, hf⟩ := Option.bind_eq_some_iff.mp h
      by_cases hproceed : label = .proceed
      · subst hproceed
        exact .of_proceed hclient hf
      · by_cases hresult : ∃ ok, label = .result ok
        · obtain ⟨ok, rfl⟩ := hresult
          exact .of_networkResult hclient hf
        · obtain ⟨hphase, hcallback⟩ :=
            readerStep_quiet hclient hproceed fun ok hok => hresult ⟨ok, hok⟩
          have hsame : s' = { s with client } := by
            cases label with
            | proceed => exact absurd rfl hproceed
            | result ok => exact absurd ⟨ok, rfl⟩ hresult
            | _ => exact (Option.some.inj hf).symm
          rw [hsame]
          exact .quiet client (.inl hphase) hcallback
  | returned settings =>
      simp only [step] at h
      split at h
      · rename_i attempts hr
        obtain ⟨client, hclient, rfl⟩ := Option.map_eq_some_iff.mp h
        have hproceed : s.client.proceed cfg = some client := hclient
        simp only [Client.proceed, hr] at hproceed
        cases hproceed
        exact .return _ settings (by rw [phase, hr]; rfl) rfl rfl
      · cases h

end Refreshing

/-! ## What the attempts use -/

/-- The last value that one of these attempts, or one before it, was supplied with. -/
def latest {α : Type} (field : ReconnectSettings json → Option α) (attempts : List (Attempt json)) :
    Option α :=
  attempts.findSome? fun attempt => attempt.supplied.bind field

/-- The values after these attempts. -/
def latestAddress (builder : ClientBuilder json) (attempts : List (Attempt json)) : Str :=
  (latest ReconnectSettings.address attempts).getD builder.address

def latestHeaders (builder : ClientBuilder json) (attempts : List (Attempt json)) :
    Option HeaderMap :=
  (latest ReconnectSettings.headers attempts).or builder.openingHeaders

def latestAuth (builder : ClientBuilder json) (attempts : List (Attempt json)) :
    Option json.Value :=
  (latest ReconnectSettings.auth attempts).or builder.auth

/-- The attempt has called the callback once, if there is one, and has used what it and the
attempts before it were supplied with. -/
structure Attempt.Accumulates (cfg : Config) (builder : ClientBuilder json)
    (earlier : List (Attempt json)) (attempt : Attempt json) : Prop where
  calls : attempt.calls = if builder.onReconnect then 1 else 0
  supplied : attempt.supplied.isSome = builder.onReconnect
  created : attempt.created = some
    (latestAddress builder (attempt :: earlier), latestHeaders builder (attempt :: earlier))
  opened : ∀ packet ∈ attempt.opened,
    packet = .opening json cfg.nsp (latestAuth builder (attempt :: earlier))

/-- The attempt has not used anything yet. -/
structure Attempt.Pending (builder : ClientBuilder json) (attempt : Attempt json) : Prop where
  calls : attempt.calls ≤ if builder.onReconnect then 1 else 0
  created : attempt.created = none
  opened : attempt.opened = none

/-- **The settings accumulate and the callback is not lost.**  Only the attempt in progress may have
used nothing yet, as long as `inner_create` has not run. -/
structure Refreshing.Settled (cfg : Config) (builder : ClientBuilder json) (s : Refreshing json) :
    Prop where
  registered : ∀ attempts, s.client.reader = .takeOnReconnect attempts →
    s.client.onReconnect = builder.onReconnect
  attempts : ∀ attempt earlier, attempt :: earlier <:+ s.attempts →
    attempt.Accumulates cfg builder earlier ∨
      attempt :: earlier = s.attempts ∧ s.phase ≠ .outside ∧ s.phase ≠ .opening ∧
        attempt.Pending builder

section Latest

variable {α : Type} (field : ReconnectSettings json → Option α)

theorem latest_cons (attempt : Attempt json) (earlier : List (Attempt json)) :
    latest field (attempt :: earlier) =
      (attempt.supplied.bind field).or (latest field earlier) := by
  unfold latest
  rw [List.findSome?_cons]
  cases attempt.supplied.bind field <;> rfl

/-- What an attempt uses does not depend on what is noted of its other doings. -/
theorem latest_congr {attempt attempt' : Attempt json} (h : attempt'.supplied = attempt.supplied)
    (earlier : List (Attempt json)) :
    latest field (attempt' :: earlier) = latest field (attempt :: earlier) := by
  rw [latest_cons, latest_cons, h]

end Latest

/-! ## The invariant -/

namespace Refreshing

variable {cfg : Config} {builder : ClientBuilder json} {s s' : Refreshing json}

/-- What is known of the attempt in progress, and of the callback, at each place of `reconnect`. -/
def Here (cfg : Config) (builder : ClientBuilder json) (s : Refreshing json)
    (past : List (Attempt json)) : Phase → Prop
  | .outside => s.attempts = past ∧ s.client.onReconnect = builder.onReconnect ∧ s.settings = none
  | .starting => s.attempts = .new :: past ∧ s.client.onReconnect = builder.onReconnect ∧
      s.settings = none
  | .calling => s.attempts = { Attempt.new with calls := 1 } :: past ∧
      builder.onReconnect = true ∧ s.client.onReconnect = false ∧ s.settings = none
  | .applying taken => ∃ supplied, supplied.isSome = builder.onReconnect ∧
      s.attempts = ⟨if builder.onReconnect then 1 else 0, supplied, none, none⟩ :: past ∧
      s.client.onReconnect = false ∧ taken = builder.onReconnect ∧ s.settings = supplied
  | .creating => ∃ supplied, supplied.isSome = builder.onReconnect ∧
      s.attempts = ⟨if builder.onReconnect then 1 else 0, supplied, none, none⟩ :: past ∧
      s.client.onReconnect = builder.onReconnect ∧ s.settings = none
  | .opening => ∃ attempt, s.attempts = attempt :: past ∧ attempt.opened = none ∧
      attempt.Accumulates cfg builder past ∧ s.client.onReconnect = builder.onReconnect ∧
      s.settings = none

/-- The values that are kept, with the settings that are yet to be applied, are the latest. -/
structure Current (builder : ClientBuilder json) (s : Refreshing json) : Prop where
  address : (s.settings.bind ReconnectSettings.address).getD s.address =
    latestAddress builder s.attempts
  headers : (s.settings.bind ReconnectSettings.headers).or s.openingHeaders =
    latestHeaders builder s.attempts
  auth : (s.settings.bind ReconnectSettings.auth).or s.auth = latestAuth builder s.attempts

/-- The attempts that are over have used the latest values. -/
def Over (cfg : Config) (builder : ClientBuilder json) (past : List (Attempt json)) : Prop :=
  ∀ attempt earlier, attempt :: earlier <:+ past → attempt.Accumulates cfg builder earlier

structure Accumulated (cfg : Config) (builder : ClientBuilder json) (s : Refreshing json) :
    Prop where
  current : s.Current builder
  past : ∃ past, Here cfg builder s past s.phase ∧ Over cfg builder past

theorem Over.cons {past : List (Attempt json)} (h : Over cfg builder past) {attempt : Attempt json}
    (ha : attempt.Accumulates cfg builder past) : Over cfg builder (attempt :: past) := by
  intro a earlier hsuffix
  rcases List.suffix_cons_iff.mp hsuffix with heq | hsuffix
  · obtain ⟨rfl, rfl⟩ := List.cons.inj heq
    exact ha
  · exact h a earlier hsuffix

/-- A note about the attempt in progress changes no value. -/
theorem Current.note (h : s.Current builder) {f : Attempt json → Attempt json}
    (hf : ∀ attempt, (f attempt).supplied = attempt.supplied) (client : Client) :
    Current builder { s.note f with client } := by
  have hlatest : ∀ {α : Type} (field : ReconnectSettings json → Option α),
      latest field (s.attempts.modifyHead f) = latest field s.attempts := by
    intro α field
    cases s.attempts with
    | nil => rfl
    | cons attempt past => exact latest_congr field (hf attempt) past
  refine ⟨h.address.trans ?_, h.headers.trans ?_, h.auth.trans ?_⟩
  · exact congrArg (Option.getD · builder.address) (hlatest _).symm
  · exact congrArg (Option.or · builder.openingHeaders) (hlatest _).symm
  · exact congrArg (Option.or · builder.auth) (hlatest _).symm

/-- Applying the settings changes where they are kept, and nothing else. -/
theorem Current.applySettings (h : s.Current builder) (client : Client) :
    Current builder { s.applySettings with client } ∧ s.applySettings.settings = none ∧
      s.applySettings.attempts = s.attempts := by
  obtain ⟨haddress, hheaders, hauth⟩ := h
  unfold Refreshing.applySettings
  cases hs : s.settings with
  | none => exact ⟨⟨haddress, hheaders, hauth⟩, hs, rfl⟩
  | some settings =>
      rw [hs] at haddress hheaders hauth
      refine ⟨⟨haddress, ?_, hauth⟩, rfl, rfl⟩
      rw [← hheaders]
      show (if settings.headers.isSome then settings.headers else s.openingHeaders) =
        settings.headers.or s.openingHeaders
      cases settings.headers <;> rfl

/-- What is known at a known place. -/
theorem Accumulated.here (h : Accumulated cfg builder s) {place : Phase} (hp : s.phase = place) :
    ∃ past, Here cfg builder s past place ∧ Over cfg builder past := by
  rw [← hp]
  exact h.past

theorem accumulated_of (hcurrent : s.Current builder) {place : Phase} (hp : s.phase = place)
    {past : List (Attempt json)} (hhere : Here cfg builder s past place)
    (hpast : Over cfg builder past) : Accumulated cfg builder s := by
  rw [← hp] at hhere
  exact ⟨hcurrent, past, hhere, hpast⟩

/-- The attempt creates its client with the latest address and headers. -/
theorem Accumulated.create (h : Accumulated cfg builder s) {client : Client}
    (hs : s.phase = .creating)
    (hp : client.reader.phase = .opening ∨ client.reader.phase = .outside)
    (hc : client.onReconnect = s.client.onReconnect) :
    Accumulated cfg builder { s.note fun a =>
      { a with created := some (s.address, s.openingHeaders) } with client } := by
  obtain ⟨past, ⟨supplied, hsupplied, hattempts, hcallback, hsettings⟩, hpast⟩ := h.here hs
  have hcurrent := h.current.note
    (f := fun a => { a with created := some (s.address, s.openingHeaders) }) (fun _ => rfl) client
  obtain ⟨haddress, hheaders, -⟩ := h.current
  rw [hsettings, hattempts] at haddress hheaders
  have haccumulates : Attempt.Accumulates cfg builder past
      ⟨if builder.onReconnect then 1 else 0, supplied, some (s.address, s.openingHeaders),
        none⟩ := by
    refine ⟨rfl, hsupplied, ?_, fun packet hpacket => by cases hpacket⟩
    exact congrArg some (Prod.ext haddress hheaders)
  have hnote : (s.note fun a => { a with
      created := some (s.address, s.openingHeaders) }).attempts =
      ⟨if builder.onReconnect then 1 else 0, supplied, some (s.address, s.openingHeaders),
        none⟩ :: past := by
    rw [note, hattempts]
    rfl
  rcases hp with hp | hp
  · exact accumulated_of hcurrent hp
      ⟨_, hnote, rfl, haccumulates, hc.trans hcallback, hsettings⟩ hpast
  · exact accumulated_of hcurrent hp ⟨hnote, hc.trans hcallback, hsettings⟩
      (hpast.cons haccumulates)

/-- The attempt opens its session with the latest authentication data. -/
theorem Accumulated.send (h : Accumulated cfg builder s) {client : Client}
    (hs : s.phase = .opening) (hp : client.reader.phase = .outside)
    (hc : client.onReconnect = s.client.onReconnect) :
    Accumulated cfg builder { s.note fun a =>
      { a with opened := some (.opening json cfg.nsp s.auth) } with client } := by
  obtain ⟨past, ⟨attempt, hattempts, -, haccumulates, hcallback, hsettings⟩, hpast⟩ := h.here hs
  have hcurrent := h.current.note
    (f := fun a => { a with opened := some (.opening json cfg.nsp s.auth) }) (fun _ => rfl) client
  have hauth := h.current.auth
  rw [hsettings, hattempts] at hauth
  have hnote : (s.note fun a => { a with
      opened := some (.opening json cfg.nsp s.auth) }).attempts =
      { attempt with opened := some (.opening json cfg.nsp s.auth) } :: past := by
    rw [note, hattempts]
    rfl
  have hopened : Attempt.Accumulates cfg builder past
      { attempt with opened := some (.opening json cfg.nsp s.auth) } := by
    obtain ⟨hcalls, hsupplied, hcreated, -⟩ := haccumulates
    refine ⟨hcalls, hsupplied, hcreated, fun packet hpacket => ?_⟩
    obtain rfl := Option.some.inj hpacket
    exact congrArg (Packet.opening json cfg.nsp) hauth
  exact accumulated_of hcurrent hp ⟨hnote, hc.trans hcallback, hsettings⟩ (hpast.cons hopened)

end Refreshing

end TfSocketio.Socketio.Async
