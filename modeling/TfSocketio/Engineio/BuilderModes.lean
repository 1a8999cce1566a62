/-
# Engineio.BuilderModes — where the blocking and the asynchronous builder do the same.

The two read the handshake differently, the one from the whole body and the other from the first
chunk, and convert the headers differently.  Behind the handshake their programs are equal.
-/
import TfSocketio.Engineio.Negotiation

namespace TfSocketio.Engineio

open Dialogue (Exchange Runs Agree)

/-- The exchange is not a response with status 200 and a body that is empty, or in pieces, or broken
off. -/
def Whole (exchange : Exchange Request.Answer) : Prop :=
  ∀ url headers response, exchange = ⟨.get url headers, .ok response⟩ → response.status = 200 →
    response.broken = none ∧ ∃ chunk, response.delivery.chunks = [chunk]

section Modes

variable {deps : Deps} {fuel fuel' : Nat} {builder : ClientBuilder}

theorem unwrapHeaders_eq (h : builder.HeadersConvert deps) :
    builder.unwrapHeaders deps = pure (builder.converted deps) := by
  unfold ClientBuilder.unwrapHeaders ClientBuilder.converted
  cases hheaders : builder.headers with
  | none => rfl
  | some headers =>
      obtain ⟨sent, hsent⟩ := h headers hheaders
      simp [hsent, Except.toOption]

theorem tryHeaders_eq (h : builder.HeadersConvert deps) :
    builder.tryHeaders deps = pure (builder.converted deps) := by
  unfold ClientBuilder.tryHeaders ClientBuilder.converted
  cases hheaders : builder.headers with
  | none => rfl
  | some headers =>
      obtain ⟨sent, hsent⟩ := h headers hheaders
      simp [hsent, Except.toOption]

theorem unwrapHeaders_eq_panicked (h : ¬ builder.HeadersConvert deps) :
    builder.unwrapHeaders deps = .error .panicked := by
  unfold ClientBuilder.HeadersConvert at h
  unfold ClientBuilder.unwrapHeaders
  cases hheaders : builder.headers with
  | none => simp [hheaders] at h
  | some headers =>
      cases hinto : headers.tryInto deps with
      | ok sent => simp [hheaders, hinto] at h
      | error e => simp [hinto]

theorem tryHeaders_eq_throw (h : ¬ builder.HeadersConvert deps) :
    ∃ e, builder.tryHeaders deps = throw e := by
  unfold ClientBuilder.HeadersConvert at h
  unfold ClientBuilder.tryHeaders
  cases hheaders : builder.headers with
  | none => simp [hheaders] at h
  | some headers =>
      cases hinto : headers.tryInto deps with
      | ok sent => simp [hheaders, hinto] at h
      | error e => exact ⟨e, by simp [hinto]⟩

/-- Where responses are whole, the first chunk is the body. -/
theorem agree_firstChunk (url : Url) (headers : Option Headers) :
    Agree Whole (Polling.pollBody url headers) (Polling.firstChunk url headers (fuel + 1)) := by
  refine Agree.ask fun hash _ => Agree.ask fun reply hwhole => ?_
  cases reply with
  | error e => exact Agree.refl _
  | ok response =>
      show Agree Whole (ok? response.check >>= Response.bytes)
        (ok? response.check >>= fun response =>
          response.firstBytes (Polling.firstChunk url headers fuel))
      refine Agree.bind (Agree.refl _) fun checked exchanges hchecked => ?_
      obtain ⟨hstatus, rfl⟩ :=
        Response.check_eq_ok.mp (ended_eq_ok.mp (runs_ok?.mp hchecked).2.symm)
      obtain ⟨hbroken, chunk, hchunks⟩ := hwhole _ _ checked rfl hstatus
      have hbody : checked.delivery.body = chunk := by simp [Delivery.body, hchunks]
      have hbytes : checked.bytes = pure chunk := by
        unfold Response.bytes
        rw [hbroken, hbody]
      have hfirst : checked.firstBytes (Polling.firstChunk url headers fuel) = pure chunk := by
        unfold Response.firstBytes
        rw [hchunks]
      rw [hbytes, hfirst]
      exact Agree.refl _

/-- The handshakes agree where the headers can be converted. -/
theorem agree_performHandshake (hfresh : builder.handshake = none)
    (hconvert : builder.HeadersConvert deps) :
    Agree Whole (builder.performHandshake deps .sync fuel)
      (builder.performHandshake deps .async (fuel' + 1)) := by
  unfold ClientBuilder.performHandshake
  rw [hfresh, unwrapHeaders_eq hconvert, tryHeaders_eq hconvert]
  change Agree Whole
    (builder.handshakeWithTransport deps (Polling.pollBody (Polling.baseUrl builder.url) _))
    (builder.handshakeWithTransport deps (Polling.firstChunk (Polling.baseUrl builder.url) _ _))
  unfold ClientBuilder.handshakeWithTransport
  rw [hfresh]
  exact Agree.bind (agree_firstChunk _ _) fun _ _ _ => Agree.refl _

/-- Where both builders do the same behind the handshake, they agree. -/
theorem agree_negotiation {next next' : ClientBuilder → Exec InnerSocket}
    (hfresh : builder.handshake = none)
    (hnext : ∀ handshake, next (builder.joined handshake) = next' (builder.joined handshake))
    (hconvert : builder.HeadersConvert deps) :
    Agree Whole (builder.performHandshake deps .sync fuel >>= next)
      (builder.performHandshake deps .async (fuel' + 1) >>= next') := by
  refine Agree.bind (agree_performHandshake hfresh hconvert) fun builder' exchanges hrun => ?_
  obtain ⟨hashes, hshakes⟩ := runs_performHandshake hfresh hrun
  obtain ⟨-, -, data, handshake, -, -, rfl⟩ := hshakes.joined builder' rfl
  rw [hnext]
  exact Agree.refl _

theorem agree_buildPolling (hfresh : builder.handshake = none)
    (hconvert : builder.HeadersConvert deps) :
    Agree Whole (builder.buildPolling deps .sync fuel)
      (builder.buildPolling deps .async (fuel' + 1)) :=
  agree_negotiation hfresh (fun _ => rfl) hconvert

theorem agree_buildWebsocketWithUpgrade (hfresh : builder.handshake = none)
    (hconvert : builder.HeadersConvert deps) :
    Agree Whole (builder.buildWebsocketWithUpgrade deps .sync fuel)
      (builder.buildWebsocketWithUpgrade deps .async (fuel' + 1)) :=
  agree_negotiation hfresh (fun _ => rfl) hconvert

theorem agree_build (hfresh : builder.handshake = none)
    (hconvert : builder.HeadersConvert deps) :
    Agree Whole (builder.build deps .sync fuel) (builder.build deps .async (fuel' + 1)) :=
  agree_negotiation hfresh (fun _ => rfl) hconvert

theorem agree_buildWithFallback (hfresh : builder.handshake = none)
    (hconvert : builder.HeadersConvert deps) :
    Agree Whole (builder.buildWithFallback deps .sync fuel)
      (builder.buildWithFallback deps .async (fuel' + 1)) := by
  refine Agree.bind (agree_build hfresh hconvert).attempt fun outcome exchanges _ => ?_
  cases outcome with
  | ok client => exact Agree.refl _
  | error failure =>
      cases failure with
      | error e => exact agree_buildPolling hfresh hconvert
      | panicked => exact Agree.refl _
      | pending => exact Agree.refl _

/-- The blocking builder panics on headers that cannot be converted. -/
theorem performHandshake_panicked (hfresh : builder.handshake = none)
    (hconvert : ¬ builder.HeadersConvert deps) :
    builder.performHandshake deps .sync fuel = .error .panicked := by
  unfold ClientBuilder.performHandshake
  rw [hfresh, unwrapHeaders_eq_panicked hconvert]
  rfl

/-- The asynchronous builder fails on headers that cannot be converted. -/
theorem performHandshake_throws (hfresh : builder.handshake = none)
    (hconvert : ¬ builder.HeadersConvert deps) :
    ∃ e, builder.performHandshake deps .async fuel = throw e := by
  obtain ⟨e, hthrow⟩ := tryHeaders_eq_throw hconvert
  refine ⟨e, ?_⟩
  unfold ClientBuilder.performHandshake
  rw [hfresh, hthrow]
  rfl

end Modes

end TfSocketio.Engineio
