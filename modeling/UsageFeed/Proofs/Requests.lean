import UsageFeed.Service.Client

/-!
# `UsageFeed.Proofs.Requests` — from a call to what is sent

A request is sent as it was made, but for the user in its URL, who goes into a header.

## Contents
- `Http.Request.withUser_keeps` and `Http.Request.cleared_eq_ok_iff`, what clearing a request leaves
  as it is, and which requests are cleared.
- `Service.Client.mem_sent`, where the requests of a call come from, and
  `Service.Client.sent_eq_singleton`, when there is one.
-/

namespace UsageFeed

open Http Service

/-- A user is all that is taken out of a request. -/
theorem Http.Request.withUser_keeps (r : Request) :
    r.withUser.method = r.method ∧ r.withUser.document = r.document ∧
      r.withUser.url.query = r.url.query ∧ r.withUser.url.scheme = r.url.scheme ∧
      r.withUser.url.hasHost = r.url.hasHost := by
  unfold withUser
  split
  · exact ⟨rfl, rfl, rfl, rfl, rfl⟩
  split
  · exact ⟨rfl, rfl, rfl, rfl, rfl⟩
  simp only
  split
  · exact ⟨rfl, rfl, rfl, rfl, rfl⟩
  · refine ⟨rfl, rfl, rfl, rfl, ?_⟩
    simp only [Url.hasHost, Url.withoutUser]
    cases r.url.authority <;> rfl

/-- A request is cleared just if it goes over the web to a host and its URL can be sent. -/
theorem Http.Request.cleared_eq_ok_iff {r r' : Request} :
    r.cleared = .ok r' ↔
      (r.url.scheme.isWeb ∧ r.url.hasHost ∧ isSendable r.withUser.url) ∧ r' = r.withUser := by
  obtain ⟨-, -, -, hscheme, hhost⟩ := r.withUser_keeps
  unfold cleared
  simp only [hscheme, hhost]
  cases r.url.scheme.isWeb with
  | false => simp
  | true =>
    cases r.url.hasHost with
    | false => simp
    | true => cases isSendable r.withUser.url <;> simp [eq_comm]

/-- Questions are put behind an endpoint and change nothing else of where a call goes. -/
theorem Service.Client.requestTo_keeps (u : Url) (call : Call) :
    (requestTo u call).url.scheme = u.scheme ∧ (requestTo u call).url.hasHost = u.hasHost := by
  cases call with
  | create q => exact ⟨rfl, rfl⟩
  | update r => exact ⟨rfl, rfl⟩
  | list q =>
    unfold requestTo withQuery
    dsimp only
    split <;> exact ⟨rfl, rfl⟩

/-- What is sent with a call is its request to an endpoint, cleared. -/
theorem Service.Client.mem_sent {k : Client} {call : Call} {r : Request} (h : r ∈ k.sent call) :
    ∃ u, k.endpoint call.operation = .ok u ∧ (requestTo u call).cleared = .ok r := by
  unfold sent request at h
  cases hu : k.endpoint call.operation with
  | error f => simp [hu, Except.map] at h
  | ok u =>
    simp only [hu, Except.map] at h
    cases hcleared : (requestTo u call).cleared with
    | error f => simp [hcleared] at h
    | ok r' =>
      simp only [hcleared, List.mem_singleton] at h
      exact ⟨u, rfl, h ▸ hcleared⟩

/-- **A call to a web endpoint with a host sends one request**, if its URL can be sent. -/
theorem Service.Client.sent_eq_singleton {k : Client} {call : Call} {u : Url}
    (hu : k.endpoint call.operation = .ok u) (hweb : u.scheme.isWeb) (hhost : u.hasHost)
    (hsendable : isSendable (requestTo u call).withUser.url) :
    k.sent call = [(requestTo u call).withUser] := by
  obtain ⟨hscheme, hhost'⟩ := requestTo_keeps u call
  have hcleared : (requestTo u call).cleared = .ok (requestTo u call).withUser :=
    Http.Request.cleared_eq_ok_iff.mpr ⟨⟨hscheme ▸ hweb, hhost' ▸ hhost, hsendable⟩, rfl⟩
  unfold sent request
  simp only [hu, Except.map, hcleared]

end UsageFeed
