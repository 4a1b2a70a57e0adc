import Mathlib.Logic.Basic
import Lockable.Http.Exchange

/-!
# What an exchange sends

An exchange **originates** one request; whatever else it sends is what a redirect has asked for. The
requests of an exchange are such a `Trail`, and it is known from its first request where it can
lead: what begins as a GET stays one.
-/

namespace Lockable.Http

variable {σ : Type} {transport : Transport σ} {r next : Request} {rs : List Request}

/-- The requests of one exchange: the one that it originates, and where redirects lead from there.
-/
inductive Trail : Request → List Request → Prop
  | last (r : Request) : Trail r [r]
  | redirected {r next : Request} {rest : List Request} {status : Nat} {location : String}
      (h : redirected r status location = .ok next) (hrest : Trail next rest) : Trail r (r :: rest)

namespace Trail

/-- A redirect never makes a POST of a GET. -/
theorem method_get_of_redirected {status : Nat} {location : String} (hr : r.method = .get)
    (h : Http.redirected r status location = .ok next) : next.method = .get := by
  rw [Http.redirected] at h
  cases hu : redirectedUrl r.url location with
  | error e =>
    rw [hu] at h
    cases h
  | ok u =>
    rw [hu] at h
    cases h
    rw [hr]
    rfl

/-- What begins as a GET stays one. -/
theorem method_get (h : Trail r rs) (hr : r.method = .get) : ∀ x ∈ rs, x.method = .get := by
  induction h with
  | last r =>
    intro x hx
    rw [List.mem_singleton.mp hx, hr]
  | redirected h _ ih =>
    intro x hx
    rcases List.mem_cons.mp hx with rfl | hx
    · exact hr
    · exact ih (method_get_of_redirected hr h) x hx

end Trail

/-- The requests that come of one, if there is one. -/
inductive Originates : Option Request → List Request → Prop
  | nothing : Originates none []
  | trail {r : Request} {rs : List Request} (h : Trail r rs) : Originates (some r) rs

/-- One request of an exchange: either the exchange ends with it, or its answer leads elsewhere and
the exchange goes on from there. -/
theorem Wire.follow_cases (transport : Transport σ) (fuel : Nat) (r : Request) (w : Wire σ) :
    (∃ (outcome : Except Breakdown (Reply × Url)) (w' : Wire σ), w'.sent = w.sent ++ [r] ∧
      w.follow transport (fuel + 1) r = (outcome, w')) ∨
    ∃ (status : Nat) (location : String) (next : Request) (w' : Wire σ),
      redirected r status location = .ok next ∧ w'.sent = w.sent ++ [r] ∧
      w.follow transport (fuel + 1) r = w'.follow transport fuel next := by
  rw [follow]
  rcases hs : w.send transport r with ⟨words | reply, w'⟩
  · exact .inl ⟨_, w', (congrArg (fun s => s.2.sent) hs).symm, rfl⟩
  · have hsent : w'.sent = w.sent ++ [r] := (congrArg (fun s => s.2.sent) hs).symm
    dsimp only
    split
    · exact .inl ⟨_, w', hsent, rfl⟩
    · split
      · exact .inl ⟨_, w', hsent, rfl⟩
      · exact .inr ⟨_, _, _, w', ‹_›, hsent, rfl⟩

/-- Following redirects sends a trail, however it ends. -/
theorem Wire.exists_trail_follow (transport : Transport σ) (fuel : Nat) (r : Request)
    (w : Wire σ) :
    ∃ rs, Trail r rs ∧ (w.follow transport (fuel + 1) r).2.sent = w.sent ++ rs := by
  induction fuel generalizing r w with
  | zero =>
    rcases follow_cases transport 0 r w with ⟨outcome, w', hsent, hfollow⟩ |
      ⟨_, _, next, w', _, hsent, hfollow⟩
    · exact ⟨[r], .last r, by rw [hfollow, hsent]⟩
    · -- there is no second request to spend
      exact ⟨[r], .last r, by rw [hfollow, follow, hsent]⟩
  | succ fuel ih =>
    rcases follow_cases transport (fuel + 1) r w with ⟨outcome, w', hsent, hfollow⟩ |
      ⟨_, _, next, w', hnext, hsent, hfollow⟩
    · exact ⟨[r], .last r, by rw [hfollow, hsent]⟩
    · obtain ⟨rs, htrail, hrest⟩ := ih next w'
      refine ⟨r :: rs, .redirected hnext htrail, ?_⟩
      rw [hfollow, hrest, hsent, List.append_assoc, List.singleton_append]

/-- An exchange sends a trail from its request, however it ends. -/
theorem Wire.exists_trail_exchange (transport : Transport σ) (r : Request) (w : Wire σ) :
    ∃ rs, Trail r rs ∧ (w.exchange transport r).2.sent = w.sent ++ rs :=
  exists_trail_follow transport maxRedirects r w

end Lockable.Http
