import BnsNodeProofs.Relay.Step

namespace BnsNodeProofs.Relay

namespace MessageRelay

def relayAll (e : MessageRelay) : List (Did × Option Did) → Except Fault Unit × MessageRelay
  | [] => (.ok (), e)
  | (current, nextHop) :: hops =>
    match e.relay current nextHop with
    | (.ok (), e') => e'.relayAll hops
    | (.error f, e') => (.error f, e')

variable {e e' : MessageRelay} {current : Did} {nextHop : Option Did}

theorem chain'_append_singleton {l : List Did} (h : l.Chain' (· ≠ ·)) :
    (l ++ [current]).Chain' (· ≠ ·) ↔ l.getLast? ≠ some current := by
  rw [List.chain'_append]
  cases l.getLast? <;> simp [h]

theorem validate_after_relay (h : e.relay current nextHop = (.ok (), e')) :
    e'.validate = .ok () ↔ ¬(e.method = .send ∧ e.path.getLast? = some current) := by
  obtain ⟨hv, -, ⟨hm, hs⟩ | ⟨hm, hr⟩⟩ := relay_ok h
  · obtain ⟨h1, h2, -, -, -⟩ := relaySend_ok hs
    have hc := (validate_eq_ok.mp hv).1
    simp [validate_eq_ok, h1, h2, hm, chain'_append_singleton hc]
  · obtain ⟨h1, h2, h3, -⟩ := relayReport_ok hr
    simpa [validate_eq_ok, h1, h2, h3, hm] using hv

theorem relayAll_cons_validate {hop : Did × Option Did} {hops : List (Did × Option Did)}
    (h : e.relayAll (hop :: hops) = (.ok (), e')) : e.validate = .ok () := by
  unfold relayAll at h
  split at h
  · exact relay_ok_validate ‹_›
  · cases h

theorem relayAll_send {hops : List (Did × Option Did)} (hm : e.method = .send)
    (h : e.relayAll hops = (.ok (), e')) :
    e'.path = e.path ++ hops.map Prod.fst ∧ (e.validate = .ok () → e'.path.dropLast.Chain' (· ≠ ·)) := by
  induction hops generalizing e with
  | nil =>
    cases h
    exact ⟨by simp, fun hv => (validate_eq_ok.mp hv).1.init⟩
  | cons hop hops ih =>
    obtain ⟨c, n⟩ := hop
    unfold relayAll at h
    split at h
    · rename_i e₁ h₁
      obtain ⟨-, -, ⟨-, hs⟩ | ⟨hm', -⟩⟩ := relay_ok h₁
      · obtain ⟨hm₁, hp₁, -, -, -⟩ := relaySend_ok hs
        obtain ⟨ihp, ihc⟩ := ih (hm₁.trans hm) h
        refine ⟨by simp [ihp, hp₁], fun hv => ?_⟩
        cases hops with
        | nil =>
          cases h
          simpa [hp₁] using (validate_eq_ok.mp hv).1
        | cons hop' hops' => exact ihc (relayAll_cons_validate h)
      · cases hm.symm.trans hm'
    · cases h

/-- A successful `relay` leaves a valid envelope unless it pushed, onto a `SEND` path, the DID
already at its end; so successful `SEND` hops append their DIDs to the path, and the path has
no two equal neighbours but possibly its last two. -/
theorem relay_validity_up_to_last_hop :
    (∀ (e e' : MessageRelay) current nextHop, e.relay current nextHop = (.ok (), e') →
      (e'.validate = .ok () ↔ ¬(e.method = .send ∧ e.path.getLast? = some current))) ∧
    (∀ (e e' : MessageRelay) hops, e.method = .send → e.validate = .ok () →
      e.relayAll hops = (.ok (), e') →
      e'.path = e.path ++ hops.map Prod.fst ∧ e'.path.dropLast.Chain' (· ≠ ·)) :=
  ⟨fun _ _ _ _ h => validate_after_relay h,
   fun _ _ _ hm hv h => ⟨(relayAll_send hm h).1, (relayAll_send hm h).2 hv⟩⟩

theorem relay_validity_up_to_last_hop_repeated :
    let e : MessageRelay := ⟨.send, [⟨0⟩], 0, none, ⟨0⟩, by decide, by decide⟩
    let e' : MessageRelay := ⟨.send, [⟨0⟩, ⟨1⟩, ⟨1⟩], 0, none, ⟨0⟩, by decide, by decide⟩
    let hops : List (Did × Option Did) := [(⟨1⟩, none), (⟨1⟩, none)]
    e.relayAll hops = (.ok (), e') ∧ e'.validate = .error (.err .invalidRelayPath) ∧
    e'.path = e.path ++ hops.map Prod.fst ∧ e'.path.dropLast.Chain' (· ≠ ·) :=
  ⟨rfl, rfl, relay_validity_up_to_last_hop.2 ⟨.send, [⟨0⟩], 0, none, ⟨0⟩, by decide, by decide⟩
    ⟨.send, [⟨0⟩, ⟨1⟩, ⟨1⟩], 0, none, ⟨0⟩, by decide, by decide⟩ [(⟨1⟩, none), (⟨1⟩, none)]
    rfl rfl rfl⟩

/-- The path `[d]` relayed by `d` itself. -/
theorem relay_breaks_validity :
    ¬∀ (e e' : MessageRelay) current nextHop, e.validate = .ok () →
      e.relay current nextHop = (.ok (), e') → e'.validate = .ok () := by
  intro h
  have hv := h ⟨.send, [⟨0⟩], 0, none, ⟨0⟩, by decide, by decide⟩
    ⟨.send, [⟨0⟩, ⟨0⟩], 0, none, ⟨0⟩, by decide, by decide⟩ ⟨0⟩ none rfl rfl
  cases hv.symm.trans (rfl : _ = Except.error (Fault.err .invalidRelayPath))

end MessageRelay

end BnsNodeProofs.Relay
