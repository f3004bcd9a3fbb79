import BnsNodeProofs.Relay.Validity
import BnsNodeProofs.Relay.ReturnWalk

namespace BnsNodeProofs.Relay

open MessageRelay

def forwardHops : List Did → List (Did × Option Did)
  | [] => []
  | d :: ds => (d, ds.head?) :: forwardHops ds

variable {e : MessageRelay} {current : Did} {nextHop : Option Did}

theorem relay_send_of_valid (hv : e.validate = .ok ()) (hm : e.method = .send)
    (hn : ∀ hop, e.nextHop = some hop → hop = current) (hl : e.path.length < isizeMax) :
    ∃ e', e.relay current nextHop = (.ok (), e') := by
  rw [relay_eq hv hn, hm]
  simp only [relaySend, dif_pos hl]
  exact ⟨_, rfl⟩

theorem relayAll_forwardHops {hops : List Did} (hm : e.method = .send)
    (hn : e.nextHop = hops.head?) (hc : (e.path ++ hops).Chain' (· ≠ ·))
    (hl : e.path.length + hops.length ≤ isizeMax) :
    ∃ e', e.relayAll (forwardHops hops) = (.ok (), e') ∧ e'.method = .send ∧
      e'.path = e.path ++ hops ∧ e'.pathEndCursor = e.pathEndCursor := by
  induction hops generalizing e with
  | nil => exact ⟨e, rfl, hm, by simp, rfl⟩
  | cons d ds ih =>
    have hv : e.validate = .ok () :=
      validate_eq_ok.mpr ⟨(List.chain'_append.mp hc).1, fun h => absurd (hm ▸ h) (by decide)⟩
    have hnd : ∀ hop, e.nextHop = some hop → hop = d := by simp [hn]
    obtain ⟨e₁, h₁⟩ : ∃ e₁, e.relay d ds.head? = (.ok (), e₁) :=
      relay_send_of_valid hv hm hnd (by simp only [List.length_cons] at hl; omega)
    obtain ⟨-, -, ⟨-, hs⟩ | ⟨hm', -⟩⟩ := relay_ok h₁
    · obtain ⟨hm₁, hp₁, hc₁, hn₁, -⟩ := relaySend_ok hs
      obtain ⟨e', h', hm', hp', hc'⟩ := ih (hm₁.trans hm) hn₁ (by simpa [hp₁] using hc)
        (by simp [hp₁] at hl ⊢; omega)
      refine ⟨e', ?_, hm', by simp [hp', hp₁], hc'.trans hc₁⟩
      simp only [forwardHops, relayAll, h₁]
      exact h'
    · cases hm.symm.trans hm'

/-- A request from `o` along `hops`, no two neighbours on the way equal, reaches the end of the
way with every hop succeeding; the report made there is addressed to `o`, and its return walk
goes back along the way until it first meets `o`. -/
theorem reply_retraces_request (o destination : Did) (hops : List Did)
    (hc : (o :: hops).Chain' (· ≠ ·)) (hn : hops ≠ []) (hl : hops.length < isizeMax) :
    ∃ e r, (MessageRelay.new .send [o] (by decide : 1 ≤ isizeMax) none (Nat.zero_le _) hops.head?
        destination).relayAll (forwardHops hops) = (.ok (), e) ∧
      e.path = o :: hops ∧ e.report = .ok r ∧ r.destination = o ∧
      ∀ fuel, hops.length ≤ fuel →
        (returnWalk fuel r).map (fun h => (h.1, h.2.1, h.2.2.pathEndCursor, h.2.2.nextHop)) =
          (reverseHops (o :: hops) 1).map (fun h => (h.1, .ok (), h.2.1, h.2.2)) := by
  let e₀ := MessageRelay.new .send [o] (by decide : 1 ≤ isizeMax) none (Nat.zero_le _) hops.head?
    destination
  have hl₀ : e₀.path.length + hops.length ≤ isizeMax := by simp [e₀, MessageRelay.new]; omega
  obtain ⟨e, he, hm, hp, hcur⟩ := relayAll_forwardHops (rfl : e₀.method = .send) rfl hc hl₀
  have hp' : e.path = o :: hops := hp
  have hpos : 0 < hops.length := List.length_pos.mpr hn
  have hlen : 2 ≤ e.path.length := by rw [hp', List.length_cons]; omega
  obtain ⟨r, hr, hi⟩ := report_onReturn hm (validate_eq_ok.mpr ⟨hp' ▸ hc, by simp [hm]⟩) hcur hlen
  rw [hp'] at hi
  refine ⟨e, r, he, hp', hr, by simpa using hi.destination.symm, fun fuel hf => ?_⟩
  exact hi.returnWalk_eq le_rfl (by simp; omega) fuel (by simp; omega)

theorem reply_retraces_request_two_hops :
    ([⟨0⟩, ⟨1⟩, ⟨2⟩] : List Did).Chain' (· ≠ ·) ∧ ([⟨1⟩, ⟨2⟩] : List Did) ≠ [] ∧
      ([⟨1⟩, ⟨2⟩] : List Did).length < isizeMax ∧
    ∃ e r, (MessageRelay.new .send [⟨0⟩] (by decide : 1 ≤ isizeMax) none (Nat.zero_le _) (some ⟨1⟩)
        ⟨2⟩).relayAll (forwardHops [⟨1⟩, ⟨2⟩]) = (.ok (), e) ∧
      e.path = [⟨0⟩, ⟨1⟩, ⟨2⟩] ∧ e.report = .ok r ∧ r.destination = ⟨0⟩ ∧
      ∀ fuel, 2 ≤ fuel →
        (returnWalk fuel r).map (fun h => (h.1, h.2.1, h.2.2.pathEndCursor, h.2.2.nextHop)) =
          (reverseHops [⟨0⟩, ⟨1⟩, ⟨2⟩] 1).map (fun h => (h.1, .ok (), h.2.1, h.2.2)) :=
  have hc : ([⟨0⟩, ⟨1⟩, ⟨2⟩] : List Did).Chain' (· ≠ ·) := by simp
  ⟨hc, by simp, by decide, reply_retraces_request ⟨0⟩ ⟨2⟩ [⟨1⟩, ⟨2⟩] hc (by simp) (by decide)⟩

end BnsNodeProofs.Relay
