import BnsNodeProofs.Relay.Step

namespace BnsNodeProofs.Relay

open MessageRelay

/-- Envelopes reachable from `MessageRelay::new(SEND, vec![o], None, nh, d)` by successful
calls of `relay`, `report` and `reset_destination`; a failed call leaves the envelope as it
was. -/
inductive Reachable (o : Did) : MessageRelay → Prop
  | new (nextHop : Option Did) (destination : Did) :
      Reachable o (MessageRelay.new .send [o] (by decide : 1 ≤ isizeMax) none (Nat.zero_le _)
        nextHop destination)
  | relay {e e' : MessageRelay} (current : Did) (nextHop : Option Did) :
      Reachable o e → e.relay current nextHop = (.ok (), e') → Reachable o e'
  | report {e r : MessageRelay} : Reachable o e → e.report = .ok r → Reachable o r
  | resetDestination {e e' : MessageRelay} (destination : Did) :
      Reachable o e → e.resetDestination destination = (.ok (), e') → Reachable o e'

structure EnvelopeInv (o : Did) (e : MessageRelay) : Prop where
  head : e.path.head? = some o
  send_cursor : e.method = .send → e.pathEndCursor = 0
  report_destination : e.method = .report → e.path.head? = some e.destination
  report_cursor : e.method = .report → e.pathEndCursor ≤ e.path.length - 1

variable {o current : Did} {nextHop : Option Did} {e e' : MessageRelay}

theorem findIdx?_drop_bound (l : List Did) (n : Nat) (current : Did) :
    n + ((l.reverse.drop n).findIdx? (· == current)).getD 0 ≤ l.length - 1 ∨
      (l.reverse.drop n).findIdx? (· == current) = none := by
  cases h : (l.reverse.drop n).findIdx? (· == current) with
  | none => exact .inr rfl
  | some i =>
    have := (List.findIdx?_eq_some_iff_findIdx_eq.mp h).1
    simp only [List.length_drop, List.length_reverse] at this
    exact .inl (by simp only [Option.getD_some]; omega)

theorem relayReport_cursor (hc : e.pathEndCursor ≤ e.path.length - 1)
    (h : e.relayReport current nextHop = (.ok (), e')) :
    e.pathEndCursor ≤ e'.pathEndCursor ∧ e'.pathEndCursor ≤ e'.path.length - 1 := by
  obtain ⟨-, hp, -, ⟨-, hc', -⟩ | ⟨-, hc', -⟩⟩ := relayReport_ok h
  · rw [hp]; omega
  · rcases findIdx?_drop_bound e.path e.pathEndCursor current with hb | hb
    · rw [hp]; omega
    · rw [hb, Option.getD_none] at hc'; rw [hp]; omega

theorem envelopeInv_relay (hi : EnvelopeInv o e) (h : e.relay current nextHop = (.ok (), e')) :
    EnvelopeInv o e' := by
  obtain ⟨-, -, ⟨hm, hs⟩ | ⟨hm, hr⟩⟩ := relay_ok h
  · obtain ⟨h1, h2, h3, -, -⟩ := relaySend_ok hs
    have hne : e'.method ≠ .report := by rw [h1, hm]; decide
    exact ⟨by simp [h2, List.head?_append, hi.head], fun _ => h3.trans (hi.send_cursor hm),
      fun h => absurd h hne, fun h => absurd h hne⟩
  · obtain ⟨h1, h2, h3, -⟩ := relayReport_ok hr
    have := relayReport_cursor (hi.report_cursor hm) hr
    exact ⟨h2 ▸ hi.head, by simp_all, fun _ => h2 ▸ h3 ▸ hi.report_destination hm,
      fun _ => this.2⟩

theorem envelopeInv_report {r : MessageRelay} (hi : EnvelopeInv o e) (h : e.report = .ok r) :
    EnvelopeInv o r := by
  obtain ⟨hm, -, h1, h2, h3, -, hs⟩ := report_ok h
  have hd : r.destination = o := by
    simp only [sender, hm, origin_eq hi.head] at hs; cases hs; rfl
  exact ⟨h2 ▸ hi.head, by simp_all, fun _ => by rw [h2, hd]; exact hi.head, fun _ => by omega⟩

theorem envelopeInv_resetDestination {destination : Did} (hi : EnvelopeInv o e)
    (h : e.resetDestination destination = (.ok (), e')) : EnvelopeInv o e' := by
  obtain ⟨hm, h1, h2, h3⟩ := resetDestination_ok h
  exact ⟨h2 ▸ hi.head, fun _ => h3.trans (hi.send_cursor hm), by simp_all, by simp_all⟩

theorem Reachable.inv (h : Reachable o e) : EnvelopeInv o e := by
  induction h with
  | new => exact ⟨rfl, fun _ => rfl, by simp [MessageRelay.new], by simp [MessageRelay.new]⟩
  | relay current nextHop _ hr ih => exact envelopeInv_relay ih hr
  | report _ hr ih => exact envelopeInv_report ih hr
  | resetDestination destination _ hr ih => exact envelopeInv_resetDestination ih hr

/-- Every envelope reachable from the one `o` creates has `o` at the head of its path; a `SEND`
envelope has cursor `0`; a `REPORT` envelope has `path[0]` as destination and its cursor
within the path, and a successful `relay` never moves that cursor back. -/
theorem reachable_envelope_inv (h : Reachable o e) :
    e.path.head? = some o ∧ (e.method = .send → e.pathEndCursor = 0) ∧
    (e.method = .report → e.path.head? = some e.destination ∧ e.pathEndCursor ≤ e.path.length - 1) ∧
    (∀ current nextHop e', e.method = .report → e.relay current nextHop = (.ok (), e') →
      e.pathEndCursor ≤ e'.pathEndCursor) := by
  have hi := h.inv
  refine ⟨hi.head, hi.send_cursor, fun hm => ⟨hi.report_destination hm, hi.report_cursor hm⟩,
    fun current nextHop e' hm hr => ?_⟩
  obtain ⟨-, -, ⟨hm', -⟩ | ⟨-, hr'⟩⟩ := relay_ok hr
  · cases hm.symm.trans hm'
  · exact (relayReport_cursor (hi.report_cursor hm) hr').1

theorem reachable_envelope_inv_report :
    let r : MessageRelay := ⟨.report, [⟨0⟩, ⟨1⟩], 0, some ⟨0⟩, ⟨0⟩, by decide, by decide⟩
    Reachable ⟨0⟩ r ∧ r.path.head? = some r.destination ∧ r.pathEndCursor ≤ r.path.length - 1 :=
  have hs : Reachable ⟨0⟩ ⟨.send, [⟨0⟩, ⟨1⟩], 0, none, ⟨1⟩, by decide, by decide⟩ :=
    .relay ⟨1⟩ none (.new none ⟨1⟩) rfl
  have h : Reachable ⟨0⟩ ⟨.report, [⟨0⟩, ⟨1⟩], 0, some ⟨0⟩, ⟨0⟩, by decide, by decide⟩ :=
    .report hs rfl
  ⟨h, (reachable_envelope_inv h).2.2.1 rfl⟩

end BnsNodeProofs.Relay
