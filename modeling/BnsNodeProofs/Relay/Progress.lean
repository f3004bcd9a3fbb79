import BnsNodeProofs.Relay.Panics
import BnsNodeProofs.Relay.ReturnWalk

namespace BnsNodeProofs.Relay

open MessageRelay

variable {e : MessageRelay} {c : Did}

theorem validate_congr {e' : MessageRelay} (hm : e'.method = e.method) (hp : e'.path = e.path)
    (hd : e'.destination = e.destination) : e'.validate = e.validate := by
  unfold validate hasAdjacentEqual
  rw [hm, hp, hd]

theorem path_ne_nil_of_report (hm : e.method = .report) (hv : e.validate = .ok ()) :
    e.path ≠ [] := fun h => by simpa [h] using (validate_eq_ok.mp hv).2 hm

theorem relay_eq_relayReport (hm : e.method = .report) (hv : e.validate = .ok ())
    (hc : e.nextHop = some c) : e.relay c none = e.relayReport c none := by
  rw [relay_eq hv (by simp [hc]), hm]

theorem returnWalk_succ_of_ok {e' : MessageRelay} (hc : e.nextHop = some c)
    (h : e.relay c none = (.ok (), e')) (n : Nat) :
    returnWalk (n + 1) e = (c, .ok (), e') :: returnWalk n e' := by
  simp only [returnWalk, hc, h]

theorem returnWalk_succ_of_error {e' : MessageRelay} {f : Fault} (hc : e.nextHop = some c)
    (h : e.relay c none = (.error f, e')) (n : Nat) : returnWalk (n + 1) e = [(c, .error f, e')] := by
  simp only [returnWalk, hc, h]

theorem relay_returnHop (hm : e.method = .report) (hv : e.validate = .ok ())
    (hc : e.nextHop = some c) :
    e.relay c none = (.error (.err .cannotInferNextHop), e) ∨
    ∃ e', e.relay c none = (.ok (), e') ∧ e'.method = .report ∧ e'.path = e.path ∧
      e'.destination = e.destination ∧
      (e'.nextHop = none ∨ e'.nextHop = e.path.reverse[e'.pathEndCursor + 1]?) := by
  rw [relay_eq_relayReport hm hv hc]
  rcases relayReport_ok_or_err c none (path_ne_nil_of_report hm hv) with ⟨e', h⟩ | h
  · obtain ⟨h1, h2, h3, ⟨-, -, hn⟩ | ⟨-, -, hn⟩⟩ := relayReport_ok h
    · exact .inr ⟨e', h, h1.trans hm, h2, h3, .inl hn⟩
    · exact .inr ⟨e', h, h1.trans hm, h2, h3, .inr (by simpa using hn)⟩
  · exact .inl h

theorem relay_settledHop (hm : e.method = .report) (hv : e.validate = .ok ())
    (hs : e.nextHop = e.path.reverse[e.pathEndCursor + 1]?) (hc : e.nextHop = some c) :
    ∃ e', e.relay c none = (.ok (), e') ∧ e'.method = .report ∧ e'.path = e.path ∧
      e'.destination = e.destination ∧
      (e'.nextHop = none ∨ e'.pathEndCursor = e.pathEndCursor + 1 ∧
        e'.nextHop = e.path.reverse[e'.pathEndCursor + 1]?) := by
  obtain ⟨hk, hck⟩ := List.getElem?_eq_some_iff.mp (hs ▸ hc)
  simp only [List.length_reverse] at hk
  have hrev : e.path.reverse.Chain' (· ≠ ·) :=
    List.chain'_reverse.mpr ((validate_eq_ok.mp hv).1.imp fun _ _ h => Ne.symm h)
  have hdrop : e.path.reverse.drop e.pathEndCursor =
      e.path.reverse[e.pathEndCursor] :: c :: e.path.reverse.drop (e.pathEndCursor + 2) := by
    rw [List.drop_eq_getElem_cons (by simp; omega), List.drop_eq_getElem_cons (by simp; omega), hck]
  have hpos : (e.path.reverse.drop e.pathEndCursor).findIdx? (· == c) = some 1 := by
    rw [hdrop]
    exact findIdx?_second (hck ▸ chain'_getElem_ne hrev _ (by simp; omega))
  rw [relay_eq_relayReport hm hv hc]
  by_cases hd : e.nextHop = some e.destination
  · have hlen : e.path.length ≠ 0 := by omega
    simp only [relayReport, if_pos hd, dif_neg hlen]
    exact ⟨_, rfl, hm, rfl, rfl, .inl rfl⟩
  · obtain ⟨e', h⟩ := relayReport_of_found hd hpos
    obtain ⟨h1, h2, h3, ⟨hd', -⟩ | ⟨-, h4, h5⟩⟩ := relayReport_ok h
    · exact absurd hd' hd
    · rw [hpos, Option.getD_some] at h4
      exact ⟨e', h, h1.trans hm, h2, h3, .inr ⟨h4, by simpa using h5⟩⟩

theorem returnWalk_settled (hm : e.method = .report) (hv : e.validate = .ok ())
    (hs : e.nextHop = e.path.reverse[e.pathEndCursor + 1]?) (fuel : Nat) :
    (e.path.length - 1 - e.pathEndCursor ≤ fuel → returnWalk (fuel + 1) e = returnWalk fuel e) ∧
    (∀ h ∈ returnWalk fuel e, h.2.1 = .ok ()) ∧
    (returnWalk fuel e).length ≤ e.path.length - 1 - e.pathEndCursor := by
  induction fuel generalizing e with
  | zero =>
    refine ⟨fun hf => ?_, by simp [returnWalk], by simp [returnWalk]⟩
    rw [returnWalk_of_nextHop_none (by rw [hs]; simp; omega)]
    rfl
  | succ fuel ih =>
    cases hc : e.nextHop with
    | none => simp [returnWalk_of_nextHop_none hc]
    | some c =>
      obtain ⟨hk, -⟩ := List.getElem?_eq_some_iff.mp (hs ▸ hc)
      simp only [List.length_reverse] at hk
      obtain ⟨e', h, hm', hp', hd', hn'⟩ := relay_settledHop hm hv hs hc
      have hv' : e'.validate = .ok () := (validate_congr (hm'.trans hm.symm) hp' hd').trans hv
      rw [returnWalk_succ_of_ok hc h, returnWalk_succ_of_ok hc h]
      rcases hn' with hn' | ⟨hc', hn'⟩
      · have hnil : ∀ n, returnWalk n e' = [] := returnWalk_of_nextHop_none hn'
        refine ⟨fun _ => by rw [hnil, hnil], fun x hx => ?_, by simp [hnil]; omega⟩
        rw [hnil, List.mem_singleton] at hx
        rw [hx]
      · obtain ⟨ihs, iho, ihl⟩ := ih hm' hv' (by rw [hn', hp'])
        rw [hp', hc'] at ihs ihl
        refine ⟨fun hf => by rw [ihs (by omega)], fun h hh => ?_, by simp; omega⟩
        rcases List.mem_cons.mp hh with rfl | hh
        · rfl
        · exact iho h hh

/-- The return walk from every valid `REPORT` envelope stops by itself within `path.length`
hops. Every hop returns `Ok` or `CannotInferNextHop`, so none panics, and only the first can
fail. -/
theorem report_walk_terminates (e : MessageRelay) (hm : e.method = .report)
    (hv : e.validate = .ok ()) (fuel : Nat) (hf : e.path.length ≤ fuel) :
    returnWalk (fuel + 1) e = returnWalk fuel e ∧
    (∀ h ∈ returnWalk fuel e, h.2.1 = .ok () ∨ h.2.1 = .error (.err .cannotInferNextHop)) ∧
    (∀ h ∈ (returnWalk fuel e).tail, h.2.1 = .ok ()) ∧
    (returnWalk fuel e).length ≤ e.path.length := by
  have hlen : 0 < e.path.length := List.length_pos.mpr (path_ne_nil_of_report hm hv)
  obtain ⟨fuel, rfl⟩ : ∃ n, fuel = n + 1 := ⟨fuel - 1, by omega⟩
  cases hc : e.nextHop with
  | none => simp [returnWalk_of_nextHop_none hc]
  | some c =>
    rcases relay_returnHop hm hv hc with h | ⟨e', h, hm', hp', hd', hn'⟩
    · have hw := returnWalk_succ_of_error hc h
      refine ⟨by rw [hw, hw], fun x hx => ?_, by simp [hw], by rw [hw]; simp; omega⟩
      rw [hw, List.mem_singleton] at hx
      exact .inr (by rw [hx])
    · rw [returnWalk_succ_of_ok hc h, returnWalk_succ_of_ok hc h]
      rcases hn' with hn' | hn'
      · simp [returnWalk_of_nextHop_none hn']
        omega
      · have hv' : e'.validate = .ok () := (validate_congr (hm'.trans hm.symm) hp' hd').trans hv
        obtain ⟨hs, ho, hl⟩ := returnWalk_settled hm' hv' (by rw [hn', hp']) fuel
        rw [hp'] at hs hl
        refine ⟨by rw [hs (by omega)], fun x hx => ?_, ho, by simp; omega⟩
        rcases List.mem_cons.mp hx with rfl | hx
        · exact .inl rfl
        · exact .inl (ho x hx)

theorem report_walk_terminates_stalled :
    let r : MessageRelay := ⟨.report, [⟨0⟩, ⟨1⟩, ⟨2⟩], 0, some ⟨2⟩, ⟨0⟩, by decide, by decide⟩
    r.method = .report ∧ r.validate = .ok () ∧ r.path.length ≤ 3 ∧
    (returnWalk (3 + 1) r = returnWalk 3 r ∧
      (∀ h ∈ returnWalk 3 r, h.2.1 = .ok () ∨ h.2.1 = .error (.err .cannotInferNextHop)) ∧
      (∀ h ∈ (returnWalk 3 r).tail, h.2.1 = .ok ()) ∧
      (returnWalk 3 r).length ≤ r.path.length) :=
  ⟨rfl, rfl, le_rfl, report_walk_terminates
    ⟨.report, [⟨0⟩, ⟨1⟩, ⟨2⟩], 0, some ⟨2⟩, ⟨0⟩, by decide, by decide⟩ rfl rfl 3 le_rfl⟩

end BnsNodeProofs.Relay
