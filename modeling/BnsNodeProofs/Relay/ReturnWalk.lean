import BnsNodeProofs.Relay.Step

namespace BnsNodeProofs.Relay

open MessageRelay

/-- The return walk: while `next_hop` names a node, that node relays the envelope with no
hint. Each entry is the caller, what its call returned, and the envelope after it. -/
def returnWalk : Nat → MessageRelay → List (Did × Except Fault Unit × MessageRelay)
  | 0, _ => []
  | fuel + 1, r =>
    match r.nextHop with
    | none => []
    | some hop =>
      match r.relay hop none with
      | (.ok (), r') => (hop, .ok (), r') :: returnWalk fuel r'
      | (.error f, r') => [(hop, .error f, r')]

/-- Hops `k, k + 1, …` of the return walk over the path `p` as the spec describes them: the
`k`-th hop is made by `p[n-1-k]`, sets the cursor to `k` and names `p[n-2-k]` next, unless
`p[n-1-k]` is the origin `p[0]`, whose hop sets the cursor to `n - 1` and ends the walk. -/
def reverseHops (p : List Did) (k : Nat) : List (Did × Nat × Option Did) :=
  if h : k < p.length then
    if p[p.length - 1 - k] = p[0] then [(p[p.length - 1 - k], p.length - 1, none)]
    else (p[p.length - 1 - k], k, p[p.length - 2 - k]?) :: reverseHops p (k + 1)
  else []
termination_by p.length - k

structure OnReturn (p : List Did) (k : Nat) (r : MessageRelay) : Prop where
  method : r.method = .report
  path : r.path = p
  destination : p.head? = some r.destination
  chain : p.Chain' (· ≠ ·)
  cursor : r.pathEndCursor + 1 = k
  nextHop : r.nextHop = p.reverse[k]?

variable {p : List Did} {k : Nat} {r : MessageRelay} {c : Did}

theorem findIdx?_second {a b : Did} {rest : List Did} (h : a ≠ b) :
    (a :: b :: rest).findIdx? (· == b) = some 1 := by
  simp [List.findIdx?_cons, h]

theorem chain'_getElem_ne {l : List Did} (h : l.Chain' (· ≠ ·)) (i : Nat) (hi : i + 1 < l.length) :
    l[i] ≠ l[i + 1] := by
  rw [List.chain'_iff_get] at h
  exact h i (by omega)

theorem OnReturn.validate (hi : OnReturn p k r) : r.validate = .ok () :=
  validate_eq_ok.mpr ⟨hi.path ▸ hi.chain, fun _ => hi.path ▸ hi.destination⟩

theorem OnReturn.relay_origin (hi : OnReturn p k r) (hc : r.nextHop = some c)
    (hd : c = r.destination) :
    ∃ r', r.relay c none = (.ok (), r') ∧ r'.pathEndCursor = p.length - 1 ∧ r'.nextHop = none := by
  have hlen : r.path.length ≠ 0 := by
    have := hi.destination; rw [← hi.path] at this; intro h; simp_all
  rw [relay_eq hi.validate (by simp [hc]), hi.method]
  simp only [relayReport, hc, hd, if_true, dif_neg hlen]
  exact ⟨_, rfl, by simp [hi.path], rfl⟩

theorem OnReturn.relay_next (hi : OnReturn p k r) (hk : 1 ≤ k) (hc : r.nextHop = some c)
    (hd : c ≠ r.destination) :
    ∃ r', r.relay c none = (.ok (), r') ∧ OnReturn p (k + 1) r' := by
  obtain ⟨hkn, hck⟩ := List.getElem?_eq_some_iff.mp (hi.nextHop ▸ hc)
  have hrev : p.reverse.Chain' (· ≠ ·) :=
    List.chain'_reverse.mpr (hi.chain.imp fun _ _ h => Ne.symm h)
  have hcur : r.pathEndCursor = k - 1 := by have := hi.cursor; omega
  have hdrop : r.path.reverse.drop r.pathEndCursor = p.reverse[k - 1] :: c :: p.reverse.drop (k + 1) := by
    rw [hi.path, hcur, List.drop_eq_getElem_cons (by omega), List.drop_eq_getElem_cons (by omega)]
    simp only [Nat.sub_add_cancel hk, hck]
  have hne : p.reverse[k - 1] ≠ c := by
    have := chain'_getElem_ne hrev (k - 1) (by omega)
    simpa only [Nat.sub_add_cancel hk, hck] using this
  have hpos : (r.path.reverse.drop r.pathEndCursor).findIdx? (· == c) = some 1 := by
    rw [hdrop]; exact findIdx?_second hne
  have hd' : r.nextHop ≠ some r.destination := by simpa [hc] using hd
  obtain ⟨r', hr'⟩ : ∃ r', r.relayReport c none = (.ok (), r') := relayReport_of_found hd' hpos
  refine ⟨r', by rw [relay_eq hi.validate (by simp [hc]), hi.method]; exact hr', ?_⟩
  obtain ⟨h1, h2, h3, ⟨h, -⟩ | ⟨-, h4, h5⟩⟩ := relayReport_ok hr'
  · exact absurd h hd'
  · rw [hpos, Option.getD_some] at h4
    exact ⟨h1.trans hi.method, h2.trans hi.path, h3 ▸ hi.destination, hi.chain, by omega,
      by rw [h5, h4, hi.path, Option.none_or, hcur]; congr 1; omega⟩

theorem returnWalk_of_nextHop_none (h : r.nextHop = none) (fuel : Nat) : returnWalk fuel r = [] := by
  cases fuel <;> simp [returnWalk, h]

theorem reverseHops_origin (hk : k < p.length) (h : p[p.length - 1 - k] = p[0]) :
    reverseHops p k = [(p[p.length - 1 - k], p.length - 1, none)] := by
  rw [reverseHops, dif_pos hk, if_pos h]

theorem reverseHops_next (hk : k < p.length) (h : p[p.length - 1 - k] ≠ p[0]) :
    reverseHops p k = (p[p.length - 1 - k], k, p[p.length - 2 - k]?) :: reverseHops p (k + 1) := by
  rw [reverseHops, dif_pos hk, if_neg h]

theorem OnReturn.returnWalk_eq (hi : OnReturn p k r) (hk : 1 ≤ k) (hkn : k < p.length)
    (fuel : Nat) (hf : p.length - k ≤ fuel) :
    (returnWalk fuel r).map (fun h => (h.1, h.2.1, h.2.2.pathEndCursor, h.2.2.nextHop)) =
      (reverseHops p k).map (fun h => (h.1, .ok (), h.2.1, h.2.2)) := by
  induction fuel generalizing k r with
  | zero => omega
  | succ fuel ih =>
    have hkr : k < p.reverse.length := by simpa using hkn
    have hrk : p.reverse[k] = p[p.length - 1 - k] := List.getElem_reverse _
    have hc : r.nextHop = some p[p.length - 1 - k] := by
      rw [hi.nextHop, List.getElem?_eq_getElem (by simpa using hkn), hrk]
    have h0 : p[0] = r.destination := by
      have := hi.destination; rw [List.head?_eq_getElem?, List.getElem?_eq_getElem (by omega)] at this
      exact Option.some.inj this
    by_cases ho : p[p.length - 1 - k] = p[0]
    · obtain ⟨r', hr, h1, h2⟩ := hi.relay_origin hc (ho.trans h0)
      simp [returnWalk, hc, hr, returnWalk_of_nextHop_none h2, reverseHops_origin hkn ho, h1, h2]
    · obtain ⟨r', hr, hi'⟩ := hi.relay_next hk hc (fun h => ho (h.trans h0.symm))
      have hk' : k + 1 < p.length := by
        by_contra hn
        exact ho (by congr 1; omega)
      have hn' : r'.nextHop = p[p.length - 2 - k]? := by
        rw [hi'.nextHop, List.getElem?_reverse hk']; congr 1; omega
      have hc' : r'.pathEndCursor = k := by have := hi'.cursor; omega
      simp only [returnWalk, hc, hr, List.map_cons, reverseHops_next hkn ho,
        ih hi' (by omega) hk' (by omega), hn', hc']

theorem report_onReturn {e : MessageRelay} (hm : e.method = .send) (hv : e.validate = .ok ())
    (hc : e.pathEndCursor = 0) (hn : 2 ≤ e.path.length) :
    ∃ r, e.report = .ok r ∧ OnReturn e.path 1 r := by
  have hfirst : e.path.head? = some e.path[0] := by
    rw [List.head?_eq_getElem?, List.getElem?_eq_getElem]
  have hb : e.pathEndCursor + 2 ≤ usizeMax := by rw [hc]; decide
  refine ⟨⟨.report, e.path, 0, e.path.reverse[1]?, e.path[0], e.path_length_le, Nat.zero_le _⟩,
    ?_, rfl, rfl, hfirst, (validate_eq_ok.mp hv).1, rfl, rfl⟩
  simp only [report, hm, ne_eq, not_true_eq_false, if_false, if_neg (show ¬e.path.length < 2 by omega),
    pathPrev_eq hb, hc, sender, origin_eq hfirst]

/-- The report of a valid `SEND` envelope with cursor `0` and a path `p` of `n ≥ 2` DIDs
retraces `p`: every hop of its return walk returns `Ok`, the `k`-th is made by `p[n-1-k]`,
and the walk ends at the first hop made by the origin, within `n - 1` hops. -/
theorem report_retraces_send_path (e : MessageRelay) (hm : e.method = .send)
    (hv : e.validate = .ok ()) (hc : e.pathEndCursor = 0) (hn : 2 ≤ e.path.length) :
    ∃ r, e.report = .ok r ∧ ∀ fuel, e.path.length - 1 ≤ fuel →
      (returnWalk fuel r).map (fun h => (h.1, h.2.1, h.2.2.pathEndCursor, h.2.2.nextHop)) =
        (reverseHops e.path 1).map (fun h => (h.1, .ok (), h.2.1, h.2.2)) := by
  obtain ⟨r, hr, hi⟩ := report_onReturn hm hv hc hn
  exact ⟨r, hr, fun fuel hf => hi.returnWalk_eq le_rfl (by omega) fuel (by omega)⟩

theorem report_retraces_send_path_three :
    ∃ r, (⟨.send, [⟨0⟩, ⟨1⟩, ⟨2⟩], 0, none, ⟨2⟩, by decide, by decide⟩ : MessageRelay).report = .ok r ∧
      ∀ fuel, 2 ≤ fuel →
        (returnWalk fuel r).map (fun h => (h.1, h.2.1, h.2.2.pathEndCursor, h.2.2.nextHop)) =
          (reverseHops [⟨0⟩, ⟨1⟩, ⟨2⟩] 1).map (fun h => (h.1, .ok (), h.2.1, h.2.2)) :=
  report_retraces_send_path _ rfl rfl rfl (by decide)

end BnsNodeProofs.Relay
