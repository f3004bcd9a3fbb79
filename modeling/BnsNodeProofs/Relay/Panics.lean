import BnsNodeProofs.Relay.Step

namespace BnsNodeProofs.Relay

namespace MessageRelay

variable {e : MessageRelay} {current : Did} {nextHop : Option Did}

theorem validate_panic_iff {p : Panic} :
    e.validate = .error (.panic p) ↔ e.method = .report ∧ e.path = [] ∧ p = .indexOutOfBounds := by
  rcases e with ⟨m, path, c, n, d, _, _⟩
  unfold validate
  cases m <;> cases path with
  | nil => simp [hasAdjacentEqual, eq_comm]
  | cons a l =>
    by_cases ha : hasAdjacentEqual (a :: l)
    · simp [ha]
    · by_cases hd : a = d
      · subst hd; simp [ha]
      · simp [ha, hd]

theorem origin_panic_iff {p : Panic} : e.origin = .error (.panic p) ↔ e.path = [] ∧ p = .unwrapNone := by
  unfold origin
  cases e.path <;> simp [eq_comm]

theorem sender_panic_iff {p : Panic} : e.sender = .error (.panic p) ↔ e.path = [] ∧ p = .unwrapNone := by
  unfold sender
  cases e.method
  · exact origin_panic_iff
  · cases hp : e.path.getLast? with
    | none => simp [List.getLast?_eq_none_iff.mp hp, eq_comm]
    | some d => simp only [reduceCtorEq, false_iff, not_and]; intro h; simp [h] at hp

theorem relayReport_ok_or_err (current : Did) (nextHop : Option Did) (hne : e.path ≠ []) :
    (∃ e', e.relayReport current nextHop = (.ok (), e')) ∨
      e.relayReport current nextHop = (.error (.err .cannotInferNextHop), e) := by
  by_cases hd : e.nextHop = some e.destination
  · left
    simp only [relayReport, if_pos hd, dif_neg (by simpa using hne : ¬e.path.length = 0)]
    exact ⟨_, rfl⟩
  · cases hpos : (e.path.reverse.drop e.pathEndCursor).findIdx? (· == current) with
    | some pos => exact .inl (relayReport_of_found hd hpos)
    | none =>
      cases nextHop with
      | none => exact .inr (by simp [relayReport, hd, hpos])
      | some hop =>
        left
        simp only [relayReport, if_neg hd, hpos, advanceCursor]
        exact ⟨_, rfl⟩

theorem relay_panic_iff :
    (∃ p e', e.relay current nextHop = (.error (.panic p), e')) ↔
      e.method = .report ∧ e.path = [] ∨
      e.method = .send ∧ e.validate = .ok () ∧ (∀ hop, e.nextHop = some hop → hop = current) ∧
        e.path.length = isizeMax := by
  constructor
  · rintro ⟨p, e', h⟩
    cases hv : e.validate with
    | error f =>
      rw [relay_of_not_validate hv] at h
      cases h
      exact .inl ⟨(validate_panic_iff.mp hv).1, (validate_panic_iff.mp hv).2.1⟩
    | ok u =>
      by_cases hn : ∀ hop, e.nextHop = some hop → hop = current
      · rw [relay_eq hv hn] at h
        cases hm : e.method with
        | send =>
          simp only [hm, relaySend] at h
          split at h
          · cases h
          · exact .inr ⟨rfl, rfl, hn, by have := e.path_length_le; omega⟩
        | report =>
          have hne : e.path ≠ [] := by
            have := (validate_eq_ok.mp hv).2 hm; intro h; simp_all
          simp only [hm] at h
          rcases relayReport_ok_or_err current nextHop hne with ⟨_, h'⟩ | h' <;>
            rw [h'] at h <;> cases h
      · push_neg at hn
        obtain ⟨hop, hh, hne⟩ := hn
        rw [relay_of_nextHop_ne hv hop hh hne] at h
        cases h
  · rintro (⟨hm, hp⟩ | ⟨hm, hv, hn, hl⟩)
    · exact ⟨_, _, relay_of_not_validate (validate_panic_iff.mpr ⟨hm, hp, rfl⟩)⟩
    · refine ⟨.capacityOverflow, e, ?_⟩
      rw [relay_eq hv hn, hm]
      simp [relaySend, hl]

theorem report_panic_iff :
    (∃ p, e.report = .error (.panic p)) ↔
      e.method = .send ∧ 2 ≤ e.path.length ∧ usizeMax < e.pathEndCursor + 2 := by
  unfold report
  by_cases hm : e.method = .send
  · by_cases hl : e.path.length < 2
    · simp [hm, hl]
    · have hne : e.path.head? = some e.path[0] := by
        rw [List.head?_eq_getElem?, List.getElem?_eq_getElem]
      by_cases ho : usizeMax < e.pathEndCursor + 2
      · simp [hm, hl, ho, pathPrev]; omega
      · simp [hm, hl, ho, pathPrev_eq (by omega : e.pathEndCursor + 2 ≤ usizeMax), sender,
          origin_eq hne]
  · simp [hm]

/-- The envelope code panics exactly here: `validate`, and so `relay`, on a `REPORT` envelope
with an empty path; `relay` pushing onto a `SEND` path of `isize::MAX` DIDs; `report` on a
`SEND` envelope whose cursor is past `usize::MAX - 2`; `origin` and `sender` on an empty path,
which `validate` accepts for `SEND`. -/
theorem envelope_panics_iff (e : MessageRelay) (current : Did) (nextHop : Option Did) :
    ((∃ p, e.validate = .error (.panic p)) ↔ e.method = .report ∧ e.path = []) ∧
    ((∃ p e', e.relay current nextHop = (.error (.panic p), e')) ↔
      e.method = .report ∧ e.path = [] ∨
      e.method = .send ∧ e.validate = .ok () ∧ (∀ hop, e.nextHop = some hop → hop = current) ∧
        e.path.length = isizeMax) ∧
    ((∃ p, e.report = .error (.panic p)) ↔
      e.method = .send ∧ 2 ≤ e.path.length ∧ usizeMax < e.pathEndCursor + 2) ∧
    ((∃ p, e.origin = .error (.panic p)) ↔ e.path = []) ∧
    ((∃ p, e.sender = .error (.panic p)) ↔ e.path = []) := by
  refine ⟨?_, relay_panic_iff, report_panic_iff, ?_, ?_⟩ <;> constructor
  · rintro ⟨p, h⟩; exact ⟨(validate_panic_iff.mp h).1, (validate_panic_iff.mp h).2.1⟩
  · rintro ⟨hm, hp⟩; exact ⟨_, validate_panic_iff.mpr ⟨hm, hp, rfl⟩⟩
  · rintro ⟨p, h⟩; exact (origin_panic_iff.mp h).1
  · intro hp; exact ⟨_, origin_panic_iff.mpr ⟨hp, rfl⟩⟩
  · rintro ⟨p, h⟩; exact (sender_panic_iff.mp h).1
  · intro hp; exact ⟨_, sender_panic_iff.mpr ⟨hp, rfl⟩⟩

/-- Envelopes a peer can serialise: a `REPORT` with an empty path, on which `validate` panics;
a `SEND` with an empty path, which `validate` accepts and whose `origin` panics; and a `SEND`
with cursor `usize::MAX`, whose `report` overflows. -/
theorem wire_envelopes_that_panic :
    (⟨.report, [], 0, none, ⟨0⟩, by decide, by decide⟩ : MessageRelay).validate =
      .error (.panic .indexOutOfBounds) ∧
    (⟨.send, [], 0, none, ⟨0⟩, by decide, by decide⟩ : MessageRelay).validate = .ok () ∧
    (⟨.send, [], 0, none, ⟨0⟩, by decide, by decide⟩ : MessageRelay).origin =
      .error (.panic .unwrapNone) ∧
    (⟨.send, [⟨0⟩, ⟨1⟩], usizeMax, none, ⟨1⟩, by decide, le_rfl⟩ : MessageRelay).report =
      .error (.panic .arithmeticOverflow) :=
  ⟨rfl, rfl, rfl, rfl⟩

end MessageRelay

end BnsNodeProofs.Relay
