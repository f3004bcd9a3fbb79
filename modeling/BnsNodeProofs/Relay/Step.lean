import BnsNodeProofs.Relay.Basic

namespace BnsNodeProofs.Relay

namespace MessageRelay

/-- The `SEND` arm of `relay`. The push fails only at the model's bound of `isize::MAX` DIDs;
a real `Vec<Did>` fails earlier, and allocation failure is not modelled. -/
def relaySend (e : MessageRelay) (current : Did) (nextHop : Option Did) :
    Except Fault Unit × MessageRelay :=
  if h : e.path.length < isizeMax then
    (.ok (), { e with path := e.path ++ [current], nextHop := nextHop,
                      path_length_le := by simp only [List.length_append, List.length_singleton]; omega })
  else (.error (.panic .capacityOverflow), e)

/-- `if let Some(pos) = pos { self.path_end_cursor += pos; }` -/
def advanceCursor (e : MessageRelay) : Option Nat → Except Fault MessageRelay
  | none => .ok e
  | some pos =>
    if h : e.pathEndCursor + pos ≤ usizeMax then
      .ok { e with pathEndCursor := e.pathEndCursor + pos, pathEndCursor_le := h }
    else .error (.panic .arithmeticOverflow)

def relayReport (e : MessageRelay) (current : Did) (nextHop : Option Did) :
    Except Fault Unit × MessageRelay :=
  if e.nextHop = some e.destination then
    if h : e.path.length = 0 then (.error (.panic .arithmeticOverflow), e)
    else (.ok (), { e with pathEndCursor := e.path.length - 1, nextHop := none,
                           pathEndCursor_le := by have := e.path_length_le; have := isizeMax_lt_usizeMax; omega })
  else
    match (e.path.reverse.drop e.pathEndCursor).findIdx? (· == current), nextHop with
    | none, none => (.error (.err .cannotInferNextHop), e)
    | pos, nextHop =>
      match e.advanceCursor pos with
      | .error f => (.error f, e)
      | .ok e₁ =>
        match nextHop with
        | some hop => (.ok (), { e₁ with nextHop := some hop })
        | none =>
          match e₁.pathPrev with
          | .ok prev => (.ok (), { e₁ with nextHop := prev })
          | .error f => (.error f, e₁)

def relay (e : MessageRelay) (current : Did) (nextHop : Option Did) :
    Except Fault Unit × MessageRelay :=
  match e.validate with
  | .error f => (.error f, e)
  | .ok () =>
    if e.nextHop.isSome ∧ e.nextHop ≠ some current then (.error (.err .invalidNextHop), e)
    else
      match e.method with
      | .send => e.relaySend current nextHop
      | .report => e.relayReport current nextHop

def report (e : MessageRelay) : Except Fault MessageRelay :=
  if e.method ≠ .send then .error (.err .reportNeedSend)
  else if e.path.length < 2 then .error (.err .cannotInferNextHop)
  else
    match e.pathPrev with
    | .error f => .error f
    | .ok nextHop =>
      match e.sender with
      | .error f => .error f
      | .ok destination => .ok ⟨.report, e.path, 0, nextHop, destination, e.path_length_le, Nat.zero_le _⟩

def resetDestination (e : MessageRelay) (destination : Did) : Except Fault Unit × MessageRelay :=
  if e.method = .send then (.ok (), { e with destination := destination })
  else (.error (.err .resetDestinationNeedSend), e)

variable {e e' : MessageRelay} {current : Did} {nextHop : Option Did}

theorem relay_of_not_validate {f : Fault} (h : e.validate = .error f) :
    e.relay current nextHop = (.error f, e) := by
  simp [relay, h]

theorem relay_of_nextHop_ne (hv : e.validate = .ok ()) (hop : Did) (hn : e.nextHop = some hop)
    (hne : hop ≠ current) : e.relay current nextHop = (.error (.err .invalidNextHop), e) := by
  simp [relay, hv, hn, hne]

theorem relay_eq (hv : e.validate = .ok ()) (hn : ∀ hop, e.nextHop = some hop → hop = current) :
    e.relay current nextHop = match e.method with
      | .send => e.relaySend current nextHop
      | .report => e.relayReport current nextHop := by
  have : ¬(e.nextHop.isSome ∧ e.nextHop ≠ some current) := by
    cases h : e.nextHop <;> simp_all
  simp only [relay, hv, if_neg this]

theorem relay_ok_validate (h : e.relay current nextHop = (.ok (), e')) : e.validate = .ok () := by
  cases hv : e.validate with
  | error f => rw [relay_of_not_validate hv] at h; cases h
  | ok u => rfl

theorem relay_ok_nextHop (h : e.relay current nextHop = (.ok (), e')) :
    ∀ hop, e.nextHop = some hop → hop = current := by
  intro hop hn
  by_contra hne
  rw [relay_of_nextHop_ne (relay_ok_validate h) hop hn hne] at h
  cases h

theorem relaySend_ok (h : e.relaySend current nextHop = (.ok (), e')) :
    e'.method = e.method ∧ e'.path = e.path ++ [current] ∧ e'.pathEndCursor = e.pathEndCursor ∧
      e'.nextHop = nextHop ∧ e'.destination = e.destination := by
  unfold relaySend at h
  split at h
  · cases h; exact ⟨rfl, rfl, rfl, rfl, rfl⟩
  · cases h

theorem advanceCursor_ok {pos : Option Nat} {e₁ : MessageRelay} (h : e.advanceCursor pos = .ok e₁) :
    e₁.method = e.method ∧ e₁.path = e.path ∧ e₁.nextHop = e.nextHop ∧
      e₁.destination = e.destination ∧ e₁.pathEndCursor = e.pathEndCursor + pos.getD 0 := by
  cases pos with
  | none => cases h; exact ⟨rfl, rfl, rfl, rfl, rfl⟩
  | some pos =>
    simp only [advanceCursor] at h
    split at h
    · cases h; exact ⟨rfl, rfl, rfl, rfl, rfl⟩
    · cases h

theorem pathPrev_ok {prev : Option Did} (h : e.pathPrev = .ok prev) :
    prev = e.path.reverse[e.pathEndCursor + 1]? := by
  by_cases ho : e.pathEndCursor + 2 ≤ usizeMax
  · rw [pathPrev_eq ho] at h; cases h; rfl
  · simp [pathPrev, show usizeMax < e.pathEndCursor + 2 by omega] at h

theorem pathPrev_ne_err (err : Error) : e.pathPrev ≠ .error (.err err) := by
  unfold pathPrev; split_ifs <;> simp

theorem relayReport_ok (h : e.relayReport current nextHop = (.ok (), e')) :
    e'.method = e.method ∧ e'.path = e.path ∧ e'.destination = e.destination ∧
    (e.nextHop = some e.destination ∧ e'.pathEndCursor = e.path.length - 1 ∧ e'.nextHop = none ∨
     e.nextHop ≠ some e.destination ∧
       e'.pathEndCursor = e.pathEndCursor +
         ((e.path.reverse.drop e.pathEndCursor).findIdx? (· == current)).getD 0 ∧
       e'.nextHop = nextHop.or e.path.reverse[e'.pathEndCursor + 1]?) := by
  unfold relayReport at h
  split at h
  · split at h
    · cases h
    · cases h; exact ⟨rfl, rfl, rfl, .inl ⟨‹_›, rfl, rfl⟩⟩
  · split at h
    · cases h
    · split at h
      · cases h
      · rename_i e₁ he₁
        obtain ⟨hm, hp, -, hd, hc⟩ := advanceCursor_ok he₁
        split at h
        · cases h; exact ⟨hm, hp, hd, .inr ⟨‹_›, hc, rfl⟩⟩
        · split at h
          · rename_i prev hprev
            cases h
            exact ⟨hm, hp, hd, .inr ⟨‹_›, hc, by simpa [hp] using pathPrev_ok hprev⟩⟩
          · cases h

theorem relayReport_err {err : Error} (h : e.relayReport current nextHop = (.error (.err err), e')) :
    e' = e := by
  unfold relayReport at h
  split at h
  · split at h <;> cases h
  · split at h
    · cases h; rfl
    · split at h
      · cases h; rfl
      · split at h
        · cases h
        · split at h
          · cases h
          · cases h
            exact absurd ‹_› (pathPrev_ne_err err)

theorem relayReport_of_found {pos : Nat} (hd : e.nextHop ≠ some e.destination)
    (hpos : (e.path.reverse.drop e.pathEndCursor).findIdx? (· == current) = some pos) :
    ∃ e', e.relayReport current nextHop = (.ok (), e') := by
  have hlt := (List.findIdx?_eq_some_iff_findIdx_eq.mp hpos).1
  simp only [List.length_drop, List.length_reverse] at hlt
  have hb : e.pathEndCursor + pos + 2 ≤ usizeMax := by
    have := e.path_length_le; have := isizeMax_lt_usizeMax; omega
  simp only [relayReport, if_neg hd, hpos, advanceCursor,
    dif_pos (by omega : e.pathEndCursor + pos ≤ usizeMax)]
  cases nextHop with
  | some hop => exact ⟨_, rfl⟩
  | none => rw [pathPrev_eq hb]; exact ⟨_, rfl⟩

theorem relay_ok (h : e.relay current nextHop = (.ok (), e')) :
    e.validate = .ok () ∧ (∀ hop, e.nextHop = some hop → hop = current) ∧
      (e.method = .send ∧ e.relaySend current nextHop = (.ok (), e') ∨
       e.method = .report ∧ e.relayReport current nextHop = (.ok (), e')) := by
  have hv := relay_ok_validate h
  have hn := relay_ok_nextHop h
  rw [relay_eq hv hn] at h
  refine ⟨hv, hn, ?_⟩
  cases hm : e.method <;> simp only [hm] at h <;> simp [h]

theorem relay_err {err : Error} (h : e.relay current nextHop = (.error (.err err), e')) : e' = e := by
  unfold relay at h
  split at h
  · cases h; rfl
  · split at h
    · cases h; rfl
    · split at h
      · unfold relaySend at h
        split at h <;> cases h
      · exact relayReport_err h

theorem report_ok {r : MessageRelay} (h : e.report = .ok r) :
    e.method = .send ∧ 2 ≤ e.path.length ∧ r.method = .report ∧ r.path = e.path ∧
      r.pathEndCursor = 0 ∧ e.pathPrev = .ok r.nextHop ∧ e.sender = .ok r.destination := by
  unfold report at h
  split_ifs at h with hm hl
  split at h
  · cases h
  · rename_i hp
    split at h
    · cases h
    · rename_i hs
      cases h
      exact ⟨by simpa using hm, by omega, rfl, rfl, rfl, hp, hs⟩

theorem resetDestination_ok {destination : Did} (h : e.resetDestination destination = (.ok (), e')) :
    e.method = .send ∧ e'.method = e.method ∧ e'.path = e.path ∧
      e'.pathEndCursor = e.pathEndCursor := by
  unfold resetDestination at h
  split at h
  · cases h; exact ⟨‹_›, rfl, rfl, rfl⟩
  · cases h

/-- A `relay` that returns `Err` leaves every field as it was; one that returns `Ok` keeps
`method` and `destination`, pushes `current` onto a `SEND` path and leaves a `REPORT` path. -/
theorem relay_atomic (e : MessageRelay) (current : Did) (nextHop : Option Did) :
    (∀ err e', e.relay current nextHop = (.error (.err err), e') → e' = e) ∧
    (∀ e', e.relay current nextHop = (.ok (), e') →
      e'.method = e.method ∧ e'.destination = e.destination ∧
      (e.method = .send → e'.path = e.path ++ [current] ∧ e'.pathEndCursor = e.pathEndCursor ∧
        e'.nextHop = nextHop) ∧
      (e.method = .report → e'.path = e.path)) := by
  refine ⟨fun _ _ h => relay_err h, fun e' h => ?_⟩
  obtain ⟨-, -, ⟨hm, hs⟩ | ⟨hm, hr⟩⟩ := relay_ok h
  · obtain ⟨h1, h2, h3, h4, h5⟩ := relaySend_ok hs
    exact ⟨h1, h5, fun _ => ⟨h2, h3, h4⟩, fun h => by simp_all⟩
  · obtain ⟨h1, h2, h3, -⟩ := relayReport_ok hr
    exact ⟨h1, h3, fun h => by simp_all, fun _ => h2⟩

end MessageRelay

end BnsNodeProofs.Relay
