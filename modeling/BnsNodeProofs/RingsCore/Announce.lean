import BnsNodeProofs.RingsCore.Pending

namespace BnsNodeProofs.RingsCore

namespace Swarm

def announces (did : Did) : Option Payload → Bool
  | some (.joinDHT d) => decide (d = did)
  | some (.leaveDHT d) => decide (d = did)
  | _ => false

def lastAnnouncement (did : Did) (ys : List (Option Payload)) : Option Payload :=
  ys.foldl (fun last y => if announces did y then y else last) none

def DhtAgrees (s : Swarm) (ys : List (Option Payload)) : Prop :=
  ∀ did, (s.transports did).isSome = true ↔ lastAnnouncement did ys = some (.joinDHT did)

def SignsAndPops : Op → Prop
  | .load ev o => o.sign = .ok () ∧ PopLocksOnRegister ev o
  | _ => True

variable {s s' : Swarm} {ys : List (Option Payload)} {y : Option Payload} {did : Did}

theorem lastAnnouncement_append :
    lastAnnouncement did (ys ++ [y]) = if announces did y then y else lastAnnouncement did ys := by
  simp [lastAnnouncement]

theorem DhtAgrees.of_unchanged (hi : DhtAgrees s ys) (ht : s'.transports = s.transports)
    (hy : ∀ d, announces d y → y = some (.joinDHT d) ∧ (s.transports d).isSome = true) :
    DhtAgrees s' (ys ++ [y]) := by
  intro d
  rw [lastAnnouncement_append, ht]
  by_cases ha : announces d y
  · rw [if_pos ha, (hy d ha).1]
    simp [(hy d ha).2]
  · rw [if_neg ha]
    exact hi d

theorem DhtAgrees.of_update {v : Option Transport} (hi : DhtAgrees s ys)
    (ht : s'.transports = Function.update s.transports did v)
    (hy : y = some (if v.isSome then .joinDHT did else .leaveDHT did)) :
    DhtAgrees s' (ys ++ [y]) := by
  intro d
  rw [lastAnnouncement_append, ht]
  by_cases hd : d = did
  · subst hd
    cases v <;> simp [hy, announces]
  · have hn : announces d y = false := by
      rw [hy]
      split <;> simp [announces, Ne.symm hd]
    rw [Function.update_noteq hd, hn]
    exact hi d

theorem DhtAgrees.step {op : Op} (hi : DhtAgrees s ys) (hc : SignsAndPops op) :
    DhtAgrees (s.step op).2 (ys ++ [(s.step op).1]) := by
  cases op with
  | push t locked => exact hi.of_unchanged (by simp [Swarm.step]) (by simp [Swarm.step, announces])
  | pop id locked => exact hi.of_unchanged (by simp [Swarm.step]) (by simp [Swarm.step, announces])
  | load ev o =>
    obtain ⟨hsign, hp⟩ := hc
    simp only [Swarm.step]
    rw [pollMessage_state, pollMessage_fst]
    rcases ev with e | _ | (msg | ⟨did, id⟩ | ⟨did, id⟩)
    · exact hi.of_unchanged rfl (by simp [loadMessage, Except.toOption, announces])
    · exact hi.of_unchanged rfl (by simp [loadMessage, Except.toOption, announces])
    · refine hi.of_unchanged rfl fun d ha => ?_
      cases hd : o.decode <;>
        simp [loadMessage, hd, Except.map, Except.toOption, announces] at ha
    · rw [loadMessage_registerTransport (hp did id rfl), hsign]
      have hm : (s.movePending o did id).2.transports = s.transports ∨ ∃ t,
          (s.movePending o did id).2.transports = Function.update s.transports did (some t) :=
        movePending_transports
      rcases hm with ht | ⟨t, ht⟩
      · refine hi.of_unchanged ht fun d ha => ?_
        rw [ht] at ha ⊢
        by_cases h : (s.transports did).isSome
        · simp [h, Except.map, Except.toOption, announces] at ha
          subst ha
          simp [h, Except.map, Except.toOption]
        · simp [h, Except.toOption, announces] at ha
      · refine hi.of_update ht ?_
        simp [ht, Except.map, Except.toOption]
    · rw [loadMessage_connectClosed]
      split_ifs
      · refine hi.of_update rfl ?_
        simp [hsign, Except.map, Except.toOption]
      · exact hi.of_unchanged (by simp) (by simp [Except.toOption, announces])

theorem DhtAgrees.run {ops : List Op} (hi : DhtAgrees s ys) (hc : ∀ op ∈ ops, SignsAndPops op) :
    DhtAgrees (s.run ops) (ys ++ s.yields ops) := by
  induction ops generalizing s ys with
  | nil => simpa [Swarm.run, yields] using hi
  | cons op ops ih =>
    have h := ih (hi.step (hc op (List.mem_cons_self _ _)))
      fun op' h => hc op' (List.mem_cons_of_mem _ h)
    simpa [Swarm.run, yields] using h

/-- Three runs on which the registry and the routing layer part: the `JoinDHT` of a
registration fails to sign; the pop after the registration misses its lock; the `LeaveDHT` of a
close fails to sign after `JoinDHT` was handed up. -/
theorem routing_layer_misses_registry_changes (err : Error) :
    let push := Op.push ⟨⟨0⟩⟩ true
    let register (o : Outcomes) := Op.load (.ok (some (.registerTransport ⟨0⟩ ⟨0⟩))) o
    let close (o : Outcomes) := Op.load (.ok (some (.connectClosed ⟨0⟩ ⟨0⟩))) o
    let ops₁ := [push, register ⟨true, true, .ok (), .error err⟩]
    let ops₂ := [push, register ⟨true, false, .ok (), .ok ()⟩]
    let ops₃ := [push, register ⟨true, true, .ok (), .ok ()⟩, close ⟨true, true, .ok (), .error err⟩]
    ((empty.run ops₁).transports ⟨0⟩ = some ⟨⟨0⟩⟩ ∧ lastAnnouncement ⟨0⟩ (empty.yields ops₁) = none) ∧
    ((empty.run ops₂).transports ⟨0⟩ = some ⟨⟨0⟩⟩ ∧ lastAnnouncement ⟨0⟩ (empty.yields ops₂) = none) ∧
    ((empty.run ops₃).transports ⟨0⟩ = none ∧
      lastAnnouncement ⟨0⟩ (empty.yields ops₃) = some (.joinDHT ⟨0⟩)) :=
  ⟨⟨rfl, rfl⟩, ⟨rfl, rfl⟩, ⟨rfl, rfl⟩⟩

end Swarm

end BnsNodeProofs.RingsCore
