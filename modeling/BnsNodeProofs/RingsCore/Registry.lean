import BnsNodeProofs.RingsCore.Pending

namespace BnsNodeProofs.RingsCore

namespace Swarm

/-- The registry the history says `did` should have after `op`, from `reg` before it and the
pending list of `s`, the state `op` runs on. -/
def expectStep (s : Swarm) (reg : Did → Option Transport) : Op → Did → Option Transport
  | .load (.ok (some (.registerTransport did id))) _ =>
    match s.pendingTransports.find? (·.id == id) with
    | some t => Function.update reg did (some t)
    | none => reg
  | .load (.ok (some (.connectClosed did id))) _ =>
    if (reg did).map Transport.id = some id then Function.update reg did none else reg
  | _ => reg

def expectedRegistry (s : Swarm) (reg : Did → Option Transport) : List Op → Did → Option Transport
  | [] => reg
  | op :: ops => (s.step op).2.expectedRegistry (s.expectStep reg op) ops

def FindLocks : Op → Prop
  | .load _ o => o.findLocks = true
  | _ => True

variable {s : Swarm} {o : Outcomes} {did : Did} {id : Uuid}

theorem step_transports {op : Op} (hf : FindLocks op) :
    (s.step op).2.transports = s.expectStep s.transports op := by
  cases op with
  | push t locked => simp [step, expectStep]
  | pop id locked => simp [step, expectStep]
  | load ev o =>
    simp only [FindLocks] at hf
    simp only [step, pollMessage_state]
    rcases ev with e | _ | (msg | ⟨did, id⟩ | ⟨did, id⟩)
    · rfl
    · rfl
    · rfl
    · rw [loadMessage_registerTransport_state]
      simp only [expectStep]
      cases ht : s.pendingTransports.find? (·.id == id) with
      | none => rw [movePending_of_not_found (.inr ht)]
      | some t => simp [movePending_of_found hf ht]
    · rw [loadMessage_connectClosed_state]
      simp only [expectStep]
      split_ifs <;> simp

theorem run_transports {ops : List Op} (hf : ∀ op ∈ ops, FindLocks op) :
    (s.run ops).transports = s.expectedRegistry s.transports ops := by
  induction ops generalizing s with
  | nil => rfl
  | cons op ops ih =>
    rw [run, expectedRegistry, ih fun op' h => hf op' (List.mem_cons_of_mem _ h),
      step_transports (hf op (List.mem_cons_self _ _))]

/-- Along every run from `Swarm.empty` in which each `find_pending_transport` gets its lock, the
registry is the one the history says. So a `ConnectClosed` for an id other than the entry's
leaves the entry, and a `RegisterTransport` for a pending id registers a transport with it. -/
theorem registry_follows_events :
    (∀ ops : List Op, (∀ op ∈ ops, FindLocks op) →
      (empty.run ops).transports = empty.expectedRegistry (fun _ => none) ops) ∧
    (∀ (s : Swarm) o did id t, s.transports did = some t → t.id ≠ id →
      (s.loadMessage o (.ok (some (.connectClosed did id)))).2.transports did = some t) ∧
    (∀ (s : Swarm) o did id, o.findLocks = true → id ∈ s.pendingTransports.map Transport.id →
      ∃ t, (s.loadMessage o (.ok (some (.registerTransport did id)))).2.transports did = some t ∧
        t.id = id) := by
  refine ⟨fun _ hf => run_transports hf, fun s o did id t ht hne => ?_, fun s o did id hf hm => ?_⟩
  · rw [loadMessage_connectClosed_state, ht, if_neg (by simpa using hne)]
    simpa using ht
  · obtain ⟨t, htm, rfl⟩ := List.mem_map.mp hm
    cases hfind : s.pendingTransports.find? (·.id == t.id) with
    | none => exact absurd (by simp) (List.find?_eq_none.mp hfind t htm)
    | some t' =>
      rw [loadMessage_registerTransport_state, movePending_of_found hf hfind]
      exact ⟨t', by simp, by simpa using List.find?_some hfind⟩

/-- A transport is pushed, then its `RegisterTransport` is handled with
`find_pending_transport` missing the lock. -/
def lostRegistration : List Op :=
  [.push ⟨⟨0⟩⟩ true, .load (.ok (some (.registerTransport ⟨0⟩ ⟨0⟩))) ⟨false, true, .ok (), .ok ()⟩]

/-- After `lostRegistration` the transport stays pending and `did` has no entry, where the
history says it should have that transport. -/
theorem pending_registration_lost :
    Reachable (fun _ _ => True) (empty.run lostRegistration) ∧
    (empty.run lostRegistration).pendingTransports = [⟨⟨0⟩⟩] ∧
    (empty.run lostRegistration).transports ⟨0⟩ = none ∧
    empty.expectedRegistry (fun _ => none) lostRegistration ⟨0⟩ = some ⟨⟨0⟩⟩ :=
  ⟨.load _ _ (.push _ true .empty ⟨by simp [empty], by simp [empty]⟩) trivial, rfl, rfl, rfl⟩

end Swarm

end BnsNodeProofs.RingsCore
