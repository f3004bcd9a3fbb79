import BnsNodeProofs.RingsCore.Swarm
import Mathlib.Data.List.Nodup

namespace BnsNodeProofs.RingsCore

namespace Swarm

structure PendingInv (s : Swarm) : Prop where
  disjoint : ∀ t ∈ s.pendingTransports, ∀ d t', s.transports d = some t' → t'.id ≠ t.id
  nodup : (s.pendingTransports.map Transport.id).Nodup

def Fresh (s : Swarm) (t : Transport) : Prop :=
  t.id ∉ s.pendingTransports.map Transport.id ∧ ∀ d t', s.transports d = some t' → t'.id ≠ t.id

/-- The states reached from `Swarm.empty` by pushing fresh transports, popping, and handling
events whose collaborators answer as `allowed` accepts. -/
inductive Reachable (allowed : Except Error (Option Event) → Outcomes → Prop) : Swarm → Prop
  | empty : Reachable allowed empty
  | push {s : Swarm} (t : Transport) (locked : Bool) :
      Reachable allowed s → s.Fresh t → Reachable allowed (s.step (.push t locked)).2
  | pop {s : Swarm} (id : Uuid) (locked : Bool) :
      Reachable allowed s → Reachable allowed (s.step (.pop id locked)).2
  | load {s : Swarm} (ev : Except Error (Option Event)) (o : Outcomes) :
      Reachable allowed s → allowed ev o → Reachable allowed (s.step (.load ev o)).2

def PopLocksOnRegister (ev : Except Error (Option Event)) (o : Outcomes) : Prop :=
  ∀ did id, ev = .ok (some (.registerTransport did id)) → o.popLocks = true

variable {s : Swarm} {o : Outcomes} {did : Did} {id : Uuid}

theorem eraseP_id_ne {l : List Transport} (h : (l.map Transport.id).Nodup) :
    ∀ t ∈ l.eraseP (·.id == id), t.id ≠ id := by
  induction l with
  | nil => simp
  | cons a l ih =>
    rw [List.map_cons, List.nodup_cons] at h
    by_cases ha : a.id = id
    · simp only [List.eraseP_cons, ha, beq_self_eq_true, cond_true]
      intro t ht hid
      exact h.1 (List.mem_map.mpr ⟨t, ht, hid.trans ha.symm⟩)
    · have hb : (a.id == id) = false := by simpa using ha
      simp only [List.eraseP_cons, hb, cond_false, List.mem_cons]
      rintro t (rfl | ht)
      · exact ha
      · exact ih h.2 t ht

theorem PendingInv.mono {s' : Swarm} (hi : PendingInv s)
    (hp : s'.pendingTransports.Sublist s.pendingTransports)
    (ht : ∀ d t, s'.transports d = some t → s.transports d = some t) : PendingInv s' :=
  ⟨fun t hm d t' h => hi.disjoint t (hp.subset hm) d t' (ht d t' h), hi.nodup.sublist (hp.map _)⟩

theorem PendingInv.pop {locked : Bool} (hi : PendingInv s) :
    PendingInv (s.popPendingTransport locked id).2 := by
  refine hi.mono ?_ (by simp)
  rw [popPendingTransport_pendingTransports]
  split_ifs
  · exact List.eraseP_sublist _
  · exact List.Sublist.refl _

theorem PendingInv.push {t : Transport} {locked : Bool} (hi : PendingInv s) (hf : s.Fresh t) :
    PendingInv (s.pushPendingTransport locked t).2 := by
  unfold pushPendingTransport
  split_ifs
  · refine ⟨fun t₁ hm d t' h => ?_, ?_⟩
    · rcases List.mem_append.mp hm with hm | hm
      · exact hi.disjoint t₁ hm d t' h
      · rw [List.mem_singleton.mp hm]; exact hf.2 d t' h
    · simp only [List.map_append, List.map_cons, List.map_nil]
      exact hi.nodup.append (List.nodup_singleton _) (List.disjoint_singleton.mpr hf.1)
  · exact hi

theorem registerTransport_moves_or_keeps (hp : o.popLocks = true) :
    let s' := (s.loadMessage o (.ok (some (.registerTransport did id)))).2
    (s'.transports = s.transports ∧ s'.pendingTransports = s.pendingTransports) ∨
    (∃ t ∈ s.pendingTransports, t.id = id ∧
      s'.transports = Function.update s.transports did (some t) ∧
      s'.pendingTransports = s.pendingTransports.eraseP (·.id == id)) := by
  dsimp only
  rw [loadMessage_registerTransport_state]
  cases hf : o.findLocks with
  | false => rw [movePending_of_not_found (.inl hf)]; exact .inl ⟨rfl, rfl⟩
  | true =>
    cases ht : s.pendingTransports.find? (·.id == id) with
    | none => rw [movePending_of_not_found (.inr ht)]; exact .inl ⟨rfl, rfl⟩
    | some t =>
      rw [movePending_of_found hf ht]
      exact .inr ⟨t, List.mem_of_find?_eq_some ht, by simpa using List.find?_some ht, by simp,
        by simp [popPendingTransport_pendingTransports, hp]⟩

theorem PendingInv.registerTransport (hi : PendingInv s) (hp : o.popLocks = true) :
    PendingInv (s.loadMessage o (.ok (some (.registerTransport did id)))).2 := by
  rcases registerTransport_moves_or_keeps hp with ⟨ht, hpn⟩ | ⟨t, -, htid, ht, hpn⟩
  · exact hi.mono (by rw [hpn]) fun d t h => by rwa [ht] at h
  · refine ⟨fun t₁ hm d t' h => ?_, ?_⟩
    · rw [hpn] at hm
      rw [ht] at h
      by_cases hd : d = did
      · subst hd
        simp only [Function.update_same, Option.some.injEq] at h
        subst h
        exact fun he => eraseP_id_ne hi.nodup t₁ hm (he.symm.trans htid)
      · rw [Function.update_noteq hd] at h
        exact hi.disjoint t₁ ((List.eraseP_sublist _).subset hm) d t' h
    · rw [hpn]
      exact hi.nodup.sublist ((List.eraseP_sublist _).map _)

theorem PendingInv.connectClosed (hi : PendingInv s) :
    PendingInv (s.loadMessage o (.ok (some (.connectClosed did id)))).2 := by
  rw [loadMessage_connectClosed_state]
  have hp : PendingInv (s.popPendingTransport o.popLocks id).2 := hi.pop
  split_ifs
  · refine hp.mono (List.Sublist.refl _) fun d t h => ?_
    by_cases hd : d = did
    · subst hd; simp at h
    · simpa [Function.update_noteq hd] using h
  · exact hp

theorem PendingInv.load {ev : Except Error (Option Event)} (hi : PendingInv s)
    (ho : PopLocksOnRegister ev o) : PendingInv (s.step (.load ev o)).2 := by
  simp only [step, pollMessage_state]
  rcases ev with e | _ | (msg | ⟨did, id⟩ | ⟨did, id⟩)
  · exact hi
  · exact hi
  · exact hi
  · exact hi.registerTransport (ho did id rfl)
  · exact hi.connectClosed

theorem Reachable.pendingInv (h : Reachable PopLocksOnRegister s) : PendingInv s := by
  induction h with
  | empty => exact ⟨fun t h => by simp [Swarm.empty] at h, by simp [Swarm.empty]⟩
  | push t locked _ hf ih => exact ih.push hf
  | pop id locked _ ih => exact ih.pop
  | load ev o _ ho ih => exact ih.load ho

/-- Without a failed pop in the `RegisterTransport` arm, no transport id is both pending and
registered; and that arm, when its pop gets the lock, moves the pending transport into the
registry or changes neither. -/
theorem pending_registry_disjoint :
    (∀ s, Reachable PopLocksOnRegister s →
      ∀ t ∈ s.pendingTransports, ∀ d t', s.transports d = some t' → t'.id ≠ t.id) ∧
    (∀ (s : Swarm) (o : Outcomes) did id, o.popLocks = true →
      let s' := (s.loadMessage o (.ok (some (.registerTransport did id)))).2
      (s'.transports = s.transports ∧ s'.pendingTransports = s.pendingTransports) ∨
      (∃ t ∈ s.pendingTransports, t.id = id ∧
        s'.transports = Function.update s.transports did (some t) ∧
        s'.pendingTransports = s.pendingTransports.eraseP (·.id == id))) :=
  ⟨fun _ h => h.pendingInv.disjoint, fun _ _ _ _ hp => registerTransport_moves_or_keeps hp⟩

/-- `t0` is pushed, then `RegisterTransport(d0, t0.id)` is handled with the pop missing its
lock. -/
def failedPopRegistration : Except Error (Option Payload) × Swarm :=
  (empty.step (.push ⟨⟨0⟩⟩ true)).2.loadMessage ⟨true, false, .ok (), .ok ()⟩
    (.ok (some (.registerTransport ⟨0⟩ ⟨0⟩)))

/-- On `failedPopRegistration`, `t0` is registered under `d0`, stays pending, and the event
returns the lock error. -/
theorem register_then_failed_pop :
    Reachable (fun _ _ => True) failedPopRegistration.2 ∧
    failedPopRegistration.1 = .error .swarmPendingTransTryLockFailed ∧
    failedPopRegistration.2.pendingTransports = [⟨⟨0⟩⟩] ∧
    failedPopRegistration.2.transports ⟨0⟩ = some ⟨⟨0⟩⟩ :=
  ⟨pollMessage_state ▸ .load (.ok (some (.registerTransport ⟨0⟩ ⟨0⟩))) ⟨true, false, .ok (), .ok ()⟩
    (.push _ true .empty ⟨by simp [empty], by simp [empty]⟩) trivial, rfl, rfl, rfl⟩

end Swarm

end BnsNodeProofs.RingsCore
