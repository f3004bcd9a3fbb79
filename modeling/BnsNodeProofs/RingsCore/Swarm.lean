import BnsNodeProofs.Basic
import Mathlib.Data.List.Basic

/-!
The transport registry of the `rings-core` `Swarm` (`swarm.rs`): the list of pending
transports behind a mutex, the registry of transports by DID, and `load_message`, which turns
the events of the transport backend into registry changes and synthetic payloads.

Every `try_lock` on the pending list can fail, and signing a synthetic payload can fail; the
model takes each outcome as an input of the step that meets it.
-/

namespace BnsNodeProofs.RingsCore

structure Uuid where
  toBitVec : BitVec 128
deriving DecidableEq, Repr

structure Transport where
  id : Uuid
deriving DecidableEq, Repr

inductive Event
  | dataChannelMessage (msg : List UInt8)
  | registerTransport (did : Did) (id : Uuid)
  | connectClosed (did : Did) (id : Uuid)
deriving DecidableEq, Repr

inductive Payload
  | decoded (msg : List UInt8)
  | joinDHT (id : Did)
  | leaveDHT (id : Did)
deriving DecidableEq, Repr

/-- What the collaborators of one `load_message` call answer: whether the `try_lock` of
`find_pending_transport` and of `pop_pending_transport` get the lock, and what decoding the
message and `MessagePayload::new_direct` return. -/
structure Outcomes where
  findLocks : Bool
  popLocks : Bool
  decode : Except Error Unit
  sign : Except Error Unit

structure Swarm where
  pendingTransports : List Transport
  transports : Did → Option Transport

namespace Swarm

def empty : Swarm := ⟨[], fun _ => none⟩

def pushPendingTransport (s : Swarm) (locked : Bool) (transport : Transport) :
    Except Error Unit × Swarm :=
  if locked then (.ok (), { s with pendingTransports := s.pendingTransports ++ [transport] })
  else (.error .swarmPendingTransTryLockFailed, s)

def popPendingTransport (s : Swarm) (locked : Bool) (transportId : Uuid) :
    Except Error Unit × Swarm :=
  if locked then
    match s.pendingTransports.findIdx? (·.id == transportId) with
    | some index => (.ok (), { s with pendingTransports := s.pendingTransports.eraseIdx index })
    | none => (.error .swarmPendingTransNotFound, s)
  else (.error .swarmPendingTransTryLockFailed, s)

def findPendingTransport (s : Swarm) (locked : Bool) (id : Uuid) :
    Except Error (Option Transport) :=
  if locked then .ok (s.pendingTransports.find? (·.id == id))
  else .error .swarmPendingTransTryLockFailed

/-- Modelled from the spec: `register` is not in the sources. §4.5 makes it an atomic replace
in the registry that schedules the close of the transport it displaces and returns no error. -/
def register (s : Swarm) (did : Did) (transport : Transport) : Swarm :=
  { s with transports := Function.update s.transports did (some transport) }

/-- Modelled from the spec: `get_transport` is not in the sources; it looks `did` up. -/
def getTransport (s : Swarm) (did : Did) : Option Transport :=
  s.transports did

/-- Modelled from the spec: `remove_transport` is not in the sources; it removes the entry of
`did` and returns it. -/
def removeTransport (s : Swarm) (did : Did) : Option Transport × Swarm :=
  (s.transports did, { s with transports := Function.update s.transports did none })

/-- `if let Ok(Some(t)) = self.find_pending_transport(id) { self.register(did, t).await?;
self.pop_pending_transport(id)?; }`, the first statement of the `RegisterTransport` arm. -/
def movePending (s : Swarm) (o : Outcomes) (did : Did) (id : Uuid) : Except Error Unit × Swarm :=
  match s.findPendingTransport o.findLocks id with
  | .ok (some t) => (s.register did t).popPendingTransport o.popLocks id
  | _ => (.ok (), s)

def loadMessage (s : Swarm) (o : Outcomes) :
    Except Error (Option Event) → Except Error (Option Payload) × Swarm
  | .error e => (.error e, s)
  | .ok none => (.ok none, s)
  | .ok (some (.dataChannelMessage msg)) => (o.decode.map fun () => some (.decoded msg), s)
  | .ok (some (.registerTransport did id)) =>
    match s.movePending o did id with
    | (.error e, s') => (.error e, s')
    | (.ok (), s') =>
      match s'.getTransport did with
      | some _ => (o.sign.map fun () => some (.joinDHT did), s')
      | none => (.error (.swarmMissTransport did), s')
  | .ok (some (.connectClosed did uuid)) =>
    let s₁ := (s.popPendingTransport o.popLocks uuid).2
    match s₁.getTransport did with
    | some t =>
      if t.id = uuid then
        match s₁.removeTransport did with
        | (some _, s₂) => (o.sign.map fun () => some (.leaveDHT did), s₂)
        | (none, s₂) => (.ok none, s₂)
      else (.ok none, s₁)
    | none => (.ok none, s₁)

def pollMessage (s : Swarm) (o : Outcomes) (ev : Except Error (Option Event)) :
    Option Payload × Swarm :=
  match s.loadMessage o ev with
  | (.ok (some msg), s') => (some msg, s')
  | (_, s') => (none, s')

inductive Op
  | push (transport : Transport) (locked : Bool)
  | pop (id : Uuid) (locked : Bool)
  | load (ev : Except Error (Option Event)) (o : Outcomes)

def step (s : Swarm) : Op → Option Payload × Swarm
  | .push transport locked => (none, (s.pushPendingTransport locked transport).2)
  | .pop id locked => (none, (s.popPendingTransport locked id).2)
  | .load ev o => s.pollMessage o ev

def run (s : Swarm) : List Op → Swarm
  | [] => s
  | op :: ops => (s.step op).2.run ops

def yields (s : Swarm) : List Op → List (Option Payload)
  | [] => []
  | op :: ops => (s.step op).1 :: (s.step op).2.yields ops

variable {s : Swarm} {o : Outcomes} {locked : Bool} {id : Uuid} {did : Did} {t : Transport}

theorem eraseIdx_of_findIdx? {α : Type} {l : List α} {p : α → Bool} {i : Nat}
    (h : l.findIdx? p = some i) : l.eraseIdx i = l.eraseP p := by
  induction l generalizing i with
  | nil => cases h
  | cons a l ih =>
    by_cases ha : p a
    · simp only [List.findIdx?_cons, ha, if_true, Option.some.injEq] at h
      subst h; simp [ha]
    · simp only [List.findIdx?_cons, ha, Bool.false_eq_true, if_false, List.findIdx?_start_succ,
        Option.map_eq_some', Nat.zero_add] at h
      obtain ⟨j, hj, rfl⟩ := h
      simp [ha, ih hj]

@[simp] theorem register_pendingTransports :
    (s.register did t).pendingTransports = s.pendingTransports := rfl

@[simp] theorem register_transports :
    (s.register did t).transports = Function.update s.transports did (some t) := rfl

@[simp] theorem popPendingTransport_transports :
    (s.popPendingTransport locked id).2.transports = s.transports := by
  unfold popPendingTransport
  split_ifs
  · split <;> rfl
  · rfl

@[simp] theorem pushPendingTransport_transports :
    (s.pushPendingTransport locked t).2.transports = s.transports := by
  unfold pushPendingTransport
  split_ifs <;> rfl

theorem popPendingTransport_pendingTransports :
    (s.popPendingTransport locked id).2.pendingTransports =
      if locked then s.pendingTransports.eraseP (·.id == id) else s.pendingTransports := by
  unfold popPendingTransport
  cases locked
  · rfl
  · simp only [if_true]
    split
    · exact eraseIdx_of_findIdx? ‹_›
    · rename_i hnone
      refine (List.eraseP_of_forall_not fun a ha => ?_).symm
      simp [List.findIdx?_eq_none_iff.mp hnone a ha]

theorem movePending_of_found (hf : o.findLocks = true)
    (ht : s.pendingTransports.find? (·.id == id) = some t) :
    s.movePending o did id = (s.register did t).popPendingTransport o.popLocks id := by
  simp [movePending, findPendingTransport, hf, ht]

theorem movePending_of_not_found
    (h : o.findLocks = false ∨ s.pendingTransports.find? (·.id == id) = none) :
    s.movePending o did id = (.ok (), s) := by
  unfold movePending findPendingTransport
  rcases h with h | h
  · simp [h]
  · split_ifs <;> simp [h]

theorem popPendingTransport_of_find? (ht : s.pendingTransports.find? (·.id == id) = some t) :
    (s.popPendingTransport true id).1 = .ok () := by
  have : (s.pendingTransports.findIdx? (·.id == id)).isSome := by
    rw [List.findIdx?_isSome, List.any_eq_true]
    exact ⟨t, List.mem_of_find?_eq_some ht, by simpa using List.find?_some ht⟩
  obtain ⟨i, hi⟩ := Option.isSome_iff_exists.mp this
  simp [popPendingTransport, hi]

theorem movePending_fst (hp : o.popLocks = true) : (s.movePending o did id).1 = .ok () := by
  cases hf : o.findLocks
  · rw [movePending_of_not_found (.inl hf)]
  · cases ht : s.pendingTransports.find? (·.id == id) with
    | none => rw [movePending_of_not_found (.inr ht)]
    | some t =>
      rw [movePending_of_found hf ht, hp]
      exact popPendingTransport_of_find? (by simpa using ht)

theorem movePending_transports :
    (s.movePending o did id).2.transports = s.transports ∨
      ∃ t, (s.movePending o did id).2.transports = Function.update s.transports did (some t) := by
  unfold movePending
  split
  · rename_i t _
    exact .inr ⟨t, by simp⟩
  · exact .inl rfl

theorem loadMessage_registerTransport_state :
    (s.loadMessage o (.ok (some (.registerTransport did id)))).2 = (s.movePending o did id).2 := by
  simp only [loadMessage]
  generalize s.movePending o did id = m
  rcases m with ⟨_ | _, s'⟩
  · rfl
  · simp only; split <;> rfl

theorem loadMessage_registerTransport (hp : o.popLocks = true) :
    s.loadMessage o (.ok (some (.registerTransport did id))) =
      (if ((s.movePending o did id).2.transports did).isSome then
        o.sign.map fun () => some (.joinDHT did)
      else .error (.swarmMissTransport did), (s.movePending o did id).2) := by
  have h : (s.movePending o did id).1 = .ok () := movePending_fst hp
  simp only [loadMessage]
  generalize s.movePending o did id = m at h
  obtain ⟨r, s'⟩ := m
  subst h
  simp only [getTransport]
  cases s'.transports did <;> rfl

theorem loadMessage_connectClosed :
    s.loadMessage o (.ok (some (.connectClosed did id))) =
      if (s.transports did).map Transport.id = some id then
        (o.sign.map fun () => some (.leaveDHT did),
          { (s.popPendingTransport o.popLocks id).2 with
            transports := Function.update s.transports did none })
      else (.ok none, (s.popPendingTransport o.popLocks id).2) := by
  simp only [loadMessage, getTransport, removeTransport, popPendingTransport_transports]
  cases h : s.transports did with
  | none => simp
  | some t => by_cases ht : t.id = id <;> simp [ht]

theorem loadMessage_connectClosed_state :
    (s.loadMessage o (.ok (some (.connectClosed did id)))).2 =
      if (s.transports did).map Transport.id = some id then
        { (s.popPendingTransport o.popLocks id).2 with
          transports := Function.update s.transports did none }
      else (s.popPendingTransport o.popLocks id).2 := by
  rw [loadMessage_connectClosed]
  split_ifs <;> rfl

theorem pollMessage_fst {ev : Except Error (Option Event)} :
    (s.pollMessage o ev).1 = (s.loadMessage o ev).1.toOption.join := by
  unfold pollMessage
  generalize s.loadMessage o ev = m
  rcases m with ⟨_ | _ | _, s'⟩ <;> rfl

@[simp] theorem pollMessage_state {ev : Except Error (Option Event)} :
    (s.pollMessage o ev).2 = (s.loadMessage o ev).2 := by
  unfold pollMessage
  generalize s.loadMessage o ev = m
  rcases m with ⟨_ | _ | _, s'⟩ <;> rfl

end Swarm

end BnsNodeProofs.RingsCore
