import BnsNodeProofs.BnsCore.Swarm

namespace BnsNodeProofs.BnsCore

namespace Swarm

/-- Modelled from the spec: `MemStorage::get_or_set` is not in the sources. It returns the entry
of `address` when there is one, and otherwise puts `default` there and returns it. -/
def getOrSet (table : Address → Option Transport) (address : Address) (default : Transport) :
    Transport × (Address → Option Transport) :=
  match table address with
  | some transport => (transport, table)
  | none => (default, Function.update table address (some default))

def getOrRegister (s : Swarm) (address : Address) (default : Transport) (connected : Bool) :
    Except String Transport × Swarm :=
  if !connected then (.error "default transport is not connected", s)
  else
    match getOrSet s.table address default with
    | (transport, table) => (.ok transport, { s with table := table })

def sendMessage (s : Swarm) (address : Address) (send : Transport → Except String Unit) :
    Except String Unit :=
  match s.getTransport address with
  | some transport => send transport
  | none => .error "cannot seek address in swarm table"

inductive Call
  | register (address : Address) (trans : Transport)
  | getOrRegister (address : Address) (default : Transport) (connected : Bool)

def Call.transport : Call → Transport
  | .register _ transport | .getOrRegister _ transport _ => transport

def call (s : Swarm) : Call → Swarm
  | .register address transport => s.register address transport
  | .getOrRegister address default connected => (s.getOrRegister address default connected).2

def callAll (s : Swarm) : List Call → Swarm
  | [] => s
  | c :: calls => (s.call c).callAll calls

variable {s : Swarm} {address : Address} {default : Transport} {connected : Bool}

theorem getOrRegister_eq_or (s : Swarm) (address : Address) (default : Transport)
    (connected : Bool) :
    (s.getOrRegister address default connected).2 = s ∨
    s.table address = none ∧
      (s.getOrRegister address default connected).2 = s.register address default := by
  cases connected with
  | false => exact .inl rfl
  | true =>
    simp only [getOrRegister, getOrSet, Bool.not_true]
    cases h : s.table address with
    | none => exact .inr ⟨rfl, by simp [register, set, h]⟩
    | some t => exact .inl rfl

theorem getOrRegister_ok (hc : connected = true) :
    ∃ t, (s.getOrRegister address default connected).1 = .ok t ∧
      (s.getOrRegister address default connected).2.table address = some t := by
  subst hc
  simp only [getOrRegister, getOrSet, Bool.not_true]
  cases h : s.table address with
  | none => exact ⟨default, rfl, by simp⟩
  | some t => exact ⟨t, rfl, h⟩

theorem sendMessage_eq_ok {send : Transport → Except String Unit} :
    s.sendMessage address send = .ok () ↔ ∃ t, s.table address = some t ∧ send t = .ok () := by
  unfold sendMessage getTransport
  cases s.table address <;> simp

theorem Inv.mono {used used' : List Transport} (hi : Inv used s) (h : used ⊆ used') :
    Inv used' s :=
  ⟨fun a t ht => h (hi.table_used a t ht), fun t ht => h (hi.closed_used t ht),
    hi.live_not_closed, hi.closed_nodup, hi.table_inj⟩

theorem Inv.call {used : List Transport} {c : Call} (hi : Inv used s) (hf : c.transport ∉ used) :
    Inv (c.transport :: used) (s.call c) := by
  cases c with
  | register address transport =>
    rw [Swarm.call]
    exact hi.register hf
  | getOrRegister address default connected =>
    rw [Swarm.call]
    rcases getOrRegister_eq_or s address default connected with h | ⟨-, h⟩
    · rw [h]
      exact hi.mono (List.subset_cons_self _ _)
    · rw [h]
      exact hi.register hf

theorem Inv.callAll {used : List Transport} {calls : List Call} (hi : Inv used s)
    (hf : (calls.map Call.transport).Nodup) (hd : ∀ c ∈ calls, c.transport ∉ used) :
    Inv (calls.map Call.transport ++ used) (s.callAll calls) := by
  induction calls generalizing s used with
  | nil => exact hi
  | cons c calls ih =>
    rw [List.map_cons, List.nodup_cons] at hf
    have hd' : ∀ c' ∈ calls, c'.transport ∉ c.transport :: used := fun c' hc' hu => by
      rcases List.mem_cons.mp hu with hu | hu
      · exact hf.1 (hu ▸ List.mem_map_of_mem _ hc')
      · exact hd c' (List.mem_cons_of_mem _ hc') hu
    refine (ih (hi.call (hd c (List.mem_cons_self _ _))) hf.2 hd').mono fun x hx => ?_
    simp only [List.mem_append, List.mem_cons, List.map_cons] at hx ⊢
    tauto

/-- Along every run of `register` and `get_or_register` calls from `Swarm::new` in which each
transport is offered at most once, no transport in the table has been closed, none has been
closed twice, and none is under two addresses; so `send_message` then succeeds only through the
address's entry, a transport that has not been closed. -/
theorem calls_keep_transports_apart (calls : List Call) (hf : (calls.map Call.transport).Nodup) :
    (new.callAll calls).closed.Nodup ∧
    (∀ a t, (new.callAll calls).table a = some t → t ∉ (new.callAll calls).closed) ∧
    (∀ a b t, (new.callAll calls).table a = some t → (new.callAll calls).table b = some t →
      a = b) ∧
    (∀ a send, (new.callAll calls).sendMessage a send = .ok () → ∃ t,
      (new.callAll calls).table a = some t ∧ t ∉ (new.callAll calls).closed ∧ send t = .ok ()) ∧
    (∀ (s : Swarm) address default connected,
      (s.getOrRegister address default connected).2 = s ∨ s.table address = none ∧
        (s.getOrRegister address default connected).2 = s.register address default) ∧
    (∀ (s : Swarm) address default, ∃ t, (s.getOrRegister address default true).1 = .ok t ∧
      (s.getOrRegister address default true).2.table address = some t) := by
  have hi : Inv [] new := ⟨by simp [new], by simp [new], by simp [new], by simp [new], by simp [new]⟩
  have h := hi.callAll hf (by simp)
  refine ⟨h.closed_nodup, h.live_not_closed, h.table_inj, fun a _ hs => ?_, getOrRegister_eq_or,
    fun _ _ _ => getOrRegister_ok rfl⟩
  obtain ⟨t, ht, hst⟩ := sendMessage_eq_ok.mp hs
  exact ⟨t, ht, h.live_not_closed a t ht, hst⟩

theorem calls_keep_transports_apart_three :
    let calls := [Call.register ⟨0⟩ ⟨0⟩, .getOrRegister ⟨0⟩ ⟨1⟩ true, .register ⟨0⟩ ⟨2⟩]
    (calls.map Call.transport).Nodup ∧
    ((new.callAll calls).closed.Nodup ∧
      (∀ a t, (new.callAll calls).table a = some t → t ∉ (new.callAll calls).closed) ∧
      (∀ a b t, (new.callAll calls).table a = some t → (new.callAll calls).table b = some t →
        a = b) ∧
      (∀ a send, (new.callAll calls).sendMessage a send = .ok () → ∃ t,
        (new.callAll calls).table a = some t ∧ t ∉ (new.callAll calls).closed ∧ send t = .ok ()) ∧
      (∀ (s : Swarm) address default connected,
        (s.getOrRegister address default connected).2 = s ∨ s.table address = none ∧
          (s.getOrRegister address default connected).2 = s.register address default) ∧
      (∀ (s : Swarm) address default, ∃ t, (s.getOrRegister address default true).1 = .ok t ∧
        (s.getOrRegister address default true).2.table address = some t)) :=
  ⟨by simp [Call.transport], calls_keep_transports_apart
    [Call.register ⟨0⟩ ⟨0⟩, .getOrRegister ⟨0⟩ ⟨1⟩ true, .register ⟨0⟩ ⟨2⟩] (by simp [Call.transport])⟩

/-- Modelled from the spec: the channel's `Event` is not in the sources. `load_message` reads
its `ReceiveMsg` variant; the others are kept by a tag. -/
inductive Event
  | receiveMsg (msg : List UInt8)
  | other (tag : Nat)
deriving DecidableEq, Repr

variable {M : Type} (decode : List UInt8 → Except String M)

def loadMessage : Except String (Option Event) → Except String (Option M)
  | .error e => .error e
  | .ok (some (.receiveMsg msg)) => (decode msg).map some
  | .ok none => .ok none
  | .ok (some (.other tag)) => .error ("Receive " ++ toString tag)

def pollMessage (ev : Except String (Option Event)) : Option M :=
  match loadMessage decode ev with
  | .ok (some msg) => some msg
  | _ => none

def iterMessages : List (Except String (Option Event)) → List M
  | [] => []
  | ev :: evs =>
    match loadMessage decode ev with
    | .ok (some msg) => msg :: iterMessages evs
    | _ => iterMessages evs

end Swarm

end BnsNodeProofs.BnsCore
