import Mathlib.Data.List.Nodup
import Mathlib.Logic.Function.Basic

/-!
The transport table of the `bns-core` `Swarm` (`bns-core/src/swarm.rs`) and
`TransportManager::register`, which puts a transport in the table and closes the transport it
displaces, whichever that is: the same transport registered again is closed while it stays in
the table. Registering each transport at most once, no live transport is closed and none is
closed twice.
-/

namespace BnsNodeProofs.BnsCore

structure Address where
  toBitVec : BitVec 160
deriving DecidableEq, Repr

/-- An `Arc<Transport>`, by the identity of the allocation it points to. -/
structure Transport where
  id : Nat
deriving DecidableEq, Repr

structure Swarm where
  table : Address → Option Transport
  closed : List Transport

namespace Swarm

def new : Swarm := ⟨fun _ => none, []⟩

/-- Modelled from the spec: `MemStorage::set` is not in the sources. It replaces the entry of
`address` and returns the value it displaces, as the registry's replace-on-write does. -/
def set (table : Address → Option Transport) (address : Address) (trans : Transport) :
    Option Transport × (Address → Option Transport) :=
  (table address, Function.update table address (some trans))

/-- `register`: a failed `close()` is only logged, and the call returns `Ok(())`. -/
def register (s : Swarm) (address : Address) (trans : Transport) : Swarm :=
  match set s.table address trans with
  | (some prevTrans, table) => ⟨table, s.closed ++ [prevTrans]⟩
  | (none, table) => ⟨table, s.closed⟩

def getTransport (s : Swarm) (address : Address) : Option Transport :=
  s.table address

def registerAll (s : Swarm) : List (Address × Transport) → Swarm
  | [] => s
  | (address, transport) :: calls => (s.register address transport).registerAll calls

variable {s : Swarm} {address : Address} {trans : Transport}

@[simp] theorem register_table :
    (s.register address trans).table = Function.update s.table address (some trans) := by
  unfold register set
  split <;> simp_all

@[simp] theorem register_closed :
    (s.register address trans).closed = s.closed ++ (s.table address).toList := by
  unfold register set
  split <;> simp_all

structure Inv (used : List Transport) (s : Swarm) : Prop where
  table_used : ∀ a t, s.table a = some t → t ∈ used
  closed_used : ∀ t ∈ s.closed, t ∈ used
  live_not_closed : ∀ a t, s.table a = some t → t ∉ s.closed
  closed_nodup : s.closed.Nodup
  table_inj : ∀ a b t, s.table a = some t → s.table b = some t → a = b

theorem register_table_eq_some {a : Address} {t : Transport} :
    (s.register address trans).table a = some t ↔
      a = address ∧ trans = t ∨ a ≠ address ∧ s.table a = some t := by
  rw [register_table]
  rcases eq_or_ne a address with rfl | ha
  · simp
  · simp [ha]

theorem Inv.register {used : List Transport} (hi : Inv used s) (hf : trans ∉ used) :
    Inv (trans :: used) (s.register address trans) := by
  have hne : ∀ a, s.table a ≠ some trans := fun a h => hf (hi.table_used a trans h)
  refine ⟨fun a t h => ?_, fun t h => ?_, fun a t h => ?_, ?_, fun a b t ha hb => ?_⟩
  · rcases register_table_eq_some.mp h with ⟨-, rfl⟩ | ⟨-, h⟩
    · exact .head _
    · exact .tail _ (hi.table_used a t h)
  · rw [register_closed, List.mem_append, Option.mem_toList] at h
    rcases h with h | h
    · exact .tail _ (hi.closed_used t h)
    · exact .tail _ (hi.table_used address t h)
  · rw [register_closed, List.mem_append, not_or, Option.mem_toList]
    rcases register_table_eq_some.mp h with ⟨rfl, rfl⟩ | ⟨ha, h⟩
    · exact ⟨fun hc => hf (hi.closed_used _ hc), hne a⟩
    · exact ⟨hi.live_not_closed a t h, fun hp => ha (hi.table_inj a address t h hp)⟩
  · rw [register_closed]
    cases hp : s.table address with
    | none => simpa using hi.closed_nodup
    | some p =>
      exact hi.closed_nodup.append (List.nodup_singleton p)
        (List.disjoint_singleton.mpr (hi.live_not_closed address p hp))
  · rcases register_table_eq_some.mp ha with ⟨hA, rfl⟩ | ⟨-, ha⟩ <;>
      rcases register_table_eq_some.mp hb with ⟨hB, htb⟩ | ⟨-, hb⟩
    · exact hA.trans hB.symm
    · exact absurd hb (hne b)
    · subst htb; exact absurd ha (hne a)
    · exact hi.table_inj a b t ha hb

theorem Inv.registerAll {used : List Transport} {calls : List (Address × Transport)}
    (hi : Inv used s) (hf : (calls.map Prod.snd).Nodup) (hd : ∀ c ∈ calls, c.2 ∉ used) :
    Inv (calls.reverse.map Prod.snd ++ used) (s.registerAll calls) := by
  induction calls generalizing s used with
  | nil => simpa [registerAll] using hi
  | cons c calls ih =>
    obtain ⟨address, trans⟩ := c
    rw [List.map_cons, List.nodup_cons] at hf
    have hn : trans ∉ calls.map Prod.snd := hf.1
    have h₁ : Inv (trans :: used) (s.register address trans) :=
      hi.register (hd _ (List.mem_cons_self _ _))
    have h := ih h₁ hf.2 fun c hc hu => by
      rcases List.mem_cons.mp hu with hu | hu
      · exact hn (hu ▸ List.mem_map_of_mem Prod.snd hc)
      · exact hd c (List.mem_cons_of_mem _ hc) hu
    simpa [registerAll] using h

/-- `register` closes the transport it displaces and no other. So when each transport is
registered at most once, no transport in the table has been closed, and none has been closed
twice. -/
theorem register_closes_only_displaced :
    (∀ (s : Swarm) address trans,
      (s.register address trans).table = Function.update s.table address (some trans) ∧
      (s.register address trans).closed = s.closed ++ (s.table address).toList) ∧
    (∀ calls : List (Address × Transport), (calls.map Prod.snd).Nodup →
      (new.registerAll calls).closed.Nodup ∧
      ∀ a t, (new.registerAll calls).table a = some t → t ∉ (new.registerAll calls).closed) := by
  refine ⟨fun _ _ _ => ⟨register_table, register_closed⟩, fun calls hf => ?_⟩
  have hi : Inv [] new := ⟨by simp [new], by simp [new], by simp [new], by simp [new], by simp [new]⟩
  have h := hi.registerAll hf (by simp)
  exact ⟨h.closed_nodup, h.live_not_closed⟩

/-- A transport registered twice under one address is closed while it stays in the table, and
registering `t0`, `t1`, `t0`, `t1` under one address closes `t0` twice. -/
theorem register_closes_live_transport :
    let s := (new.register ⟨0⟩ ⟨0⟩).register ⟨0⟩ ⟨0⟩
    s.table ⟨0⟩ = some ⟨0⟩ ∧ s.closed = [⟨0⟩] ∧
    ((((new.register ⟨0⟩ ⟨0⟩).register ⟨0⟩ ⟨1⟩).register ⟨0⟩ ⟨0⟩).register ⟨0⟩ ⟨1⟩).closed =
      [⟨0⟩, ⟨1⟩, ⟨0⟩] :=
  ⟨rfl, rfl, rfl⟩

end Swarm

end BnsNodeProofs.BnsCore
