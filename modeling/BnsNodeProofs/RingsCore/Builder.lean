import BnsNodeProofs.RingsCore.Swarm

namespace BnsNodeProofs.RingsCore

/-- What the builder calls outside `swarm.rs`, over the abstract `SecretKey`, `SessionManager` and
`Ttl`: `SecretKey::address`, and `SessionManager::new_with_seckey`, whose errors are kept by a
code. -/
structure Keys (SecretKey SessionManager Ttl : Type) where
  address : SecretKey → Did
  newWithSeckey : SecretKey → Option Ttl → Except Nat SessionManager

inductive BuildError
  | swarmBuildFailed (reason : String)
  | sessionManager (code : Nat)
deriving DecidableEq, Repr

structure SwarmBuilder (SecretKey SessionManager Ttl : Type) where
  key : Option SecretKey
  dhtDid : Option Did
  dhtSuccMax : UInt8
  sessionManager : Option SessionManager
  sessionTtl : Option Ttl

/-- The fields of the `Swarm` that `build` makes that the model keeps: its transports, the DHT's
DID (what `Swarm::did` returns), the DHT's successor bound and the session manager. -/
structure Built (SessionManager : Type) where
  swarm : Swarm
  did : Did
  dhtSuccMax : UInt8
  sessionManager : SessionManager

inductive Setter (SecretKey SessionManager Ttl : Type)
  | dhtSuccMax (succMax : UInt8)
  | key (key : SecretKey)
  | sessionManager (did : Did) (sessionManager : SessionManager)
  | sessionTtl (ttl : Ttl)

variable {SecretKey SessionManager Ttl α β : Type} (k : Keys SecretKey SessionManager Ttl)

namespace SwarmBuilder

def new : SwarmBuilder SecretKey SessionManager Ttl := ⟨none, none, 3, none, none⟩

def set (b : SwarmBuilder SecretKey SessionManager Ttl) :
    Setter SecretKey SessionManager Ttl → SwarmBuilder SecretKey SessionManager Ttl
  | .dhtSuccMax succMax => { b with dhtSuccMax := succMax }
  | .key key => { b with key := some key, dhtDid := some (k.address key) }
  | .sessionManager did sessionManager =>
    { b with sessionManager := some sessionManager, dhtDid := some did }
  | .sessionTtl ttl => { b with sessionTtl := some ttl }

def setAll (b : SwarmBuilder SecretKey SessionManager Ttl) :
    List (Setter SecretKey SessionManager Ttl) → SwarmBuilder SecretKey SessionManager Ttl
  | [] => b
  | op :: ops => setAll (b.set k op) ops

def build (b : SwarmBuilder SecretKey SessionManager Ttl) :
    Except BuildError (Built SessionManager) :=
  let sessionManager : Except BuildError SessionManager :=
    match b.sessionManager, b.key with
    | some sessionManager, _ => .ok sessionManager
    | none, some key => (k.newWithSeckey key b.sessionTtl).mapError .sessionManager
    | none, none => .error (.swarmBuildFailed "Should set session_manager or key")
  match sessionManager with
  | .error e => .error e
  | .ok sessionManager =>
    match b.dhtDid with
    | none => .error (.swarmBuildFailed "Should set session_manager or key")
    | some dhtDid => .ok ⟨Swarm.empty, dhtDid, b.dhtSuccMax, sessionManager⟩

end SwarmBuilder

namespace Setter

def last (f : Setter SecretKey SessionManager Ttl → Option α) :
    List (Setter SecretKey SessionManager Ttl) → Option α
  | [] => none
  | op :: ops => (last f ops).or (f op)

def keyOf : Setter SecretKey SessionManager Ttl → Option SecretKey
  | .key sk => some sk
  | _ => none

def didOf : Setter SecretKey SessionManager Ttl → Option Did
  | .key sk => some (k.address sk)
  | .sessionManager did _ => some did
  | _ => none

def sessionManagerOf : Setter SecretKey SessionManager Ttl → Option SessionManager
  | .sessionManager _ sm => some sm
  | _ => none

def sessionTtlOf : Setter SecretKey SessionManager Ttl → Option Ttl
  | .sessionTtl ttl => some ttl
  | _ => none

def dhtSuccMaxOf : Setter SecretKey SessionManager Ttl → Option UInt8
  | .dhtSuccMax succMax => some succMax
  | _ => none

theorem last_isSome_of {f : Setter SecretKey SessionManager Ttl → Option α}
    {g : Setter SecretKey SessionManager Ttl → Option β} (h : ∀ op, (f op).isSome → (g op).isSome)
    (ops : List (Setter SecretKey SessionManager Ttl)) :
    (last f ops).isSome → (last g ops).isSome := by
  induction ops with
  | nil => exact id
  | cons op ops ih =>
    simp only [last, Option.isSome_or, Bool.or_eq_true]
    exact Or.imp ih (h op)

theorem last_didOf {ops : List (Setter SecretKey SessionManager Ttl)}
    (h : last sessionManagerOf ops = none) : last (didOf k) ops = (last keyOf ops).map k.address := by
  induction ops with
  | nil => rfl
  | cons op ops ih =>
    simp only [last, Option.or_eq_none] at h ⊢
    rw [ih h.1]
    cases op <;> cases last keyOf ops <;> simp_all [didOf, keyOf, sessionManagerOf]

end Setter

namespace SwarmBuilder

open Setter

variable {k} {b : SwarmBuilder SecretKey SessionManager Ttl}
  {ops : List (Setter SecretKey SessionManager Ttl)}

theorem setAll_field (π : SwarmBuilder SecretKey SessionManager Ttl → Option α)
    (f : Setter SecretKey SessionManager Ttl → Option α) (hf : ∀ b op, π (b.set k op) = (f op).or (π b))
    (b : SwarmBuilder SecretKey SessionManager Ttl) (ops : List (Setter SecretKey SessionManager Ttl)) :
    π (b.setAll k ops) = (last f ops).or (π b) := by
  induction ops generalizing b with
  | nil => rfl
  | cons op ops ih => rw [setAll, ih, hf, last, Option.or_assoc]

@[simp] theorem setAll_key : (b.setAll k ops).key = (last keyOf ops).or b.key :=
  setAll_field key keyOf (fun _ op => by cases op <;> rfl) b ops

@[simp] theorem setAll_dhtDid : (b.setAll k ops).dhtDid = (last (didOf k) ops).or b.dhtDid :=
  setAll_field dhtDid (didOf k) (fun _ op => by cases op <;> rfl) b ops

@[simp] theorem setAll_sessionManager :
    (b.setAll k ops).sessionManager = (last sessionManagerOf ops).or b.sessionManager :=
  setAll_field sessionManager sessionManagerOf (fun _ op => by cases op <;> rfl) b ops

@[simp] theorem setAll_sessionTtl :
    (b.setAll k ops).sessionTtl = (last sessionTtlOf ops).or b.sessionTtl :=
  setAll_field sessionTtl sessionTtlOf (fun _ op => by cases op <;> rfl) b ops

@[simp] theorem setAll_dhtSuccMax :
    (b.setAll k ops).dhtSuccMax = (last dhtSuccMaxOf ops).getD b.dhtSuccMax := by
  have h : some (b.setAll k ops).dhtSuccMax = (last dhtSuccMaxOf ops).or (some b.dhtSuccMax) :=
    setAll_field (fun b => some b.dhtSuccMax) dhtSuccMaxOf (fun _ op => by cases op <;> rfl) b ops
  cases hl : last dhtSuccMaxOf ops <;> simp_all

theorem setAll_append {ops' : List (Setter SecretKey SessionManager Ttl)} :
    b.setAll k (ops ++ ops') = (b.setAll k ops).setAll k ops' := by
  induction ops generalizing b with
  | nil => rfl
  | cons op ops ih => exact ih

theorem build_of_sessionManager {sessionManager : SessionManager} {did : Did}
    (hs : b.sessionManager = some sessionManager) (hd : b.dhtDid = some did) :
    b.build k = .ok ⟨Swarm.empty, did, b.dhtSuccMax, sessionManager⟩ := by
  simp only [build, hs, hd]

theorem build_of_key {key : SecretKey} {did : Did} (hs : b.sessionManager = none)
    (hk : b.key = some key) (hd : b.dhtDid = some did) :
    b.build k = ((k.newWithSeckey key b.sessionTtl).mapError .sessionManager).map
      (⟨Swarm.empty, did, b.dhtSuccMax, ·⟩) := by
  simp only [build, hs, hk, hd]
  cases k.newWithSeckey key b.sessionTtl <;> rfl

/-- Along every run of setters from `SwarmBuilder::new`, `build` gives the session manager of
the last `session_manager` call, under the DID of the last of `key` and `session_manager`
called; with no `session_manager` call, the session manager `new_with_seckey` makes from the
last key, under that key's address; and with neither, `SwarmBuildFailed`. The check of
`dht_did` never fails, and every swarm built starts with no pending and no registered
transport. -/
theorem build_follows_last_calls (ops : List (Setter SecretKey SessionManager Ttl)) :
    (∀ sm, last sessionManagerOf ops = some sm → ∃ did, last (didOf k) ops = some did ∧
      (new.setAll k ops).build k = .ok ⟨Swarm.empty, did, (last dhtSuccMaxOf ops).getD 3, sm⟩) ∧
    (∀ sk, last sessionManagerOf ops = none → last keyOf ops = some sk →
      (new.setAll k ops).build k =
        ((k.newWithSeckey sk (last sessionTtlOf ops)).mapError .sessionManager).map
          (⟨Swarm.empty, k.address sk, (last dhtSuccMaxOf ops).getD 3, ·⟩)) ∧
    (last sessionManagerOf ops = none → last keyOf ops = none →
      (new.setAll k ops).build k = .error (.swarmBuildFailed "Should set session_manager or key")) := by
  have hsucc : (last dhtSuccMaxOf ops).getD 3 = (new.setAll k ops).dhtSuccMax := by simp [new]
  have httl : last sessionTtlOf ops = (new.setAll k ops).sessionTtl := by
    simp [new, Option.or_none]
  rw [hsucc, httl]
  refine ⟨fun sm hs => ?_, fun sk hs hk => ?_, fun hs hk => ?_⟩
  · have hsome : (last (didOf k) ops).isSome := last_isSome_of
      (fun op => by cases op <;> simp [sessionManagerOf, didOf]) ops
      (by simp [hs] : (last sessionManagerOf ops).isSome)
    obtain ⟨did, hd⟩ := Option.isSome_iff_exists.mp hsome
    exact ⟨did, hd, build_of_sessionManager (by simp [hs, new]) (by simp [hd, new])⟩
  · have hd : last (didOf k) ops = some (k.address sk) := by rw [last_didOf k hs, hk]; rfl
    exact build_of_key (by simp [hs, new]) (by simp [hk, new]) (by simp [hd, new])
  · simp [build, hs, hk, new]

example :
    let k : Keys Nat Nat Nat := ⟨fun sk => ⟨BitVec.ofNat 160 sk⟩, fun sk _ => .ok (sk + 10)⟩
    (new.setAll k [.sessionManager ⟨1⟩ 5, .key 2]).build k = .ok ⟨Swarm.empty, ⟨2⟩, 3, 5⟩ := rfl

end SwarmBuilder

end BnsNodeProofs.RingsCore
