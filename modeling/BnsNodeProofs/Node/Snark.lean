import Mathlib.Data.Nat.Pairing
import BnsNodeProofs.Basic

/-!
The SNARK backend of the node (`crates/node/src/backend/snark.rs`). A node that receives a
`SNARKProof` task proves it and sends the proof back to the task's origin as a `SNARKVerify`
task under the same task id; a node that receives a `SNARKVerify` task checks the proof against
the task it holds under that id and records the result in `verified`. The check unwraps the
first circuit of the held generator, and panics when it has none.

The SNARK library and `serde_json` are kept abstract (`Snark`). Nothing in the sources writes
the `task` map, so a behaviour made by `SNARKBehaviour::new` never records a result.
-/

namespace BnsNodeProofs.Node

structure TaskId where
  toBitVec : BitVec 128
deriving DecidableEq, Repr

inductive Error
  | snarkCurveNotMatch
  | external (code : Nat)
deriving DecidableEq, Repr

inductive Failure
  | err (e : Error)
  | unwrapNone
deriving DecidableEq, Repr

inductive Curve
  | vastaPallas
  | pallasVasta
  | bn256KZGGrumpkin
deriving DecidableEq, Repr

/-- A `SNARKGenerator`: its folded SNARK and public parameters by identity, and its circuits by
their public inputs. -/
structure Generator where
  params : Nat
  circuits : List Nat
deriving DecidableEq, Repr

inductive SNARKProofTask
  | vastaPallas (s : Generator)
  | pallasVasta (s : Generator)
  | bn256KZGGrumpkin (s : Generator)
deriving DecidableEq, Repr

inductive SNARKVerifyTask
  | vastaPallas (p : String)
  | pallasVasta (p : String)
  | bn256KZGGrumpkin (p : String)
deriving DecidableEq, Repr

inductive SNARKTask
  | snarkProof (t : SNARKProofTask)
  | snarkVerify (t : SNARKVerifyTask)
deriving DecidableEq, Repr

structure SNARKTaskMessage where
  taskId : TaskId
  task : SNARKTask
deriving DecidableEq, Repr

/-- What the SNARK library and `serde_json` return, per curve cycle: `setup` gives the prover
and verifier keys, `prove` the compressed proof, `toString` and `fromString` (de)serialise the
pair of verifier key and proof, and `compressVerify` is `compress_verify(proof, vk, steps,
first_input).is_ok()`. -/
structure Snark where
  setup : Curve → Generator → Except Error (Nat × Nat)
  prove : Curve → Generator → Nat → Except Error Nat
  toString : Curve → Nat × Nat → Except Error String
  fromString : Curve → String → Except Error (Nat × Nat)
  compressVerify : Curve → Nat × Nat → Nat → Nat → Bool

def Snark.RoundTrip (k : Snark) : Prop :=
  ∀ c x str, k.toString c x = .ok str → k.fromString c str = .ok x

namespace SNARKProofTask

def curve : SNARKProofTask → Curve
  | .vastaPallas _ => .vastaPallas
  | .pallasVasta _ => .pallasVasta
  | .bn256KZGGrumpkin _ => .bn256KZGGrumpkin

def generator : SNARKProofTask → Generator
  | .vastaPallas s | .pallasVasta s | .bn256KZGGrumpkin s => s

end SNARKProofTask

namespace SNARKVerifyTask

def curve : SNARKVerifyTask → Curve
  | .vastaPallas _ => .vastaPallas
  | .pallasVasta _ => .pallasVasta
  | .bn256KZGGrumpkin _ => .bn256KZGGrumpkin

end SNARKVerifyTask

variable (k : Snark)

def proofOn (c : Curve) (s : Generator) : Except Error String :=
  match k.setup c s with
  | .error e => .error e
  | .ok (pk, vk) =>
    match k.prove c s pk with
    | .error e => .error e
    | .ok proof => k.toString c (vk, proof)

def handleSnarkProofTask : SNARKProofTask → Except Error SNARKVerifyTask
  | .vastaPallas s => (proofOn k .vastaPallas s).map .vastaPallas
  | .pallasVasta s => (proofOn k .pallasVasta s).map .pallasVasta
  | .bn256KZGGrumpkin s => (proofOn k .bn256KZGGrumpkin s).map .bn256KZGGrumpkin

/-- `SNARKGenerator::verify`, `is_ok()` taken: `compress_verify` with the number of circuits and
the public inputs of the first, which `first().unwrap()` takes. -/
def Generator.verify (g : Generator) (c : Curve) (proof : Nat × Nat) : Except Failure Bool :=
  let steps := g.circuits.length
  match g.circuits.head? with
  | none => .error .unwrapNone
  | some firstInput => .ok (k.compressVerify c proof steps firstInput)

def verifyOn (c : Curve) (p : String) (snark : SNARKProofTask) : Except Failure Bool :=
  match k.fromString c p with
  | .error e => .error (.err e)
  | .ok proof =>
    if snark.curve = c then snark.generator.verify k c proof else .error (.err .snarkCurveNotMatch)

def handleSnarkVerifyTask (data : SNARKVerifyTask) (snark : SNARKProofTask) :
    Except Failure Bool :=
  match data with
  | .pallasVasta p => verifyOn k .pallasVasta p snark
  | .vastaPallas p => verifyOn k .vastaPallas p snark
  | .bn256KZGGrumpkin p => verifyOn k .bn256KZGGrumpkin p snark

structure SNARKBehaviour where
  task : TaskId → Option SNARKProofTask
  verified : TaskId → Option Bool

def SNARKBehaviour.new : SNARKBehaviour := ⟨fun _ => none, fun _ => none⟩

structure Provider where
  params : Except Error Unit
  request : Except Error Unit

def handleMessage (p : Provider) (b : SNARKBehaviour) (verifier : Did) (msg : SNARKTaskMessage) :
    Except Failure Unit × SNARKBehaviour × Option (Did × SNARKTaskMessage) :=
  match msg.task with
  | .snarkProof t =>
    match handleSnarkProofTask k t with
    | .error e => (.error (.err e), b, none)
    | .ok proof =>
      match p.params, p.request with
      | .error e, _ => (.error (.err e), b, none)
      | .ok (), .error e => (.error (.err e), b, none)
      | .ok (), .ok () => (.ok (), b, some (verifier, ⟨msg.taskId, .snarkVerify proof⟩))
  | .snarkVerify t =>
    match b.task msg.taskId with
    | none => (.ok (), b, none)
    | some task =>
      match handleSnarkVerifyTask k t task with
      | .error e => (.error e, b, none)
      | .ok verified => (.ok (), { b with verified := Function.update b.verified msg.taskId verified }, none)

def handleAll (b : SNARKBehaviour) : List (Provider × Did × SNARKTaskMessage) → SNARKBehaviour
  | [] => b
  | (p, verifier, msg) :: msgs => handleAll (handleMessage k p b verifier msg).2.1 msgs

variable {k} {p : Provider} {b : SNARKBehaviour} {verifier : Did} {msg : SNARKTaskMessage}

@[simp] theorem handleMessage_task : (handleMessage k p b verifier msg).2.1.task = b.task := by
  unfold handleMessage
  split <;> split <;> (try split) <;> rfl

@[simp] theorem handleAll_task (msgs : List (Provider × Did × SNARKTaskMessage)) :
    (handleAll k b msgs).task = b.task := by
  induction msgs generalizing b with
  | nil => rfl
  | cons m msgs ih => simp [handleAll, ih]

theorem handleMessage_verified (p : Provider) (b : SNARKBehaviour) (verifier : Did)
    (msg : SNARKTaskMessage) (id : TaskId) :
    (handleMessage k p b verifier msg).2.1.verified id = b.verified id ∨
    ∃ t task v, msg.taskId = id ∧ msg.task = .snarkVerify t ∧ b.task id = some task ∧
      handleSnarkVerifyTask k t task = .ok v ∧
      (handleMessage k p b verifier msg).2.1.verified id = some v := by
  unfold handleMessage
  split
  · exact .inl (by split <;> (try split) <;> rfl)
  · rename_i t ht
    split
    · exact .inl rfl
    · rename_i task htask
      split
      · exact .inl rfl
      · rename_i v hv
        by_cases hid : msg.taskId = id
        · subst hid
          exact .inr ⟨t, task, v, rfl, ht, htask, hv, by simp⟩
        · exact .inl (by simp [Function.update_noteq (Ne.symm hid)])

theorem handleAll_verified (msgs : List (Provider × Did × SNARKTaskMessage)) (id : TaskId) :
    (handleAll k b msgs).verified id = b.verified id ∨
    ∃ t task v, ⟨id, .snarkVerify t⟩ ∈ msgs.map (·.2.2) ∧ b.task id = some task ∧
      handleSnarkVerifyTask k t task = .ok v ∧ (handleAll k b msgs).verified id = some v := by
  induction msgs generalizing b with
  | nil => exact .inl rfl
  | cons m msgs ih =>
    obtain ⟨p, verifier, msg⟩ := m
    rcases ih with h | ⟨t, task, v, hm, ht, hv, h⟩
    · rcases handleMessage_verified p b verifier msg id with h' | ⟨t, task, v, rfl, hmt, ht, hv, h'⟩
      · exact .inl (h.trans h')
      · have hmsg : msg = ⟨msg.taskId, .snarkVerify t⟩ := by rw [← hmt]
        exact .inr ⟨t, task, v, hmsg ▸ List.mem_cons_self _ _, ht, hv, h.trans h'⟩
    · rw [handleMessage_task] at ht
      exact .inr ⟨t, task, v, List.mem_cons_of_mem _ hm, ht, hv, h⟩

theorem proofOn_ok {c : Curve} {s : Generator} {str : String} (h : proofOn k c s = .ok str) :
    ∃ pk vk proof, k.setup c s = .ok (pk, vk) ∧ k.prove c s pk = .ok proof ∧
      k.toString c (vk, proof) = .ok str := by
  unfold proofOn at h
  split at h
  · cases h
  · split at h
    · cases h
    · exact ⟨_, _, _, ‹_›, ‹_›, h⟩

theorem Generator.verify_of_ne_nil {g : Generator} (c : Curve) (proof : Nat × Nat)
    (h : g.circuits ≠ []) :
    g.verify k c proof = .ok (k.compressVerify c proof g.circuits.length (g.circuits.head h)) := by
  obtain ⟨params, _ | ⟨x, xs⟩⟩ := g
  · exact absurd rfl h
  · rfl

theorem handleSnarkVerifyTask_of_proof (hrt : k.RoundTrip) {t : SNARKProofTask}
    {proof : SNARKVerifyTask} (h : handleSnarkProofTask k t = .ok proof) (held : SNARKProofTask) :
    ∃ pk vk π, k.setup t.curve t.generator = .ok (pk, vk) ∧
      k.prove t.curve t.generator pk = .ok π ∧
      handleSnarkVerifyTask k proof held = if held.curve = t.curve
        then held.generator.verify k t.curve (vk, π) else .error (.err .snarkCurveNotMatch) := by
  have hp : ∃ str, proofOn k t.curve t.generator = .ok str ∧
      ∀ held, handleSnarkVerifyTask k proof held = verifyOn k t.curve str held := by
    cases t <;> simp only [handleSnarkProofTask, Except.map] at h <;> split at h <;> cases h <;>
      exact ⟨_, ‹_›, fun _ => rfl⟩
  obtain ⟨str, hs, hv⟩ := hp
  obtain ⟨pk, vk, π, h1, h2, h3⟩ := proofOn_ok hs
  refine ⟨pk, vk, π, h1, h2, ?_⟩
  rw [hv, verifyOn, hrt _ _ _ h3]

/-- A `SNARKProof` task handled at the prover either fails, sending nothing, or sends a
`SNARKVerify` task under the same id to the task's origin. A verifier holding a task under that
id, whose generator has circuits, records the check of the prover's verifier key and proof
against them, when both are on one curve cycle; when they are not, it fails with
`SNARKCurveNotMatch` and records nothing. The prover's own behaviour never changes. -/
theorem proof_reply_verifies (hrt : k.RoundTrip) (p p' : Provider) (b b' : SNARKBehaviour)
    (origin sender : Did) (id : TaskId) (t held : SNARKProofTask) (hh : b'.task id = some held)
    (hc : held.generator.circuits ≠ []) :
    (∃ err, handleMessage k p b origin ⟨id, .snarkProof t⟩ = (.error err, b, none)) ∨
    ∃ m pk vk π, handleMessage k p b origin ⟨id, .snarkProof t⟩ = (.ok (), b, some (origin, m)) ∧
      m.taskId = id ∧ k.setup t.curve t.generator = .ok (pk, vk) ∧
      k.prove t.curve t.generator pk = .ok π ∧
      handleMessage k p' b' sender m = if held.curve = t.curve
        then (.ok (), { b' with verified := Function.update b'.verified id (some
          (k.compressVerify t.curve (vk, π) held.generator.circuits.length
            (held.generator.circuits.head hc))) }, none)
        else (.error (.err .snarkCurveNotMatch), b', none) := by
  cases hp : handleSnarkProofTask k t with
  | error e => exact .inl ⟨.err e, by simp only [handleMessage, hp]⟩
  | ok proof =>
    obtain ⟨pk, vk, π, h1, h2, h3⟩ := handleSnarkVerifyTask_of_proof hrt hp held
    rcases hpa : p.params with e | ⟨⟩
    · exact .inl ⟨.err e, by simp only [handleMessage, hp, hpa]⟩
    rcases hrq : p.request with e | ⟨⟩
    · exact .inl ⟨.err e, by simp only [handleMessage, hp, hpa, hrq]⟩
    refine .inr ⟨⟨id, .snarkVerify proof⟩, pk, vk, π, by simp only [handleMessage, hp, hpa, hrq],
      rfl, h1, h2, ?_⟩
    simp only [handleMessage, hh, h3, Generator.verify_of_ne_nil _ _ hc]
    split_ifs <;> rfl

/-- A stand-in for the SNARK library whose serialisation is a unary code of the paired key and
proof, and whose check accepts the proof its own `prove` makes. -/
def unarySnark : Snark where
  setup _ s := .ok (s.params, s.params + 1)
  prove _ _ pk := .ok (pk + 1)
  toString _ x := .ok ⟨List.replicate (Nat.pair x.1 x.2) 'a'⟩
  fromString _ str := .ok (Nat.unpair str.data.length)
  compressVerify _ x _ _ := x.1 == x.2

theorem unarySnark_roundTrip : unarySnark.RoundTrip := by
  rintro c ⟨vk, π⟩ str ⟨⟩
  simp [unarySnark, Nat.unpair_pair]

theorem proof_reply_verifies_pallasVasta :
    let b' : SNARKBehaviour := ⟨fun _ => some (.pallasVasta ⟨3, [7]⟩), fun _ => none⟩
    let t : SNARKProofTask := .pallasVasta ⟨3, [7]⟩
    unarySnark.RoundTrip ∧ b'.task ⟨0⟩ = some t ∧ t.generator.circuits ≠ [] ∧
    ((∃ err, handleMessage unarySnark ⟨.ok (), .ok ()⟩ .new ⟨0⟩ ⟨⟨0⟩, .snarkProof t⟩ =
        (.error err, .new, none)) ∨
      ∃ m pk vk π, handleMessage unarySnark ⟨.ok (), .ok ()⟩ .new ⟨0⟩ ⟨⟨0⟩, .snarkProof t⟩ =
          (.ok (), .new, some (⟨0⟩, m)) ∧
        m.taskId = ⟨0⟩ ∧ unarySnark.setup t.curve t.generator = .ok (pk, vk) ∧
        unarySnark.prove t.curve t.generator pk = .ok π ∧
        handleMessage unarySnark ⟨.ok (), .ok ()⟩ b' ⟨1⟩ m = if t.curve = t.curve
          then (.ok (), { b' with verified := Function.update b'.verified ⟨0⟩ (some
            (unarySnark.compressVerify t.curve (vk, π) t.generator.circuits.length
              (t.generator.circuits.head (List.cons_ne_nil 7 [])))) }, none)
          else (.error (.err .snarkCurveNotMatch), b', none)) :=
  ⟨unarySnark_roundTrip, rfl, List.cons_ne_nil 7 [], proof_reply_verifies unarySnark_roundTrip
    ⟨.ok (), .ok ()⟩ ⟨.ok (), .ok ()⟩ .new ⟨fun _ => some (.pallasVasta ⟨3, [7]⟩), fun _ => none⟩
    ⟨0⟩ ⟨1⟩ ⟨0⟩ (.pallasVasta ⟨3, [7]⟩) (.pallasVasta ⟨3, [7]⟩) rfl (List.cons_ne_nil 7 [])⟩

/-- Along every run of messages a node's tasks never change, and every result it records is the
check, against the task it holds under that id, of a proof some message of the run delivered
under the id. Nothing in the node writes the task map, so a node made by
`SNARKBehaviour::new` never records a result, whatever it is sent. -/
theorem recorded_results_come_from_held_tasks (b : SNARKBehaviour)
    (msgs : List (Provider × Did × SNARKTaskMessage)) (id : TaskId) :
    (handleAll k b msgs).task = b.task ∧
    ((handleAll k b msgs).verified id = b.verified id ∨
      ∃ t task v, ⟨id, .snarkVerify t⟩ ∈ msgs.map (·.2.2) ∧ b.task id = some task ∧
        handleSnarkVerifyTask k t task = .ok v ∧ (handleAll k b msgs).verified id = some v) ∧
    (handleAll k .new msgs).verified id = none := by
  refine ⟨handleAll_task msgs, handleAll_verified msgs id, ?_⟩
  rcases (handleAll_verified msgs id : (handleAll k .new msgs).verified id = _ ∨ _)
    with h | ⟨_, _, _, _, h, -⟩
  · exact h
  · cases h

end BnsNodeProofs.Node
