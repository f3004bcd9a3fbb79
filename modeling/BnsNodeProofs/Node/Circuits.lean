import BnsNodeProofs.Basic

namespace BnsNodeProofs.Node

inductive SupportedPrimeField
  | vesta
  | pallas
  | bn256KZG
deriving DecidableEq, Repr

/-- `Field`: its `FieldEnum` variant and its value. A `u64` is below the modulus of each
field, so `from_u64` keeps it as it is. -/
structure Field where
  ty : SupportedPrimeField
  value : Nat
deriving DecidableEq, Repr

def Field.fromU64 (v : UInt64) (ty : SupportedPrimeField) : Field := ⟨ty, v.toNat⟩

abbrev Input := List (String × List Field)

abbrev FieldInput := List (String × List Nat)

inductive GenError
  | panic (msg : String)
  | error (code : Nat)
deriving DecidableEq, Repr

/-- `WasmCircuitGenerator::gen_recursive_circuit`, not in the sources: the circuits made from the
public input, the private inputs and the number of rounds, by identity, or an error. -/
structure CircuitGenerator where
  genRecursiveCircuit : FieldInput → List FieldInput → Nat → Except Nat (List Nat)

structure SNARKTaskBuilder where
  field : SupportedPrimeField
  circuitGenerator : CircuitGenerator

structure Circuit where
  ty : SupportedPrimeField
  inner : Nat
deriving DecidableEq, Repr

def unwrapField (ty : SupportedPrimeField) (msg : String) (x : Field) : Except GenError Nat :=
  if x.ty = ty then .ok x.value else .error (.panic msg)

def stripInput (ty : SupportedPrimeField) (msg : String) (input : Input) :
    Except GenError FieldInput :=
  input.mapM fun p => (p.2.mapM (unwrapField ty msg)).map (p.1, ·)

def genCircuitsOn (ty : SupportedPrimeField) (publicMsg privateMsg : String) (g : CircuitGenerator)
    (publicInput : Input) (privateInputs : List Input) (round : Nat) :
    Except GenError (List Circuit) :=
  match stripInput ty publicMsg publicInput with
  | .error e => .error e
  | .ok input =>
    match privateInputs.mapM (stripInput ty privateMsg) with
    | .error e => .error e
    | .ok privateInputs =>
      match g.genRecursiveCircuit input privateInputs round with
      | .error e => .error (.error e)
      | .ok circuits => .ok (circuits.map (⟨ty, ·⟩))

def SNARKTaskBuilder.genCircuits (b : SNARKTaskBuilder) (publicInput : Input)
    (privateInputs : List Input) (round : Nat) : Except GenError (List Circuit) :=
  match b.field with
  | .vesta => genCircuitsOn .vesta "Wrong curve, expect Vesta" "Wrong curve, expect Vesta"
      b.circuitGenerator publicInput privateInputs round
  | .pallas => genCircuitsOn .pallas "Wrong curve, expect pallas" "Wrong curve, expect Vesta"
      b.circuitGenerator publicInput privateInputs round
  | .bn256KZG => genCircuitsOn .bn256KZG "Wrong curve, expect bn256" "Wrong curve, expect bn256"
      b.circuitGenerator publicInput privateInputs round

def OnField (ty : SupportedPrimeField) (input : Input) : Bool :=
  input.all fun p => p.2.all (·.ty == ty)

theorem mapM_eq_ite {α β ε : Type} {f : α → Except ε β} {g : α → β} {p : α → Bool} {e : ε}
    (hf : ∀ x, f x = if p x then .ok (g x) else .error e) (l : List α) :
    l.mapM f = if l.all p then .ok (l.map g) else .error e := by
  induction l with
  | nil => rfl
  | cons x l ih =>
    rw [List.mapM_cons, hf, ih]
    by_cases hx : p x <;> by_cases hl : l.all p <;> simp [hx, hl] <;> rfl

theorem stripInput_eq (ty : SupportedPrimeField) (msg : String) (input : Input) :
    stripInput ty msg input = if OnField ty input
      then .ok (input.map fun p => (p.1, p.2.map Field.value)) else .error (.panic msg) := by
  refine mapM_eq_ite (fun p => ?_) input
  have h : p.2.mapM (unwrapField ty msg) =
      if p.2.all (·.ty == ty) then .ok (p.2.map Field.value) else .error (.panic msg) :=
    mapM_eq_ite (fun x => by simp [unwrapField]) p.2
  rw [h]
  split <;> rfl

theorem genCircuitsOn_spec (ty : SupportedPrimeField) (publicMsg privateMsg : String)
    (g : CircuitGenerator) (publicInput : Input) (privateInputs : List Input) (round : Nat) :
    ((∃ msg, genCircuitsOn ty publicMsg privateMsg g publicInput privateInputs round =
        .error (.panic msg)) ↔ ¬ (OnField ty publicInput ∧ ∀ i ∈ privateInputs, OnField ty i)) ∧
    (OnField ty publicInput → (∃ i ∈ privateInputs, OnField ty i = false) →
      genCircuitsOn ty publicMsg privateMsg g publicInput privateInputs round =
        .error (.panic privateMsg)) ∧
    (∀ circuits, genCircuitsOn ty publicMsg privateMsg g publicInput privateInputs round =
      .ok circuits → ∀ c ∈ circuits, c.ty = ty) := by
  have hpriv : privateInputs.mapM (stripInput ty privateMsg) =
      if privateInputs.all (OnField ty) then
        .ok (privateInputs.map fun i => i.map fun p => (p.1, p.2.map Field.value))
      else .error (.panic privateMsg) :=
    mapM_eq_ite (stripInput_eq ty privateMsg) privateInputs
  unfold genCircuitsOn
  rw [stripInput_eq, hpriv]
  by_cases hp : OnField ty publicInput
  · rw [if_pos hp]
    by_cases hq : privateInputs.all (OnField ty)
    · have hall : ∀ i ∈ privateInputs, OnField ty i = true := List.all_eq_true.mp hq
      rw [if_pos hq]
      dsimp only
      refine ⟨⟨fun ⟨msg, h⟩ => ?_, fun h => absurd ⟨hp, hall⟩ h⟩,
        fun _ ⟨i, hi, hf⟩ => absurd (hall i hi) (by simp [hf]), fun circuits h c hc => ?_⟩
      · split at h <;> cases h
      · split at h <;> cases h
        obtain ⟨a, -, rfl⟩ := List.mem_map.mp hc
        rfl
    · obtain ⟨i, hi, hf⟩ : ∃ i ∈ privateInputs, OnField ty i = false := by simpa using hq
      rw [if_neg hq]
      exact ⟨⟨fun _ h => by simp [h.2 i hi] at hf, fun _ => ⟨_, rfl⟩⟩, fun _ _ => rfl,
        fun _ h => by cases h⟩
  · rw [if_neg hp]
    exact ⟨⟨fun _ h => hp h.1, fun _ => ⟨_, rfl⟩⟩, fun h => absurd h hp, fun _ h => by cases h⟩

/-- `gen_circuits` panics exactly when an element of the public input or of a private input lies
in another field than the builder's, and every circuit it returns is in the builder's field. The
arms differ in their messages only, and not as their fields do: a Pallas builder given a public
input in its field and a private input in another panics with "Wrong curve, expect Vesta". -/
theorem genCircuits_panics_off_field (b : SNARKTaskBuilder) (publicInput : Input)
    (privateInputs : List Input) (round : Nat) :
    ((∃ msg, b.genCircuits publicInput privateInputs round = .error (.panic msg)) ↔
      ¬ (OnField b.field publicInput ∧ ∀ i ∈ privateInputs, OnField b.field i)) ∧
    (∀ circuits, b.genCircuits publicInput privateInputs round = .ok circuits →
      ∀ c ∈ circuits, c.ty = b.field) ∧
    (b.field = .pallas → OnField .pallas publicInput → (∃ i ∈ privateInputs, OnField .pallas i = false) →
      b.genCircuits publicInput privateInputs round = .error (.panic "Wrong curve, expect Vesta")) := by
  obtain ⟨field, g⟩ := b
  cases field
  · obtain ⟨h1, -, h3⟩ := genCircuitsOn_spec .vesta "Wrong curve, expect Vesta"
      "Wrong curve, expect Vesta" g publicInput privateInputs round
    exact ⟨h1, h3, nofun⟩
  · obtain ⟨h1, h2, h3⟩ := genCircuitsOn_spec .pallas "Wrong curve, expect pallas"
      "Wrong curve, expect Vesta" g publicInput privateInputs round
    exact ⟨h1, h3, fun _ => h2⟩
  · obtain ⟨h1, -, h3⟩ := genCircuitsOn_spec .bn256KZG "Wrong curve, expect bn256"
      "Wrong curve, expect bn256" g publicInput privateInputs round
    exact ⟨h1, h3, nofun⟩

end BnsNodeProofs.Node
