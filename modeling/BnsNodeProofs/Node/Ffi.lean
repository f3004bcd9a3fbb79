import Mathlib.Logic.Basic

namespace BnsNodeProofs.Node.Ffi

inductive Error
  | serdeJsonError (code : Nat)
  | nulError
deriving DecidableEq, Repr

inductive Failure
  | panic (msg : String)
  | err (e : Error)
deriving DecidableEq, Repr

inductive BackendMessage
  | plainText
  | extension
  | serviceMessage
deriving DecidableEq, Repr

structure FFIBackendBehaviour where
  paintextMessageHandler : Option Nat
  serviceMessageHandler : Option Nat
  extensionMessageHandler : Option Nat
  runtime : Option Nat
deriving DecidableEq, Repr

/-- A call of a C handler: the handler and the runtime of its provider, by identity, and the C
strings of the payload and the message. -/
structure Call where
  handler : Nat
  runtime : Nat
  payload : String
  message : String
deriving DecidableEq, Repr

namespace FFIBackendBehaviour

def withRuntime (b : FFIBackendBehaviour) (rt : Nat) : FFIBackendBehaviour :=
  { b with runtime := some rt }

end FFIBackendBehaviour

def newFfiBackendBehaviour (paintextMessageHandler serviceMessageHandler
    extensionMessageHandler : Option Nat) : FFIBackendBehaviour :=
  ⟨paintextMessageHandler, serviceMessageHandler, extensionMessageHandler, none⟩

def cStringNew (s : String) : Except Error String :=
  if '\x00' ∈ s.data then .error .nulError else .ok s

theorem cStringNew_eq_ok {s s' : String} : cStringNew s = .ok s' ↔ '\x00' ∉ s.data ∧ s' = s := by
  unfold cStringNew
  by_cases h : '\x00' ∈ s.data <;> simp [h, eq_comm]

namespace FFIBackendBehaviour

def handleBackendMessage (b : FFIBackendBehaviour) (handler : Option Nat)
    (payload message : Except Error String) : Except Failure (Option Call) :=
  match handler with
  | none => .ok none
  | some handler =>
    match b.runtime with
    | none => .error (.panic "Runtime is not found")
    | some rt =>
      match payload, message with
      | .error e, _ | .ok _, .error e => .error (.err e)
      | .ok payload, .ok message =>
        match cStringNew payload, cStringNew message with
        | .error e, _ | .ok _, .error e => .error (.err e)
        | .ok payload, .ok message => .ok (some ⟨handler, rt, payload, message⟩)

/-- `MessageEndpoint<BackendMessage>::on_message`: the C handler called, if any. -/
def onMessage (b : FFIBackendBehaviour) (msg : BackendMessage)
    (payload message : Except Error String) : Except Failure (Option Call) :=
  match msg with
  | .plainText => b.handleBackendMessage b.paintextMessageHandler payload message
  | .extension => b.handleBackendMessage b.extensionMessageHandler payload message
  | .serviceMessage => b.handleBackendMessage b.serviceMessageHandler payload message

def handlerFor (b : FFIBackendBehaviour) : BackendMessage → Option Nat
  | .plainText => b.paintextMessageHandler
  | .extension => b.extensionMessageHandler
  | .serviceMessage => b.serviceMessageHandler

inductive Op
  | withRuntime (rt : Nat)
  | onMessage (msg : BackendMessage) (payload message : Except Error String)

def step (b : FFIBackendBehaviour) : Op → FFIBackendBehaviour
  | .withRuntime rt => b.withRuntime rt
  | .onMessage _ _ _ => b

def run (b : FFIBackendBehaviour) : List Op → FFIBackendBehaviour
  | [] => b
  | op :: ops => (b.step op).run ops

def Op.lastRuntime : List Op → Option Nat
  | [] => none
  | op :: ops => (lastRuntime ops).or (match op with
    | .withRuntime rt => some rt
    | .onMessage _ _ _ => none)

variable {b : FFIBackendBehaviour}

theorem onMessage_eq (msg : BackendMessage) (payload message : Except Error String) :
    b.onMessage msg payload message = b.handleBackendMessage (b.handlerFor msg) payload message := by
  cases msg <;> rfl

theorem handleBackendMessage_spec (b : FFIBackendBehaviour) (handler : Option Nat) (payload message : Except Error String) :
    (∀ msg, b.handleBackendMessage handler payload message = .error (.panic msg) ↔
      handler.isSome ∧ b.runtime = none ∧ msg = "Runtime is not found") ∧
    (∀ call, b.handleBackendMessage handler payload message = .ok (some call) →
      handler = some call.handler ∧ b.runtime = some call.runtime ∧ payload = .ok call.payload ∧
        message = .ok call.message ∧ '\x00' ∉ call.payload.data ∧ '\x00' ∉ call.message.data) := by
  unfold handleBackendMessage
  cases handler with
  | none => exact ⟨fun _ => by simp, fun _ h => by cases h⟩
  | some h =>
    cases hr : b.runtime with
    | none => exact ⟨fun _ => by simp [eq_comm], fun _ h => by cases h⟩
    | some rt =>
      dsimp only
      refine ⟨fun msg => ⟨fun hp => ?_, fun ⟨_, h, _⟩ => nomatch h⟩, fun call hc => ?_⟩
      · split at hp <;> (try split at hp) <;> cases hp
      · split at hc <;> (try split at hc) <;> cases hc
        rename_i hp hm
        obtain ⟨hp, rfl⟩ := cStringNew_eq_ok.mp hp
        obtain ⟨hm, rfl⟩ := cStringNew_eq_ok.mp hm
        exact ⟨rfl, rfl, rfl, rfl, hp, hm⟩

@[simp] theorem run_handlerFor (ops : List Op) (msg : BackendMessage) :
    (b.run ops).handlerFor msg = b.handlerFor msg := by
  induction ops generalizing b with
  | nil => rfl
  | cons op ops ih => rw [run, ih]; cases op <;> cases msg <;> rfl

theorem run_runtime (ops : List Op) : (b.run ops).runtime = (Op.lastRuntime ops).or b.runtime := by
  induction ops generalizing b with
  | nil => rfl
  | cons op ops ih => cases op <;> simp [run, step, withRuntime, ih, Op.lastRuntime, Option.or_assoc]

theorem lastRuntime_eq_none (ops : List Op) : Op.lastRuntime ops = none ↔ ∀ rt, Op.withRuntime rt ∉ ops := by
  induction ops with
  | nil => simp [Op.lastRuntime]
  | cons op ops ih =>
    cases op with
    | withRuntime rt =>
      exact ⟨fun h => by simp [Op.lastRuntime] at h, fun h => absurd (List.mem_cons_self _ _) (h rt)⟩
    | onMessage => simp [Op.lastRuntime, ih]

/-- On a behaviour made by `new_ffi_backend_behaviour` and then given any calls, `on_message`
panics with "Runtime is not found" exactly when the handler given at creation for the message's
kind is set and `with_runtime` was never called. When it calls a handler, it is that one, with
the runtime of the last `with_runtime` and the JSON texts of the payload and the message. -/
theorem on_message_panics_until_runtime (p s e : Option Nat) (ops : List Op) (msg : BackendMessage)
    (payload message : Except Error String) :
    (∀ m, ((newFfiBackendBehaviour p s e).run ops).onMessage msg payload message = .error (.panic m) ↔
      ((newFfiBackendBehaviour p s e).handlerFor msg).isSome ∧ (∀ rt, Op.withRuntime rt ∉ ops) ∧
        m = "Runtime is not found") ∧
    (∀ call, ((newFfiBackendBehaviour p s e).run ops).onMessage msg payload message = .ok (some call) →
      (newFfiBackendBehaviour p s e).handlerFor msg = some call.handler ∧
        Op.lastRuntime ops = some call.runtime ∧ payload = .ok call.payload ∧
        message = .ok call.message) := by
  have hrt : ((newFfiBackendBehaviour p s e).run ops).runtime = Op.lastRuntime ops := by
    simp [run_runtime, newFfiBackendBehaviour, Option.or_none]
  obtain ⟨h1, h2⟩ := handleBackendMessage_spec ((newFfiBackendBehaviour p s e).run ops)
    ((newFfiBackendBehaviour p s e).handlerFor msg) payload message
  rw [onMessage_eq, run_handlerFor]
  refine ⟨fun m => (h1 m).trans ?_, fun call hc => ?_⟩
  · rw [hrt, lastRuntime_eq_none]
  · obtain ⟨ha, hb, hp, hm, -⟩ := h2 call hc
    exact ⟨ha, hrt ▸ hb, hp, hm⟩

end FFIBackendBehaviour

end BnsNodeProofs.Node.Ffi
