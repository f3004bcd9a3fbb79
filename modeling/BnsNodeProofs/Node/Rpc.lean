import Mathlib.Logic.Basic

namespace BnsNodeProofs.Node.Rpc

/-- A `rings_core::error::Error` or a `serde_json::Error` carried by a variant; `code` does not
read it. -/
structure Cause where
  code : Nat
deriving DecidableEq, Repr

inductive Error
  | remoteRpcError (s : String)
  | pendingTransport (e : Cause)
  | transportNotFound
  | newTransportError (e : Cause)
  | closeTransportError (e : Cause)
  | decodeError
  | encodeError
  | wasmCompileError (s : String)
  | wasmBackendMessageRwLockError
  | wasmInstantiationError
  | wasmExportError
  | wasmRuntimeError (s : String)
  | wasmGlobalMemoryLockError
  | wasmFailedToLoadFile
  | createOffer (e : Cause)
  | answerOffer (e : Cause)
  | acceptAnswer (e : Cause)
  | invalidTransportId
  | invalidDid
  | invalidMethod
  | internalError
  | connectError (e : Cause)
  | sendMessage (e : Cause)
  | noPermission
  | vNodeError (e : Cause)
  | serviceRegisterError (e : Cause)
  | jsError (s : String)
  | httpRequestError (s : String)
  | invalidMessage
  | invalidData
  | invalidService
  | invalidAddress
  | invalidAuthData
  | storage (e : Cause)
  | swarm (e : Cause)
  | createFileError (s : String)
  | openFileError (s : String)
  | lock
  | invalidHeaders
  | serdeJsonError (e : Cause)
  | verifyError (s : String)
deriving Repr

namespace Error

def code (e : Error) : Int :=
  -32000 - match e with
    | remoteRpcError _ => 1
    | connectError _ => 1
    | httpRequestError _ => 1
    | pendingTransport _ => 2
    | transportNotFound => 3
    | newTransportError _ => 4
    | closeTransportError _ => 5
    | encodeError => 6
    | decodeError => 7
    | createOffer _ => 8
    | answerOffer _ => 9
    | acceptAnswer _ => 10
    | invalidTransportId => 11
    | invalidDid => 12
    | invalidMethod => 13
    | sendMessage _ => 14
    | noPermission => 15
    | vNodeError _ => 16
    | serviceRegisterError _ => 17
    | invalidData => 18
    | invalidMessage => 19
    | invalidService => 20
    | invalidAddress => 21
    | invalidAuthData => 22
    | invalidHeaders => 23
    | serdeJsonError _ => 24
    | wasmCompileError _ => 25
    | wasmInstantiationError => 26
    | wasmExportError => 27
    | wasmRuntimeError _ => 28
    | wasmGlobalMemoryLockError => 29
    | wasmFailedToLoadFile => 30
    | wasmBackendMessageRwLockError => 31
    | internalError => 0
    | createFileError _ => 0
    | openFileError _ => 0
    | jsError _ => 0
    | swarm _ => 0
    | storage _ => 0
    | verifyError _ => 0
    | lock => 0

example : (remoteRpcError "").code = -32001 ∧ (connectError ⟨0⟩).code = -32001 ∧
    (httpRequestError "").code = -32001 := ⟨rfl, rfl, rfl⟩

example : internalError.code = -32000 ∧ lock.code = -32000 ∧ (swarm ⟨0⟩).code = -32000 :=
  ⟨rfl, rfl, rfl⟩

example : wasmBackendMessageRwLockError.code = -32031 := rfl

end Error

inductive RpcError
  | decodeError
  | encodeError
  | invalidMethod
  | rpcError (v : String)
  | invalidSignature
  | invalidHeaders
deriving DecidableEq, Repr

def Error.ofRpcError : RpcError → Error
  | .decodeError => .decodeError
  | .encodeError => .encodeError
  | .invalidMethod => .invalidMethod
  | .rpcError v => .remoteRpcError v
  | .invalidSignature => .invalidData
  | .invalidHeaders => .invalidHeaders

example : (Error.ofRpcError .invalidSignature).code = -32018 := rfl

end BnsNodeProofs.Node.Rpc
