import Mathlib.Logic.Function.Basic

namespace BnsNodeProofs

structure Did where
  toBitVec : BitVec 160
deriving DecidableEq, Repr

inductive Error
  | invalidNextHop
  | cannotInferNextHop
  | invalidRelayPath
  | invalidRelayDestination
  | reportNeedSend
  | resetDestinationNeedSend
  | swarmPendingTransTryLockFailed
  | swarmPendingTransNotFound
  | swarmMissTransport (did : Did)
deriving DecidableEq, Repr

/-- Why a call panics. Arithmetic is checked, as in a debug build; a release build wraps. -/
inductive Panic
  | indexOutOfBounds
  | unwrapNone
  | arithmeticOverflow
  | capacityOverflow
deriving DecidableEq, Repr

inductive Fault
  | err (e : Error)
  | panic (p : Panic)
deriving DecidableEq, Repr

def usizeMax : Nat := 18446744073709551615

/-- `isize::MAX`, the model's bound on the length of a `Vec`. -/
def isizeMax : Nat := 9223372036854775807

theorem isizeMax_lt_usizeMax : isizeMax + 2 ≤ usizeMax := by
  simp only [isizeMax, usizeMax]; omega

end BnsNodeProofs
