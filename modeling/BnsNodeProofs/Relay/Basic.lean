import BnsNodeProofs.Basic
import Mathlib.Data.List.Chain

/-!
The relay envelope of `message/protocols/relay.rs`: its fields, the accessors and the
validity check. `relay`, `report` and `reset_destination` are in `Relay.Step`.
-/

namespace BnsNodeProofs.Relay

inductive RelayMethod
  | send
  | report
deriving DecidableEq, Repr

/-- `MessageRelay`, with the bound of `path_end_cursor : usize` and the model's bound on the
length of `path` as fields. -/
structure MessageRelay where
  method : RelayMethod
  path : List Did
  pathEndCursor : Nat
  nextHop : Option Did
  destination : Did
  path_length_le : path.length ≤ isizeMax
  pathEndCursor_le : pathEndCursor ≤ usizeMax
deriving DecidableEq

namespace MessageRelay

def new (method : RelayMethod) (path : List Did) (path_length_le : path.length ≤ isizeMax)
    (pathEndCursor : Option Nat) (pathEndCursor_le : pathEndCursor.getD 0 ≤ usizeMax)
    (nextHop : Option Did) (destination : Did) : MessageRelay :=
  ⟨method, path, pathEndCursor.getD 0, nextHop, destination, path_length_le, pathEndCursor_le⟩

/-- `path.windows(2).any(|w| w[0] == w[1])`. -/
def hasAdjacentEqual : List Did → Bool
  | a :: b :: rest => a == b || hasAdjacentEqual (b :: rest)
  | _ => false

def validate (e : MessageRelay) : Except Fault Unit :=
  if hasAdjacentEqual e.path then .error (.err .invalidRelayPath)
  else if e.method = .report then
    match e.path.head? with
    | none => .error (.panic .indexOutOfBounds)
    | some first => if first ≠ e.destination then .error (.err .invalidRelayDestination) else .ok ()
  else .ok ()

def origin (e : MessageRelay) : Except Fault Did :=
  match e.path.head? with
  | some first => .ok first
  | none => .error (.panic .unwrapNone)

def sender (e : MessageRelay) : Except Fault Did :=
  match e.method with
  | .send => e.origin
  | .report =>
    match e.path.getLast? with
    | some last => .ok last
    | none => .error (.panic .unwrapNone)

def pathPrev (e : MessageRelay) : Except Fault (Option Did) :=
  if usizeMax < e.pathEndCursor + 2 then .error (.panic .arithmeticOverflow)
  else if h : e.path.length < e.pathEndCursor + 2 then .ok none
  else .ok (some e.path[e.path.length - 2 - e.pathEndCursor])

@[ext]
theorem ext' {e f : MessageRelay} (hm : e.method = f.method) (hp : e.path = f.path)
    (hc : e.pathEndCursor = f.pathEndCursor) (hn : e.nextHop = f.nextHop)
    (hd : e.destination = f.destination) : e = f := by
  cases e; cases f; cases hm; cases hp; cases hc; cases hn; cases hd; rfl

theorem hasAdjacentEqual_eq_false {l : List Did} :
    hasAdjacentEqual l = false ↔ l.Chain' (· ≠ ·) := by
  induction l with
  | nil => simp [hasAdjacentEqual]
  | cons a l ih =>
    cases l with
    | nil => simp [hasAdjacentEqual]
    | cons b rest => simp [hasAdjacentEqual, ih, List.chain'_cons]

theorem validate_eq_ok {e : MessageRelay} :
    e.validate = .ok () ↔
      e.path.Chain' (· ≠ ·) ∧ (e.method = .report → e.path.head? = some e.destination) := by
  rw [← hasAdjacentEqual_eq_false]
  unfold validate
  cases e.method <;> cases e.path.head? <;> by_cases ha : hasAdjacentEqual e.path <;> simp [ha]

theorem pathPrev_eq {e : MessageRelay} (h : e.pathEndCursor + 2 ≤ usizeMax) :
    e.pathPrev = .ok e.path.reverse[e.pathEndCursor + 1]? := by
  unfold pathPrev
  rw [if_neg (by omega)]
  split
  · rw [List.getElem?_eq_none (by simp; omega)]
  · rw [List.getElem?_reverse (by omega), List.getElem?_eq_getElem (by omega)]
    congr 3
    omega

theorem origin_eq {e : MessageRelay} {first : Did} (h : e.path.head? = some first) :
    e.origin = .ok first := by
  simp [origin, h]

end MessageRelay

end BnsNodeProofs.Relay
