import BnsNodeProofs.Basic

/-!
The connection handshake of the `core` swarm (`core/src/swarm/impls.rs`). The initiator makes a
new connection and its WebRTC offer and sends it signed as `ConnectNodeSend`; the responder
verifies it, makes its own connection to the offer's origin and answers with a signed
`ConnectNodeReport`; the initiator verifies the answer and hands it to the connection it holds
for the answer's origin. When no collaborator fails, the three steps succeed and each side ends
with a connection to the other.

The connection backend, WebRTC, `serde_json`, the signed `MessagePayload` and the swarm's
`send_message` are not in the sources: `Collaborators` gives what each call returns. Their
shared state `σ` (the backend, and the measure the sends record to) is threaded through every
call that may change it, `get_and_check_connection` included.
-/

namespace BnsNodeProofs.Core

inductive Error
  | alreadyConnected
  | transport (code : Nat)
  | serializeToString
  | deserialize (code : Nat)
  | connectionNotFound
  | verifySignatureFailed
  | invalidMessage (reason : String)
  | other (code : Nat)
deriving DecidableEq, Repr

/-- Modelled from the spec: `ConnectNodeSend` is not in the sources; it carries the offer's
serialised session description. -/
structure ConnectNodeSend where
  sdp : String
deriving DecidableEq, Repr

/-- Modelled from the spec: `ConnectNodeReport` is not in the sources; it carries the answer's
serialised session description. -/
structure ConnectNodeReport where
  sdp : String
deriving DecidableEq, Repr

/-- Modelled from the spec: `Message` is not in the sources. The handshake reads two of its
variants; the others are kept by a tag. -/
inductive Message
  | connectNodeSend (msg : ConnectNodeSend)
  | connectNodeReport (msg : ConnectNodeReport)
  | other (tag : Nat)
deriving DecidableEq, Repr

/-- What the swarm's collaborators return, over their state `σ`. Connections, session keys and
session descriptions are by identity; the payloads `P` are those of
`MessagePayload::new_send(data, session_sk, next_hop, destination)`. -/
structure Collaborators (σ P : Type) where
  getAndCheckConnection : σ → Did → Option Nat × σ
  newConnection : σ → Did → Except Error Nat × σ
  connection : σ → Did → Option Nat
  disconnect : σ → Did → Except Error Unit × σ
  webrtcCreateOffer : Nat → Except Nat Nat
  webrtcAnswerOffer : Nat → Nat → Except Nat Nat
  webrtcAcceptAnswer : Nat → Nat → Except Nat Unit
  toString : Nat → Option String
  fromStr : String → Except Nat Nat
  newSend : Message → Nat → Did → Did → Except Error P
  verify : P → Bool
  data : P → Message
  originSender : P → Did
  sendMessage : σ → Message → Did → Except Error Unit × σ
  sendMessageByHop : σ → Message → Did → Did → Except Error Unit × σ

namespace Collaborators

variable {σ P : Type} (c : Collaborators σ P)

def Signs (sk : Nat) (did : Did) : Prop :=
  ∀ m nextHop destination p, c.newSend m sk nextHop destination = .ok p →
    c.verify p = true ∧ c.data p = m ∧ c.originSender p = did

def RoundTrip : Prop :=
  ∀ sdp str, c.toString sdp = some str → c.fromStr str = .ok sdp

def KeepsNewConnections : Prop :=
  ∀ b did conn, (c.newConnection b did).1 = .ok conn →
    c.connection (c.newConnection b did).2 did = some conn

def Converges : Prop :=
  (∀ b did, ∃ conn, (c.newConnection b did).1 = .ok conn) ∧
  (∀ conn, ∃ offer, c.webrtcCreateOffer conn = .ok offer) ∧
  (∀ conn offer, ∃ answer, c.webrtcAnswerOffer conn offer = .ok answer) ∧
  (∀ conn answer, c.webrtcAcceptAnswer conn answer = .ok ()) ∧
  (∀ sdp, ∃ str, c.toString sdp = some str) ∧
  (∀ m sk nextHop destination, ∃ p, c.newSend m sk nextHop destination = .ok p)

end Collaborators

structure LoopbackPayload where
  data : Message
  origin : Did
  nextHop : Did
  destination : Did

/-- Swarms on one machine: the backend keeps its connections by did, newest first and all in
use, WebRTC succeeds at once, a description `n` is serialised as `n` letters, and a payload made
with the key `sk` names the did `sk`. -/
def loopback : Collaborators (List (Did × Nat)) LoopbackPayload where
  getAndCheckConnection b did := (b.lookup did, b)
  newConnection b did := (.ok b.length, (did, b.length) :: b)
  connection b did := b.lookup did
  disconnect b did := (.ok (), b.filter (·.1 != did))
  webrtcCreateOffer conn := .ok conn
  webrtcAnswerOffer conn _ := .ok conn
  webrtcAcceptAnswer _ _ := .ok ()
  toString sdp := some ⟨List.replicate sdp 'a'⟩
  fromStr str := .ok str.length
  newSend m sk nextHop destination := .ok ⟨m, ⟨BitVec.ofNat 160 sk⟩, nextHop, destination⟩
  verify _ := true
  data p := p.data
  originSender p := p.origin
  sendMessage b _ _ := (.ok (), b)
  sendMessageByHop b _ _ _ := (.ok (), b)

theorem loopback_signs (sk : Nat) : loopback.Signs sk ⟨BitVec.ofNat 160 sk⟩ := by
  rintro m nextHop destination p ⟨⟩
  exact ⟨rfl, rfl, rfl⟩

theorem loopback_roundTrip : loopback.RoundTrip := by
  rintro sdp str ⟨⟩
  exact congrArg Except.ok (List.length_replicate sdp 'a')

theorem loopback_keepsNewConnections : loopback.KeepsNewConnections := by
  rintro b did conn ⟨⟩
  exact List.lookup_cons_self

theorem loopback_converges : loopback.Converges :=
  ⟨fun _ _ => ⟨_, rfl⟩, fun _ => ⟨_, rfl⟩, fun _ _ => ⟨_, rfl⟩, fun _ _ => rfl, fun _ => ⟨_, rfl⟩,
    fun _ _ _ _ => ⟨_, rfl⟩⟩

structure Swarm (σ : Type) where
  did : Did
  sessionSk : Nat
  backend : σ

namespace Swarm

variable {σ P : Type} (c : Collaborators σ P)

def getAndCheckConnection (s : Swarm σ) (did : Did) : Option Nat × Swarm σ :=
  let r := c.getAndCheckConnection s.backend did
  (r.1, { s with backend := r.2 })

def newConnection (s : Swarm σ) (did : Did) : Except Error Nat × Swarm σ :=
  let r := c.newConnection s.backend did
  (r.1, { s with backend := r.2 })

def newOffer (s : Swarm σ) (peer : Did) : Except Error (Nat × ConnectNodeSend) × Swarm σ :=
  match s.newConnection c peer with
  | (.error e, s) => (.error e, s)
  | (.ok conn, s) =>
    match c.webrtcCreateOffer conn with
    | .error e => (.error (.transport e), s)
    | .ok offer =>
      match c.toString offer with
      | none => (.error .serializeToString, s)
      | some offerStr => (.ok (conn, ⟨offerStr⟩), s)

def prepareConnectionOffer (s : Swarm σ) (peer : Did) :
    Except Error (Nat × ConnectNodeSend) × Swarm σ :=
  match s.getAndCheckConnection c peer with
  | (some _, s) => (.error .alreadyConnected, s)
  | (none, s) => s.newOffer c peer

def answerRemoteConnection (s : Swarm σ) (peer : Did) (offerMsg : ConnectNodeSend) :
    Except Error (Nat × ConnectNodeReport) × Swarm σ :=
  match s.getAndCheckConnection c peer with
  | (some _, s) => (.error .alreadyConnected, s)
  | (none, s) =>
    match c.fromStr offerMsg.sdp with
    | .error e => (.error (.deserialize e), s)
    | .ok offer =>
      match s.newConnection c peer with
      | (.error e, s) => (.error e, s)
      | (.ok conn, s) =>
        match c.webrtcAnswerOffer conn offer with
        | .error e => (.error (.transport e), s)
        | .ok answer =>
          match c.toString answer with
          | none => (.error .serializeToString, s)
          | some answerStr => (.ok (conn, ⟨answerStr⟩), s)

def acceptRemoteConnection (s : Swarm σ) (peer : Did) (answerMsg : ConnectNodeReport) :
    Except Error Nat :=
  match c.fromStr answerMsg.sdp with
  | .error e => .error (.deserialize e)
  | .ok answer =>
    match c.connection s.backend peer with
    | none => .error .connectionNotFound
    | some conn =>
      match c.webrtcAcceptAnswer conn answer with
      | .error e => .error (.transport e)
      | .ok () => .ok conn

def createOffer (s : Swarm σ) (peer : Did) : Except Error (Nat × P) × Swarm σ :=
  match s.prepareConnectionOffer c peer with
  | (.error e, s) => (.error e, s)
  | (.ok (conn, offerMsg), s) =>
    match c.newSend (.connectNodeSend offerMsg) s.sessionSk s.did peer with
    | .error e => (.error e, s)
    | .ok payload => (.ok (conn, payload), s)

def answerOffer (s : Swarm σ) (offerPayload : P) : Except Error (Nat × P) × Swarm σ :=
  if !c.verify offerPayload then (.error .verifySignatureFailed, s)
  else
    match c.data offerPayload with
    | .connectNodeSend msg =>
      match s.answerRemoteConnection c (c.originSender offerPayload) msg with
      | (.error e, s) => (.error e, s)
      | (.ok (conn, answerMsg), s) =>
        match c.newSend (.connectNodeReport answerMsg) s.sessionSk s.did s.did with
        | .error e => (.error e, s)
        | .ok answerPayload => (.ok (conn, answerPayload), s)
    | _ => (.error (.invalidMessage "Should be ConnectNodeSend"), s)

def acceptAnswer (s : Swarm σ) (answerPayload : P) : Except Error (Did × Nat) :=
  if !c.verify answerPayload then .error .verifySignatureFailed
  else
    match c.data answerPayload with
    | .connectNodeReport msg =>
      (s.acceptRemoteConnection c (c.originSender answerPayload) msg).map
        (c.originSender answerPayload, ·)
    | _ => .error (.invalidMessage "Should be ConnectNodeReport")

def connectWith (send : σ → Message → Except Error Unit × σ) (s : Swarm σ) (did : Did) :
    Except Error Nat × Swarm σ :=
  match s.getAndCheckConnection c did with
  | (some t, s) => (.ok t, s)
  | (none, s) =>
    match s.newOffer c did with
    | (.error e, s) => (.error e, s)
    | (.ok (conn, offerMsg), s) =>
      match send s.backend (.connectNodeSend offerMsg) with
      | (.error e, b) => (.error e, { s with backend := b })
      | (.ok (), b) => (.ok conn, { s with backend := b })

def connect (s : Swarm σ) (did : Did) : Except Error Nat × Swarm σ :=
  s.connectWith c (fun b msg => c.sendMessage b msg did) did

def connectVia (s : Swarm σ) (did nextHop : Did) : Except Error Nat × Swarm σ :=
  s.connectWith c (fun b msg => c.sendMessageByHop b msg did nextHop) did

def disconnect (s : Swarm σ) (did : Did) : Except Error Unit × Swarm σ :=
  let r := c.disconnect s.backend did
  (r.1, { s with backend := r.2 })

variable {c} {s : Swarm σ} {peer : Did}

@[simp] theorem getAndCheckConnection_did (did : Did) :
    (s.getAndCheckConnection c did).2.did = s.did := rfl

@[simp] theorem getAndCheckConnection_sessionSk (did : Did) :
    (s.getAndCheckConnection c did).2.sessionSk = s.sessionSk := rfl

@[simp] theorem newConnection_fst (did : Did) :
    (s.newConnection c did).1 = (c.newConnection s.backend did).1 := rfl

@[simp] theorem newConnection_did (did : Did) : (s.newConnection c did).2.did = s.did := rfl

@[simp] theorem newConnection_sessionSk (did : Did) :
    (s.newConnection c did).2.sessionSk = s.sessionSk := rfl

@[simp] theorem newConnection_backend (did : Did) :
    (s.newConnection c did).2.backend = (c.newConnection s.backend did).2 := rfl

theorem newOffer_snd : (s.newOffer c peer).2 = (s.newConnection c peer).2 := by
  unfold newOffer
  rcases h : s.newConnection c peer with ⟨_ | conn, s'⟩
  · rfl
  · dsimp only
    split <;> (try split) <;> rfl

theorem newOffer_ok {conn : Nat} {msg : ConnectNodeSend} :
    (s.newOffer c peer).1 = .ok (conn, msg) ↔ (c.newConnection s.backend peer).1 = .ok conn ∧
      ∃ offer, c.webrtcCreateOffer conn = .ok offer ∧ c.toString offer = some msg.sdp := by
  rw [← newConnection_fst]
  unfold newOffer
  rcases s.newConnection c peer with ⟨_ | conn', s'⟩
  · simp
  · refine ⟨fun h => ?_, fun ⟨h, offer, ho, hs⟩ => ?_⟩
    · dsimp only at h
      split at h <;> (try split at h) <;> cases h
      exact ⟨rfl, _, ‹_›, ‹_›⟩
    · cases h
      simp only [ho, hs]

theorem prepareConnectionOffer_snd :
    (s.prepareConnectionOffer c peer).2 = match (s.getAndCheckConnection c peer).1 with
      | some _ => (s.getAndCheckConnection c peer).2
      | none => ((s.getAndCheckConnection c peer).2.newConnection c peer).2 := by
  unfold prepareConnectionOffer
  rcases s.getAndCheckConnection c peer with ⟨_ | _, s'⟩
  · exact newOffer_snd
  · rfl

theorem prepareConnectionOffer_ok {conn : Nat} {msg : ConnectNodeSend} :
    (s.prepareConnectionOffer c peer).1 = .ok (conn, msg) ↔
      (s.getAndCheckConnection c peer).1 = none ∧
        ((s.getAndCheckConnection c peer).2.newOffer c peer).1 = .ok (conn, msg) := by
  unfold prepareConnectionOffer
  rcases s.getAndCheckConnection c peer with ⟨_ | _, s'⟩ <;> simp

@[simp] theorem prepareConnectionOffer_did : (s.prepareConnectionOffer c peer).2.did = s.did := by
  rw [prepareConnectionOffer_snd]; split <;> rfl

@[simp] theorem prepareConnectionOffer_sessionSk :
    (s.prepareConnectionOffer c peer).2.sessionSk = s.sessionSk := by
  rw [prepareConnectionOffer_snd]; split <;> rfl

theorem createOffer_snd : (s.createOffer c peer).2 = (s.prepareConnectionOffer c peer).2 := by
  unfold createOffer
  rcases s.prepareConnectionOffer c peer with ⟨_ | ⟨conn, msg⟩, s'⟩
  · rfl
  · dsimp only
    split <;> rfl

theorem createOffer_ok {conn : Nat} {p : P} :
    (s.createOffer c peer).1 = .ok (conn, p) ↔ ∃ msg,
      (s.prepareConnectionOffer c peer).1 = .ok (conn, msg) ∧
      c.newSend (.connectNodeSend msg) s.sessionSk s.did peer = .ok p := by
  have hd : (s.prepareConnectionOffer c peer).2.did = s.did := prepareConnectionOffer_did
  have hk : (s.prepareConnectionOffer c peer).2.sessionSk = s.sessionSk :=
    prepareConnectionOffer_sessionSk
  rw [← hd, ← hk]
  unfold createOffer
  rcases s.prepareConnectionOffer c peer with ⟨_ | ⟨conn', msg⟩, s'⟩
  · simp
  · dsimp only
    split <;> simp [*, and_assoc]

variable {msg : ConnectNodeSend} {p : P}

theorem answerRemoteConnection_snd :
    (s.answerRemoteConnection c peer msg).2 =
      match (s.getAndCheckConnection c peer).1, c.fromStr msg.sdp with
      | none, .ok _ => ((s.getAndCheckConnection c peer).2.newConnection c peer).2
      | _, _ => (s.getAndCheckConnection c peer).2 := by
  unfold answerRemoteConnection
  rcases s.getAndCheckConnection c peer with ⟨_ | _, s'⟩
  · cases c.fromStr msg.sdp
    · rfl
    · dsimp only
      rcases s'.newConnection c peer with ⟨_ | conn, s''⟩
      · rfl
      · dsimp only
        split <;> (try split) <;> rfl
  · rfl

@[simp] theorem answerRemoteConnection_did :
    (s.answerRemoteConnection c peer msg).2.did = s.did := by
  rw [answerRemoteConnection_snd]; split <;> rfl

@[simp] theorem answerRemoteConnection_sessionSk :
    (s.answerRemoteConnection c peer msg).2.sessionSk = s.sessionSk := by
  rw [answerRemoteConnection_snd]; split <;> rfl

theorem answerRemoteConnection_ok {conn : Nat} {ans : ConnectNodeReport} :
    (s.answerRemoteConnection c peer msg).1 = .ok (conn, ans) ↔
      (s.getAndCheckConnection c peer).1 = none ∧ ∃ offer, c.fromStr msg.sdp = .ok offer ∧
        (c.newConnection (s.getAndCheckConnection c peer).2.backend peer).1 = .ok conn ∧
        ∃ answer, c.webrtcAnswerOffer conn offer = .ok answer ∧
          c.toString answer = some ans.sdp := by
  unfold answerRemoteConnection
  rcases s.getAndCheckConnection c peer with ⟨_ | _, s'⟩
  · rw [← newConnection_fst]
    cases c.fromStr msg.sdp
    · simp
    · dsimp only
      rcases s'.newConnection c peer with ⟨_ | conn', s''⟩
      · simp
      · refine ⟨fun h => ?_, fun ⟨_, _, ho, h, answer, ha, hs⟩ => ?_⟩
        · dsimp only at h
          split at h <;> (try split at h) <;> cases h
          exact ⟨rfl, _, rfl, rfl, _, ‹_›, ‹_›⟩
        · cases ho
          cases h
          simp only [ha, hs]
  · simp

theorem answerOffer_snd :
    (s.answerOffer c p).2 = if c.verify p then
      match c.data p with
      | .connectNodeSend msg => (s.answerRemoteConnection c (c.originSender p) msg).2
      | _ => s
    else s := by
  unfold answerOffer
  cases c.verify p
  · rfl
  · simp only [Bool.not_true, Bool.false_eq_true, ↓reduceIte]
    cases c.data p with
    | connectNodeSend msg =>
      dsimp only
      rcases s.answerRemoteConnection c (c.originSender p) msg with ⟨_ | ⟨conn, ans⟩, s'⟩
      · rfl
      · dsimp only
        split <;> rfl
    | _ => rfl

theorem answerOffer_ok {conn : Nat} {q : P} :
    (s.answerOffer c p).1 = .ok (conn, q) ↔ c.verify p = true ∧ ∃ msg,
      c.data p = .connectNodeSend msg ∧ ∃ ans,
        (s.answerRemoteConnection c (c.originSender p) msg).1 = .ok (conn, ans) ∧
        c.newSend (.connectNodeReport ans) s.sessionSk s.did s.did = .ok q := by
  unfold answerOffer
  cases c.verify p
  · simp
  · cases c.data p with
    | connectNodeSend msg =>
      simp only [Bool.not_true, Bool.false_eq_true, ite_false, true_and,
        Message.connectNodeSend.injEq, exists_eq_left']
      have hd : (s.answerRemoteConnection c (c.originSender p) msg).2.did = s.did :=
        answerRemoteConnection_did
      have hk : (s.answerRemoteConnection c (c.originSender p) msg).2.sessionSk = s.sessionSk :=
        answerRemoteConnection_sessionSk
      rw [← hd, ← hk]
      rcases s.answerRemoteConnection c (c.originSender p) msg with ⟨_ | ⟨conn', ans⟩, s'⟩
      · simp
      · dsimp only
        split <;> simp [*, and_assoc]
    | _ => simp

theorem acceptRemoteConnection_ok {answerMsg : ConnectNodeReport} {conn : Nat} :
    s.acceptRemoteConnection c peer answerMsg = .ok conn ↔ ∃ answer,
      c.fromStr answerMsg.sdp = .ok answer ∧ c.connection s.backend peer = some conn ∧
        c.webrtcAcceptAnswer conn answer = .ok () := by
  unfold acceptRemoteConnection
  refine ⟨fun h => ?_, fun ⟨_, ha, hc, hw⟩ => by simp only [ha, hc, hw]⟩
  split at h <;> (try split at h) <;> (try split at h) <;> cases h
  exact ⟨_, ‹_›, ‹_›, ‹_›⟩

theorem acceptAnswer_ok {q : P} {peer' : Did} {conn : Nat} :
    s.acceptAnswer c q = .ok (peer', conn) ↔ c.verify q = true ∧ peer' = c.originSender q ∧
      ∃ msg, c.data q = .connectNodeReport msg ∧
        s.acceptRemoteConnection c peer' msg = .ok conn := by
  unfold acceptAnswer
  cases c.verify q
  · simp
  · cases c.data q with
    | connectNodeReport msg =>
      refine ⟨fun h => ?_, fun ⟨_, hp, _, hd, h⟩ => ?_⟩
      · cases h' : s.acceptRemoteConnection c (c.originSender q) msg <;>
          simp only [h', Except.map, Bool.not_true, ite_false, reduceCtorEq, Except.ok.injEq,
            Prod.mk.injEq, Bool.false_eq_true] at h
        obtain ⟨rfl, rfl⟩ := h
        exact ⟨rfl, rfl, msg, rfl, h'⟩
      · cases hd
        subst hp
        simp [Except.map, h]
    | _ => simp

/-- When neither swarm's `get_and_check_connection` finds a connection in use to the other and
nothing below the handshake fails, `create_offer`, `answer_offer` and `accept_answer` all
succeed: the initiator accepts the responder's did on the connection it made, and each backend
then holds a connection to the other. -/
theorem handshake_completes (A B : Swarm σ)
    (hA : (c.getAndCheckConnection A.backend B.did).1 = none)
    (hB : (c.getAndCheckConnection B.backend A.did).1 = none)
    (hsA : c.Signs A.sessionSk A.did) (hsB : c.Signs B.sessionSk B.did)
    (hrt : c.RoundTrip) (hk : c.KeepsNewConnections) (hc : c.Converges) :
    ∃ connA connB offer answer,
      (A.createOffer c B.did).1 = .ok (connA, offer) ∧
      (B.answerOffer c offer).1 = .ok (connB, answer) ∧
      (A.createOffer c B.did).2.acceptAnswer c answer = .ok (B.did, connA) ∧
      c.connection (A.createOffer c B.did).2.backend B.did = some connA ∧
      c.connection (B.answerOffer c offer).2.backend A.did = some connB := by
  obtain ⟨hnew, hoffer, hanswer, haccept, hstr, hsend⟩ := hc
  have hgA : (A.getAndCheckConnection c B.did).1 = none := hA
  have hgB : (B.getAndCheckConnection c A.did).1 = none := hB
  -- the initiator's offer
  obtain ⟨connA, hcA⟩ := hnew (A.getAndCheckConnection c B.did).2.backend B.did
  obtain ⟨o, ho⟩ := hoffer connA
  obtain ⟨oStr, hoStr⟩ := hstr o
  obtain ⟨offer, hp⟩ := hsend (.connectNodeSend ⟨oStr⟩) A.sessionSk A.did B.did
  have hprep : (A.prepareConnectionOffer c B.did).1 = .ok (connA, ⟨oStr⟩) :=
    prepareConnectionOffer_ok.mpr ⟨hA, newOffer_ok.mpr ⟨hcA, o, ho, hoStr⟩⟩
  have hA' : (A.createOffer c B.did).2 =
      ((A.getAndCheckConnection c B.did).2.newConnection c B.did).2 := by
    rw [createOffer_snd, prepareConnectionOffer_snd, hgA]
  -- the responder's answer
  obtain ⟨hv, hd, horig⟩ := hsA _ _ _ _ hp
  obtain ⟨connB, hcB⟩ := hnew (B.getAndCheckConnection c A.did).2.backend A.did
  obtain ⟨a, ha⟩ := hanswer connB o
  obtain ⟨aStr, haStr⟩ := hstr a
  obtain ⟨answer, hq⟩ := hsend (.connectNodeReport ⟨aStr⟩) B.sessionSk B.did B.did
  have hrem : (B.answerRemoteConnection c A.did ⟨oStr⟩).1 = .ok (connB, ⟨aStr⟩) :=
    answerRemoteConnection_ok.mpr ⟨hB, o, hrt _ _ hoStr, hcB, a, ha, haStr⟩
  have hB' : (B.answerOffer c offer).2 =
      ((B.getAndCheckConnection c A.did).2.newConnection c A.did).2 := by
    rw [answerOffer_snd, hv, hd, horig, if_pos rfl]
    dsimp only
    rw [answerRemoteConnection_snd, hgB, hrt _ _ hoStr]
  -- the initiator accepts it
  have hconnA : c.connection (A.createOffer c B.did).2.backend B.did = some connA := by
    rw [hA', newConnection_backend]
    exact hk _ _ _ hcA
  obtain ⟨hv', hd', horig'⟩ := hsB _ _ _ _ hq
  refine ⟨connA, connB, offer, answer, createOffer_ok.mpr ⟨_, hprep, hp⟩,
    answerOffer_ok.mpr ⟨hv, _, hd, _, horig ▸ hrem, hq⟩,
    acceptAnswer_ok.mpr ⟨hv', horig'.symm, _, hd',
      acceptRemoteConnection_ok.mpr ⟨a, hrt _ _ haStr, hconnA, haccept _ _⟩⟩, hconnA, ?_⟩
  rw [hB', newConnection_backend]
  exact hk _ _ _ hcB

theorem handshake_completes_loopback :
    let A : Swarm (List (Did × Nat)) := ⟨⟨1⟩, 1, []⟩
    let B : Swarm (List (Did × Nat)) := ⟨⟨2⟩, 2, []⟩
    (loopback.getAndCheckConnection A.backend B.did).1 = none ∧
    (loopback.getAndCheckConnection B.backend A.did).1 = none ∧
    loopback.Signs A.sessionSk A.did ∧ loopback.Signs B.sessionSk B.did ∧
    loopback.RoundTrip ∧ loopback.KeepsNewConnections ∧ loopback.Converges ∧
    ∃ connA connB offer answer,
      (A.createOffer loopback B.did).1 = .ok (connA, offer) ∧
      (B.answerOffer loopback offer).1 = .ok (connB, answer) ∧
      (A.createOffer loopback B.did).2.acceptAnswer loopback answer = .ok (B.did, connA) ∧
      loopback.connection (A.createOffer loopback B.did).2.backend B.did = some connA ∧
      loopback.connection (B.answerOffer loopback offer).2.backend A.did = some connB :=
  ⟨rfl, rfl, loopback_signs 1, loopback_signs 2, loopback_roundTrip, loopback_keepsNewConnections,
    loopback_converges, handshake_completes ⟨⟨1⟩, 1, []⟩ ⟨⟨2⟩, 2, []⟩ rfl rfl
      (loopback_signs 1) (loopback_signs 2) loopback_roundTrip loopback_keepsNewConnections
      loopback_converges⟩

end Swarm

end BnsNodeProofs.Core
