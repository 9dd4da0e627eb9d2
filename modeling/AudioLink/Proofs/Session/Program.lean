import AudioLink.Proofs.Session.Operation
import AudioLink.Proofs.Table
import Mathlib.Logic.Relation

/-
Programs that open, clone, close and drop the objects of a session.

A program holds clones of contexts and drops them one by one. Beside it stands what an observer
counts: the clones of each context, and how many calls have succeeded that opened or closed a peer
of it. The observer reads these calls off a journal, in which every call to an engine is written
down with its answer, and never looks into a context.

Whatever a program does is a chain of a few kinds of change, which `Change` lists. Each of them
opens, clones, closes or drops one object and makes at most one call. Nothing is assumed of the
engines.
-/
set_option autoImplicit false

namespace AudioLink

/-! ## Journals -/

/-- Whether calls of this kind open or close something. -/
def EngineCall.opensOrCloses : EngineCall → Bool
  | contextOpen | contextClose | peerOpen | peerClose => true
  | _ => false

/-- A call to an engine with its answer. -/
structure Exchange (ε : Type) where
  engine : ε
  request : Request
  answer : Answer request.Response

namespace Exchange

variable {ε : Type}

/-- Whether this is a call of the given kind that succeeded. -/
def succeeds (call : EngineCall) (x : Exchange ε) : Bool :=
  x.request.call = call && x.answer.failure?.isNone

/-- Whether the call has given a handle. -/
def gives (x : Exchange ε) : Bool := x.succeeds .contextOpen || x.succeeds .peerOpen

/-- Nothing has been opened or closed by the call. -/
def IsVoid (x : Exchange ε) : Prop :=
  ∀ call : EngineCall, call.opensOrCloses = true → x.succeeds call = false

/-- A request that is refused opens and closes nothing. -/
theorem isVoid_of_error {e : ε} {r : Request} {code : EngineCode} :
    IsVoid ⟨e, r, .error code⟩ := fun _ _ => Bool.and_false _

/-- A void exchange gives no handle. -/
theorem IsVoid.gives {x : Exchange ε} (hvoid : x.IsVoid) : x.gives = false := by
  rw [Exchange.gives, hvoid .contextOpen rfl, hvoid .peerOpen rfl]
  rfl

/-- A call of another kind opens and closes nothing. -/
theorem isVoid_of_call {x : Exchange ε} (hcall : x.request.call.opensOrCloses = false) :
    x.IsVoid := by
  intro call hopens
  have hne : x.request.call ≠ call := by
    rintro rfl
    exact Bool.false_ne_true (hcall.symm.trans hopens)
  rw [succeeds, decide_eq_false hne, Bool.false_and]

/-- A call about a peer that does not close it opens and closes nothing. -/
theorem isVoid_of_own {e : ε} {r : Request} {answer : Answer r.Response} {h : PeerHandle}
    (hown : r.peer? = some h) (hcloses : ¬ Call.ClosesPeer ⟨r, answer.failure?⟩) :
    IsVoid ⟨e, r, answer⟩ := by
  cases r with
  | contextOpen | contextClose | peerOpen => exact absurd hown nofun
  | peerClose h' =>
    cases answer with
    | ok u => exact absurd ⟨⟨h', rfl⟩, rfl⟩ hcloses
    | error code => exact isVoid_of_error
  | _ => exact isVoid_of_call rfl

end Exchange

/-- The states of engines together with a journal of the calls to them, the oldest first. -/
structure Journaled (ε σ : Type) where
  inner : σ
  journal : List (Exchange ε) := []

/-- Engines that write every call into one journal. -/
def journaled {ε σ : Type} (engines : ε → Engine σ) (e : ε) : Engine (Journaled ε σ) := fun r s =>
  let (answer, inner) := engines e r s.inner
  (answer, { inner, journal := s.journal ++ [⟨e, r, answer⟩] })

/-- The answer to a call does not depend on the journal. -/
theorem answer_journaled {ε σ : Type} (engines : ε → Engine σ) (e : ε) (r : Request)
    (s : Journaled ε σ) : (journaled engines e r s).1 = (engines e r s.inner).1 := rfl

/-- How many calls of a kind have succeeded. -/
def Journaled.successes {ε σ : Type} (s : Journaled ε σ) (call : EngineCall) : Nat :=
  s.journal.countP (Exchange.succeeds call)

/-- The next entry of a journal, if an engine is asked this. -/
def Journaled.entry {ε σ : Type} (engines : ε → Engine σ) (e : ε) (r : Request)
    (s : Journaled ε σ) : Exchange ε :=
  ⟨e, r, (engines e r s.inner).1⟩

section Successes

variable {ε σ : Type} {engines : ε → Engine σ} {e : ε} {r : Request} {s : Journaled ε σ}

/-- The journal counts the request that is being made, if it succeeds. -/
theorem successes_journaled (call : EngineCall) :
    (journaled engines e r s).2.successes call =
      s.successes call + if (s.entry engines e r).succeeds call = true then 1 else 0 :=
  List.countP_append.trans (congrArg (s.successes call + ·) List.countP_singleton)

/-- A request that succeeds is counted once, under its own name. -/
theorem successes_of_ok {a : r.Response} (hanswer : (engines e r s.inner).1 = .ok a) :
    (journaled engines e r s).2.successes r.call = s.successes r.call + 1 := by
  have hsucceeds : (s.entry engines e r).succeeds r.call = true := by
    rw [Journaled.entry, hanswer, Exchange.succeeds, decide_eq_true rfl]
    rfl
  rw [successes_journaled, if_pos hsucceeds]

/-- A request is not counted under another name. -/
theorem successes_of_ne {call : EngineCall} (hcall : r.call ≠ call) :
    (journaled engines e r s).2.successes call = s.successes call := by
  have hsucceeds : (s.entry engines e r).succeeds call = false := by
    rw [Journaled.entry, Exchange.succeeds, decide_eq_false hcall, Bool.false_and]
  rw [successes_journaled, hsucceeds]
  rfl

/-- A request that is refused is not counted. -/
theorem successes_of_error {code : EngineCode} (hanswer : (engines e r s.inner).1 = .error code)
    (call : EngineCall) : (journaled engines e r s).2.successes call = s.successes call := by
  have hsucceeds : (s.entry engines e r).succeeds call = false := by
    rw [Journaled.entry, hanswer, Exchange.succeeds]
    exact Bool.and_false _
  rw [successes_journaled, hsucceeds]
  rfl

end Successes

/-! ## What is counted of a session -/

/-- What a peer has to do with the accounts: its engine, its context, and its handle if it is open.
-/
structure Attachment (ε : Type) where
  engine : ε
  context : ContextId
  handle : Option PeerHandle

def Member.attachment {ε : Type} (m : Member ε) : Attachment ε :=
  ⟨m.engine, m.context, m.peer.handle⟩

namespace Session

variable {ε σ : Type}

def attachments (w : Session ε σ) : Table PeerId (Attachment ε) := w.peers.image Member.attachment

/-- The attachments have the keys of the peers. -/
theorem get?_attachments (w : Session ε σ) (id : PeerId) :
    w.attachments.get? id = (w.peers.get? id).map Member.attachment :=
  Table.get?_image Member.attachment w.peers id

theorem attachments_of_get? {w : Session ε σ} {id : PeerId} {m : Member ε}
    (hm : w.peers.get? id = some m) : w.attachments.get? id = some m.attachment := by
  rw [get?_attachments, hm, Option.map_some]

/-- The context that an operation on peers is about. -/
def target (w : Session ε σ) : SessionOp ε → Option ContextId
  | .openPeer context _ => context
  | .onPeer id _ | .releasePeer id => (w.peers.get? id).map Member.context
  | _ => none

end Session

/-! ## Programs -/

/-- The amount of a context goes up. -/
def raise (amounts : ContextId → Nat) (id : Option ContextId) (n : Nat) : ContextId → Nat :=
  fun other => amounts other + if id = some other then n else 0

/-- The amount of a context goes down. -/
def lower (amounts : ContextId → Nat) (id : ContextId) (n : Nat) : ContextId → Nat :=
  fun other => amounts other - if id = other then n else 0

/-- The amount that is raised. -/
theorem raise_self (amounts : ContextId → Nat) (id : ContextId) (n : Nat) :
    raise amounts (some id) n id = amounts id + n := by
  rw [raise, if_pos rfl]

/-- The other amounts stay when one is raised. -/
theorem raise_of_ne (amounts : ContextId → Nat) {id other : ContextId} (n : Nat)
    (hother : other ≠ id) : raise amounts (some id) n other = amounts other := by
  rw [raise, if_neg fun heq => hother (Option.some.inj heq).symm, Nat.add_zero]

theorem lower_self (amounts : ContextId → Nat) (id : ContextId) (n : Nat) :
    lower amounts id n id = amounts id - n := by
  rw [lower, if_pos rfl]

/-- The other amounts stay when one is lowered. -/
theorem lower_of_ne (amounts : ContextId → Nat) {id other : ContextId} (n : Nat)
    (hother : other ≠ id) : lower amounts id n other = amounts other := by
  rw [lower, if_neg (Ne.symm hother), Nat.sub_zero]

theorem raise_zero (amounts : ContextId → Nat) (id : Option ContextId) :
    raise amounts id 0 = amounts := by
  funext other
  rw [raise, ite_self, Nat.add_zero]

/-- A peer without a context raises no amount. -/
theorem raise_none (amounts : ContextId → Nat) (n : Nat) : raise amounts none n = amounts := rfl

/-- A clone that is made and given back leaves the count as it was. -/
theorem lower_raise (amounts : ContextId → Nat) (id : ContextId) (n : Nat) :
    lower (raise amounts (some id) n) id n = amounts := by
  funext other
  simp only [lower, raise, Option.some.injEq]
  omega

/-- A program with its session, and what is counted beside it. -/
@[ext]
structure Program (ε σ : Type) where
  session : Session ε (Journaled ε σ)
  /-- How many clones of each context the program holds. -/
  clones : ContextId → Nat := fun _ => 0
  /-- How many calls have succeeded that opened a peer of a context. -/
  opened : ContextId → Nat := fun _ => 0
  /-- How many calls have succeeded that closed a peer of a context. -/
  closed : ContextId → Nat := fun _ => 0

/-- What happens in a run. -/
inductive Action (ε σ : Type) where
  /-- The program performs an operation. -/
  | operation (op : SessionOp ε)
  /-- The engines change behind the back of the program. -/
  | world (change : σ → σ)

namespace Program

variable {ε σ : Type}

/-- A program without contexts and peers. -/
def start (s : σ) : Program ε σ := { session := { state := { inner := s } } }

variable (engines : ε → Engine σ)

/-- Whether a program has what an operation takes: a context is cloned while somebody holds it, and
the program can drop only clones that it has. -/
def permits (p : Program ε σ) : SessionOp ε → Bool
  | .holdContext id => p.session.contexts.contains id
  | .releaseContext id => 0 < p.clones id
  | _ => true

/-- The clones of each context after an operation. -/
def clonesAfter (p : Program ε σ) : SessionOp ε → ContextId → Nat
  | .openContext engine config =>
    raise p.clones (p.session.openContext (journaled engines) engine config).1.value? 1
  | .holdContext id => raise p.clones (some id) 1
  | .releaseContext id => lower p.clones id 1
  | _ => p.clones

/-- What an action makes of a program. -/
def after (p : Program ε σ) : Action ε σ → Program ε σ
  | .operation op =>
    if p.permits op then
      let w := p.session.operate (journaled engines) op
      let successes := fun call => w.state.successes call - p.session.state.successes call
      { session := w
        clones := p.clonesAfter engines op
        opened := raise p.opened (p.session.target op) (successes .peerOpen)
        closed := raise p.closed (p.session.target op) (successes .peerClose) }
    else p
  | .world change =>
    let state := { p.session.state with inner := change p.session.state.inner }
    { p with session := { p.session with state } }

/-- What several actions make of a program. -/
def afterAll (p : Program ε σ) (actions : List (Action ε σ)) : Program ε σ :=
  actions.foldl (after engines) p

/-! ## Changes -/

/-- A session in which only the engines are asked something, or nothing changes at all. -/
structure Quiet (w w' : Session ε (Journaled ε σ)) : Prop where
  contexts : w'.contexts = w.contexts
  attachments : w'.attachments = w.attachments
  next : w'.next = w.next
  state : w'.state = w.state ∨ ∃ e r, (w.state.entry engines e r).IsVoid ∧
    w'.state = (journaled engines e r w.state).2

/-- The kinds of change that a program can make. -/
inductive Change (p : Program ε σ) : Program ε σ → Prop
  /-- Nothing is opened, cloned, closed or dropped. -/
  | quiet (w : Session ε (Journaled ε σ)) (hquiet : Quiet engines p.session w) :
    Change p { p with session := w }
  | contextOpened (e : ε) (config : ContextConfig) (h : ContextHandle)
      (hanswer : (engines e (.contextOpen config) p.session.state.inner).1 = .ok h) :
    Change p { p with
      session := { p.session with
        contexts := p.session.contexts.insert ⟨p.session.next⟩ { engine := e, handle := some h }
        next := p.session.next + 1
        state := (journaled engines e (.contextOpen config) p.session.state).2 }
      clones := raise p.clones (some ⟨p.session.next⟩) 1 }
  | cloned (id : ContextId) (c : Context ε) (hc : p.session.contexts.get? id = some c) :
    Change p { p with
      session := { p.session with
        contexts := p.session.contexts.insert id { c with holders := c.holders + 1 } }
      clones := raise p.clones (some id) 1 }
  /-- A clone is dropped, and it is not the last holder of its context. -/
  | cloneDropped (id : ContextId) (c : Context ε) (hc : p.session.contexts.get? id = some c)
      (hclones : 0 < p.clones id) (hholders : 1 < c.holders) :
    Change p { p with
      session := { p.session with
        contexts := p.session.contexts.insert id { c with holders := c.holders - 1 } }
      clones := lower p.clones id 1 }
  /-- The last clone of a context is dropped. The engine may refuse to close the context. -/
  | contextDropped (id : ContextId) (c : Context ε) (state : Journaled ε σ)
      (hc : p.session.contexts.get? id = some c) (hclones : 0 < p.clones id)
      (hholders : c.holders ≤ 1)
      (hstate : ∀ h, c.handle = some h →
        state = (journaled engines c.engine (.contextClose h) p.session.state).2)
      (hclosed : c.handle = none → state = p.session.state) :
    Change p { p with
      session := { p.session with contexts := p.session.contexts.erase id, state }
      clones := lower p.clones id 1 }
  | contextClosed (id : ContextId) (c : Context ε) (h : ContextHandle)
      (hc : p.session.contexts.get? id = some c) (hh : c.handle = some h) (hfree : c.attached = 0)
      (hanswer : (engines c.engine (.contextClose h) p.session.state.inner).1 = .ok ()) :
    Change p { p with session := { p.session with
      contexts := p.session.contexts.insert id { c with handle := none }
      state := (journaled engines c.engine (.contextClose h) p.session.state).2 } }
  | peerOpened (id : ContextId) (c : Context ε) (h : ContextHandle) (config : PeerConfig)
      (peer : PeerHandle) (w : Session ε (Journaled ε σ))
      (hc : p.session.contexts.get? id = some c) (hh : c.handle = some h)
      (hanswer : (engines c.engine (.peerOpen h config) p.session.state.inner).1 = .ok peer)
      (hcontexts : w.contexts = p.session.contexts.insert id
        { c with attached := c.attached + 1, holders := c.holders + 1 })
      (hattachments : w.attachments =
        p.session.attachments.insert ⟨p.session.next⟩ ⟨c.engine, id, some peer⟩)
      (hnext : w.next = p.session.next + 1)
      (hstate : w.state = (journaled engines c.engine (.peerOpen h config) p.session.state).2) :
    Change p { p with session := w, opened := raise p.opened (some id) 1 }
  | peerClosed (id : PeerId) (a : Attachment ε) (h : PeerHandle) (w : Session ε (Journaled ε σ))
      (ha : p.session.attachments.get? id = some a) (hh : a.handle = some h)
      (hanswer : (engines a.engine (.peerClose h) p.session.state.inner).1 = .ok ())
      (hcontexts : w.contexts =
        p.session.contexts.modify a.context fun c => { c with attached := c.attached - 1 })
      (hattachments : w.attachments = p.session.attachments.insert id { a with handle := none })
      (hnext : w.next = p.session.next)
      (hstate : w.state = (journaled engines a.engine (.peerClose h) p.session.state).2) :
    Change p { p with session := w, closed := raise p.closed (some a.context) 1 }
  /-- A peer is dropped that is closed, or that its engine refuses to close. Its part in the context
  is like a clone from now on. -/
  | peerDropped (id : PeerId) (a : Attachment ε) (w : Session ε (Journaled ε σ))
      (ha : p.session.attachments.get? id = some a)
      (hcontexts : w.contexts = p.session.contexts)
      (hattachments : w.attachments = p.session.attachments.erase id)
      (hnext : w.next = p.session.next)
      (hclosed : a.handle = none → w.state = p.session.state)
      (hopen : ∀ h, a.handle = some h →
        (∃ code, (engines a.engine (.peerClose h) p.session.state.inner).1 = .error code) ∧
          w.state = (journaled engines a.engine (.peerClose h) p.session.state).2) :
    Change p { p with session := w, clones := raise p.clones (some a.context) 1 }

end Program
end AudioLink
