import AudioLink.Proofs.Session.Accounting

/-
Who makes the calls of a run.

Engines give handles as they like and may give one of them twice, so a handle does not tell who has
made a call. The program does: a call is made in one of its operations, by the context or by the peer
that the operation is about. What a run asks of its engines is put down here to these callers, and
whoever makes a call is found to be there, open, and in possession of the handle that the call
carries.
-/
set_option autoImplicit false

namespace AudioLink

/-! ## Callers -/

/-- An object of a program that makes calls. -/
inductive Caller where
  | context (id : ContextId)
  | peer (id : PeerId)
  deriving DecidableEq

namespace Caller

/-- The call by which an object is closed. -/
def closing : Caller → EngineCall
  | context _ => .contextClose
  | peer _ => .peerClose

/-- The number of an object in its session. -/
def index : Caller → Nat
  | context id => id.index
  | peer id => id.index

end Caller

/-- The context that a request is about. -/
def Request.context? : Request → Option ContextHandle
  | registerEncoding h _ _ | contextClose h | peerOpen h _ => some h
  | _ => none

/-- A call with its answer, and who has made it. -/
structure Deed (ε : Type) where
  /-- Nobody makes the call that opens a context. -/
  caller : Option Caller
  exchange : Exchange ε

/-- Whether an object has closed itself by a call. -/
def Deed.closes {ε : Type} (o : Caller) (d : Deed ε) : Bool :=
  d.caller = some o && d.exchange.succeeds o.closing

theorem Deed.closes_iff {ε : Type} {o : Caller} {d : Deed ε} :
    d.closes o = true ↔ d.caller = some o ∧ d.exchange.succeeds o.closing = true := by
  rw [Deed.closes, Bool.and_eq_true, decide_eq_true_iff]

/-- A call that closes a peer and succeeds. -/
theorem Exchange.closesPeer_of_succeeds {ε : Type} {x : Exchange ε}
    (hsucceeds : x.succeeds .peerClose = true) :
    Call.ClosesPeer ⟨x.request, x.answer.failure?⟩ := by
  obtain ⟨e, r, answer⟩ := x
  rw [Exchange.succeeds, Bool.and_eq_true, decide_eq_true_iff, Option.isNone_iff_eq_none]
    at hsucceeds
  obtain ⟨hcall, hfailure⟩ := hsucceeds
  cases r with
  | peerClose h => exact ⟨⟨h, rfl⟩, hfailure⟩
  | _ => cases hcall

/-- A call of another kind closes nobody. -/
theorem Exchange.succeeds_of_call_ne {ε : Type} {x : Exchange ε} {call : EngineCall}
    (hcall : x.request.call ≠ call) : ¬ x.succeeds call = true := by
  rw [Exchange.succeeds, decide_eq_false hcall, Bool.false_and]
  exact Bool.false_ne_true

namespace Session

variable {ε σ : Type}

/-- Who makes a request in an operation. To drop a peer takes requests of two objects: what carries
the handle of a peer is asked by the peer, and the rest by its context. -/
def caller (w : Session ε σ) (r : Request) : SessionOp ε → Option Caller
  | .openContext _ _ | .holdContext _ => none
  | .releaseContext id | .registerEncoding id _ _ | .closeContext id => some (.context id)
  | .openPeer id _ => id.map .context
  | .onPeer id _ => some (.peer id)
  | .releasePeer id =>
    if r.peer?.isSome then some (.peer id)
    else (w.peers.get? id).map fun m => .context m.context

/-- An object is there and open, and a call is made to its engine with its handle. -/
def Carries (w : Session ε σ) (x : Exchange ε) : Caller → Prop
  | .context id => ∃ c h, w.contexts.get? id = some c ∧ c.handle = some h ∧
      c.engine = x.engine ∧ x.request.context? = some h
  | .peer id => ∃ m h, w.peers.get? id = some m ∧ m.peer.handle = some h ∧
      m.engine = x.engine ∧ x.request.peer? = some h

/-- A call opens a context, or the one that has made it is in a position to do so. -/
def Made (w : Session ε σ) (d : Deed ε) : Prop :=
  match d.caller with
  | none => d.exchange.request.call = .contextOpen
  | some o => w.Carries d.exchange o

/-- An object is closed or gone. -/
def IsShut (w : Session ε σ) : Caller → Prop
  | .context id => ∀ c, w.contexts.get? id = some c → c.handle = none
  | .peer id => ∀ m, w.peers.get? id = some m → m.peer.handle = none

/-- What is shut has no handle to make a call with. -/
theorem IsShut.not_carries {w : Session ε σ} {o : Caller} {x : Exchange ε} (hshut : w.IsShut o) :
    ¬ w.Carries x o := by
  cases o with
  | context id =>
    rintro ⟨c, h, hc, hh, -⟩
    rw [hshut c hc] at hh
    cases hh
  | peer id =>
    rintro ⟨m, h, hm, hh, -⟩
    rw [hshut m hm] at hh
    cases hh

/-! ## The calls of one operation -/

variable {engines : ε → Engine σ} {w v w' : Session ε (Journaled ε σ)}
  {who : Request → Option Caller} {xs ys : List (Exchange ε)}

/-- On the way from one session to another these calls are made, each by the object that it is put
down to, and an object that closes itself is shut afterwards. -/
structure Asks (w w' : Session ε (Journaled ε σ)) (who : Request → Option Caller)
    (xs : List (Exchange ε)) : Prop where
  journal : w'.state.journal = w.state.journal ++ xs
  made : ∀ x ∈ xs, w.Made ⟨who x.request, x⟩
  /-- No object makes two calls. -/
  once : xs.Pairwise fun x y => who x.request ≠ who y.request
  shut : ∀ x ∈ xs, ∀ o, who x.request = some o → x.succeeds o.closing = true → w'.IsShut o

theorem asks_nothing (hstate : w'.state = w.state) : Asks w w' who [] where
  journal := by rw [hstate, List.append_nil]
  made := List.forall_mem_nil _
  once := .nil
  shut := List.forall_mem_nil _

theorem asks_once {e : ε} {r : Request} (hstate : w'.state = (journaled engines e r w.state).2)
    (hmade : w.Made ⟨who r, w.state.entry engines e r⟩)
    (hshut : ∀ o, who r = some o → (w.state.entry engines e r).succeeds o.closing = true →
      w'.IsShut o) : Asks w w' who [w.state.entry engines e r] where
  journal := by
    rw [hstate]
    rfl
  made x hx := by
    rw [List.mem_singleton.mp hx]
    exact hmade
  once := List.pairwise_singleton _ _
  shut x hx := by
    rw [List.mem_singleton.mp hx]
    exact hshut

/-- First some objects make calls, and then others. -/
theorem Asks.append {v' : Session ε (Journaled ε σ)} (hfirst : Asks w v who xs)
    (hthen : Asks v' w' who ys) (hstate : v'.state = v.state)
    (hmade : ∀ y ∈ ys, w.Made ⟨who y.request, y⟩)
    (hothers : ∀ x ∈ xs, ∀ y ∈ ys, who x.request ≠ who y.request)
    (hshut : ∀ x ∈ xs, ∀ o, who x.request = some o → v.IsShut o → w'.IsShut o) :
    Asks w w' who (xs ++ ys) where
  journal := by rw [hthen.journal, hstate, hfirst.journal, List.append_assoc]
  made x hx := by
    rcases List.mem_append.mp hx with hx | hx
    · exact hfirst.made x hx
    · exact hmade x hx
  once := List.pairwise_append.mpr ⟨hfirst.once, hthen.once, hothers⟩
  shut x hx o ho hsucceeds := by
    rcases List.mem_append.mp hx with hx | hx
    · exact hshut x hx o ho (hfirst.shut x hx o ho hsucceeds)
    · exact hthen.shut x hx o ho hsucceeds

/-- To whom requests are put down that are not made does not matter. -/
theorem Asks.congr {who' : Request → Option Caller} (hasks : Asks w w' who' xs)
    (hsame : ∀ x ∈ xs, who x.request = who' x.request) : Asks w w' who xs where
  journal := hasks.journal
  made x hx := by
    rw [hsame x hx]
    exact hasks.made x hx
  once := hasks.once.imp_of_mem fun hx hy hne => by
    rw [hsame _ hx, hsame _ hy]
    exact hne
  shut x hx o ho := by
    rw [hsame x hx] at ho
    exact hasks.shut x hx o ho

/-! ### Contexts -/

section Context

variable {id : ContextId} {c : Context ε} {h : ContextHandle}

/-- A request of a context that does not close it. -/
theorem asks_of_context {r : Request} (hc : w.contexts.get? id = some c) (hh : c.handle = some h)
    (hr : r.context? = some h) (hcall : r.call ≠ .contextClose)
    (hcaller : who r = some (.context id))
    (hstate : w'.state = (journaled engines c.engine r w.state).2) :
    Asks w w' who [w.state.entry engines c.engine r] := by
  refine asks_once hstate ?_ ?_
  · rw [hcaller]
    exact ⟨c, h, hc, hh, rfl, hr⟩
  · intro o ho hsucceeds
    rw [hcaller] at ho
    obtain rfl := Option.some.inj ho
    exact absurd hsucceeds (Exchange.succeeds_of_call_ne hcall)

/-- A request that closes a context. -/
theorem asks_close (hc : w.contexts.get? id = some c) (hh : c.handle = some h)
    (hcaller : who (.contextClose h) = some (.context id))
    (hstate : w'.state = (journaled engines c.engine (.contextClose h) w.state).2)
    (hshut : (engines c.engine (.contextClose h) w.state.inner).1 = .ok () →
      w'.IsShut (.context id)) :
    Asks w w' who [w.state.entry engines c.engine (.contextClose h)] := by
  refine asks_once hstate ?_ ?_
  · rw [hcaller]
    exact ⟨c, h, hc, hh, rfl, rfl⟩
  · intro o ho hsucceeds
    rw [hcaller] at ho
    obtain rfl := Option.some.inj ho
    refine hshut ?_
    cases hanswer : (engines c.engine (.contextClose h) w.state.inner).1 with
    | ok u => rfl
    | error code =>
      have hvoid := Program.isVoid_entry_of_error hanswer .contextClose rfl
      exact absurd (hvoid.symm.trans hsucceeds) Bool.false_ne_true

end Context

variable (engines w)

theorem asks_releaseContext (id : ContextId) :
    ∃ xs, Asks w (w.releaseContext (journaled engines) id) (fun _ => some (.context id)) xs ∧
      ∀ x ∈ xs, x.request.peer? = none := by
  obtain ⟨-, hsame | ⟨c, h, hc, hh, hcontexts, hasked⟩⟩ :=
    w.releaseContext_cases (journaled engines) id
  · exact ⟨[], asks_nothing hsame, List.forall_mem_nil _⟩
  · refine ⟨_, asks_close hc hh rfl hasked fun _ c' hc' => ?_, fun x hx => ?_⟩
    -- The context is gone, whether or not its engine has closed it.
    · rw [hcontexts, Table.get?_erase_self] at hc'
      cases hc'
    · rw [List.mem_singleton.mp hx]
      rfl

theorem asks_registerEncoding (id : ContextId) (encodingId : Int32) (encoding : MediaEncoding) :
    ∃ xs, Asks w (w.operate (journaled engines) (.registerEncoding id encodingId encoding))
      (fun _ => some (.context id)) xs := by
  rw [operate, registerEncoding]
  cases hc : w.contexts.get? id with
  | none => exact ⟨[], asks_nothing rfl⟩
  | some c =>
    simp only [Option.map_some, Option.getD_some]
    cases hh : c.handle with
    | none => exact ⟨[], asks_nothing rfl⟩
    | some h =>
      have hown : (Request.registerEncoding h encodingId encoding).context? = some h := rfl
      have hcall : EngineCall.contextRegisterEncoding ≠ .contextClose := by decide
      exact ⟨[w.state.entry engines c.engine (.registerEncoding h encodingId encoding)],
        asks_of_context hc hh hown hcall rfl rfl⟩

theorem asks_closeContext (id : ContextId) :
    ∃ xs, Asks w (w.operate (journaled engines) (.closeContext id))
      (fun _ => some (.context id)) xs := by
  rw [operate]
  cases hc : w.contexts.get? id with
  | none =>
    refine ⟨[], asks_nothing ?_⟩
    rw [closeContext, hc]
    rfl
  | some c =>
    cases hh : c.handle with
    | none =>
      rw [closeContext_of_closed _ w hc hh]
      exact ⟨[], asks_nothing rfl⟩
    | some h =>
      by_cases hattached : 0 < c.attached
      · rw [closeContext_of_attached _ w hc hh hattached]
        exact ⟨[], asks_nothing rfl⟩
      · have hfree : c.attached = 0 := by omega
        cases hanswer : (engines c.engine (.contextClose h) w.state.inner).1 with
        | ok u =>
          rw [closeContext_of_ok (journaled engines) w hc hh hfree hanswer]
          refine ⟨_, asks_close hc hh rfl rfl fun _ c' hc' => ?_⟩
          have hself := Table.get?_insert_self w.contexts id { c with handle := none }
          rw [← Option.some.inj (hself.symm.trans hc')]
        | error code =>
          obtain ⟨outcome, -, hclose⟩ :=
            closeContext_of_error (journaled engines) w hc hh hfree hanswer
          rw [hclose]
          -- The context stays open, but then its call has not succeeded either.
          refine ⟨_, asks_close hc hh rfl rfl fun hok => ?_⟩
          rw [hanswer] at hok
          cases hok

theorem asks_openPeer (id : Option ContextId) (config : PeerConfig) :
    ∃ xs, Asks w (w.operate (journaled engines) (.openPeer id config))
      (fun _ => id.map .context) xs := by
  rw [operate]
  rcases w.openRequest_cases id with ⟨e, hrequest⟩ | ⟨id, c, h, rfl, hc, hh, hrequest⟩
  · refine ⟨[], asks_nothing ?_⟩
    rw [openPeer, hrequest]
  · have hown : (Request.peerOpen h config).context? = some h := rfl
    have hcall : EngineCall.peerOpen ≠ .contextClose := by decide
    refine ⟨[w.state.entry engines c.engine (.peerOpen h config)],
      asks_of_context hc hh hown hcall rfl ?_⟩
    cases hanswer : (engines c.engine (.peerOpen h config) w.state.inner).1 with
    | ok peer => rw [openPeer_of_ok (journaled engines) w hrequest hanswer]
    | error code => rw [openPeer_of_error (journaled engines) w hrequest hanswer]

/-! ### Peers -/

variable {w}

/-- A peer that moves makes its calls itself. -/
theorem asks_update (who : Request → Option Caller) {id : PeerId} {m : Member ε}
    {kind : Option PeerKind} {result : Peer × Journaled ε σ} (hm : w.peers.get? id = some m)
    (hmoves : m.peer.Moves (journaled engines m.engine) kind w.state result)
    (hcaller : ∀ r h, r.peer? = some h → who r = some (.peer id)) :
    ∃ xs, Asks w (w.update id m result.1 result.2) who xs ∧
      ∀ x ∈ xs, who x.request = some (.peer id) := by
  have hstate : (w.update id m result.1 result.2).state = result.2 := w.state_update id m _ _
  rcases hmoves with rfl | ⟨h, r, -, hasked, hstep⟩
  · exact ⟨[], asks_nothing hstate, List.forall_mem_nil _⟩
  · have hby : who r = some (.peer id) := hcaller r h hstep.own
    refine ⟨_, asks_once (hstate.trans hasked) ?_ ?_, ?_⟩
    · rw [hby]
      exact ⟨m, h, hm, hstep.isOpen, rfl, hstep.own⟩
    · intro o ho hsucceeds
      rw [hby] at ho
      obtain rfl := Option.some.inj ho
      intro m' hm'
      rw [peers_update, Table.get?_insert_self] at hm'
      rw [← Option.some.inj hm']
      rcases hstep.handle with ⟨hcloses, -⟩ | ⟨-, hclosed⟩
      · exact absurd (Exchange.closesPeer_of_succeeds hsucceeds) hcloses
      · exact hclosed
    · intro x hx
      rw [List.mem_singleton.mp hx]
      exact hby

/-- A peer that moves leaves every context with its engine and its handle. -/
theorem get?_contexts_update {id : PeerId} {m : Member ε} {p : Peer} {s : Journaled ε σ}
    {other : ContextId} {c : Context ε} (hc : (w.update id m p s).contexts.get? other = some c) :
    ∃ c', w.contexts.get? other = some c' ∧ c'.handle = c.handle ∧ c'.engine = c.engine := by
  unfold update at hc
  dsimp only at hc
  split at hc
  · simp only [detach, Table.modify] at hc
    cases hcontext : w.contexts.get? m.context with
    | none =>
      rw [hcontext] at hc
      exact ⟨c, hc, rfl, rfl⟩
    | some c' =>
      rw [hcontext] at hc
      rcases Table.get?_insert_cases hc with ⟨rfl, rfl⟩ | ⟨-, hc⟩
      · exact ⟨c', hcontext, rfl, rfl⟩
      · exact ⟨c, hc, rfl, rfl⟩
  · exact ⟨c, hc, rfl, rfl⟩

variable (w)

theorem asks_onPeer (id : PeerId) (op : PeerOp) :
    ∃ xs, Asks w (w.operate (journaled engines) (.onPeer id op)) (fun _ => some (.peer id)) xs := by
  rw [operate]
  rcases w.onPeer_cases (journaled engines) id op with hsame | ⟨m, hm, -, hmoved⟩
  · rw [hsame]
    exact ⟨[], asks_nothing rfl⟩
  · rw [hmoved]
    obtain ⟨xs, hasks, -⟩ := asks_update engines (fun _ => some (.peer id)) hm
      (op.moves_run (journaled engines m.engine) m.peer w.state) fun _ _ _ => rfl
    exact ⟨xs, hasks⟩

theorem asks_releasePeer (id : PeerId) :
    ∃ xs, Asks w (w.operate (journaled engines) (.releasePeer id))
      (w.caller · (.releasePeer id)) xs := by
  rw [operate, releasePeer]
  cases hm : w.peers.get? id with
  | none => exact ⟨[], asks_nothing rfl⟩
  | some m =>
    dsimp only
    obtain ⟨xs, hfirst, hxs⟩ := asks_update engines (w.caller · (.releasePeer id)) hm
      (m.peer.moves_dispose (journaled engines m.engine) w.state) fun r h hr => by
        rw [caller, hr]
        rfl
    generalize m.peer.dispose (journaled engines m.engine) w.state = result at hfirst ⊢
    have hcontexts (c : Context ε)
        (hc : (w.update id m result.1 result.2).contexts.get? m.context = some c) :
        ∃ c', w.contexts.get? m.context = some c' ∧ c'.handle = c.handle ∧ c'.engine = c.engine :=
      w.get?_contexts_update hc
    generalize w.update id m result.1 result.2 = v at hfirst hcontexts ⊢
    obtain ⟨ys, hthen, hys⟩ := asks_releaseContext engines { v with peers := v.peers.erase id }
      m.context
    have hpeers := releaseContext_cases (journaled engines)
      { v with peers := v.peers.erase id } m.context |>.1
    generalize ({ v with peers := v.peers.erase id } : Session ε (Journaled ε σ)).releaseContext
      (journaled engines) m.context = w' at hthen hpeers ⊢
    -- What is not asked by the peer is asked by its context, with the handle that it had before.
    have hcontext : ∀ y ∈ ys, w.caller y.request (.releasePeer id) = some (.context m.context) := by
      intro y hy
      rw [caller, hys y hy, hm]
      rfl
    refine ⟨xs ++ ys, hfirst.append (hthen.congr hcontext) rfl ?_ ?_ ?_⟩
    · intro y hy
      obtain ⟨c, h, hc, hh, hengine, hrequest⟩ := hthen.made y hy
      obtain ⟨c', hc', hhandle, hengine'⟩ := hcontexts c hc
      rw [hcontext y hy]
      exact ⟨c', h, hc', hhandle.trans hh, hengine'.trans hengine, hrequest⟩
    · intro x hx y hy
      rw [hxs x hx, hcontext y hy]
      simp
    · -- The peer is gone in the end, whether or not it has been closed.
      intro x hx o ho _
      rw [hxs x hx] at ho
      obtain rfl := Option.some.inj ho
      intro m' hm'
      rw [hpeers, Table.get?_erase_self] at hm'
      cases hm'

/-- Whoever makes a call in an operation is there and open, and makes no other. -/
theorem asks_operate (op : SessionOp ε) :
    ∃ xs, Asks w (w.operate (journaled engines) op) (w.caller · op) xs := by
  cases op with
  | openContext e config =>
    exact ⟨_, asks_once (w.state_openContext (journaled engines) e config) rfl
      (by rintro o ⟨⟩)⟩
  | holdContext id => exact ⟨[], asks_nothing rfl⟩
  | releaseContext id =>
    obtain ⟨xs, hasks, -⟩ := w.asks_releaseContext engines id
    exact ⟨xs, hasks⟩
  | registerEncoding id encodingId encoding =>
    exact w.asks_registerEncoding engines id encodingId encoding
  | closeContext id => exact w.asks_closeContext engines id
  | openPeer id config => exact w.asks_openPeer engines id config
  | onPeer id op => exact w.asks_onPeer engines id op
  | releasePeer id => exact w.asks_releasePeer engines id

/-- The calls of an operation, from the oldest to the newest. -/
def deeds (op : SessionOp ε) : List (Deed ε) :=
  ((w.operate (journaled engines) op).state.journal.drop w.state.journal.length).map fun x =>
    ⟨w.caller x.request op, x⟩

end Session

/-! ## The calls of a run -/

namespace Program

variable {ε σ : Type} (engines : ε → Engine σ)

/-- The calls of an action. -/
def deeds (p : Program ε σ) : Action ε σ → List (Deed ε)
  | .operation op => if p.permits op then p.session.deeds engines op else []
  | .world _ => []

/-- The calls of a run, from the oldest to the newest. -/
def deedsIn (p : Program ε σ) : List (Action ε σ) → List (Deed ε)
  | [] => []
  | action :: actions => p.deeds engines action ++ (p.after engines action).deedsIn actions

/-- What is said of the calls of an action. -/
structure Does (p p' : Program ε σ) (ds : List (Deed ε)) : Prop where
  journal : p'.session.state.journal = p.session.state.journal ++ ds.map Deed.exchange
  made : ∀ d ∈ ds, p.session.Made d
  once : ds.Pairwise fun d d' => d.caller ≠ d'.caller
  shut : ∀ d ∈ ds, ∀ o, d.closes o = true → p'.session.IsShut o

theorem does_nothing {p p' : Program ε σ}
    (hjournal : p'.session.state.journal = p.session.state.journal) : Does p p' [] where
  journal := by rw [hjournal, List.map_nil, List.append_nil]
  made := List.forall_mem_nil _
  once := .nil
  shut := List.forall_mem_nil _

/-- Every call of an action is put down to one that can make it. -/
theorem does_after (p : Program ε σ) (action : Action ε σ) :
    Does p (p.after engines action) (p.deeds engines action) := by
  cases action with
  | world change => exact does_nothing rfl
  | operation op =>
    by_cases hpermits : p.permits op = true
    · obtain ⟨xs, hasks⟩ := p.session.asks_operate engines op
      rw [after, deeds, if_pos hpermits, if_pos hpermits, Session.deeds, hasks.journal,
        List.drop_left]
      refine ⟨?_, ?_, ?_, ?_⟩
      · rw [List.map_map, show Deed.exchange ∘ _ = id from rfl, List.map_id]
        exact hasks.journal
      · intro d hd
        obtain ⟨x, hx, rfl⟩ := List.mem_map.mp hd
        exact hasks.made x hx
      · exact List.pairwise_map.mpr hasks.once
      · intro d hd o hcloses
        obtain ⟨x, hx, rfl⟩ := List.mem_map.mp hd
        obtain ⟨hcaller, hsucceeds⟩ := Deed.closes_iff.mp hcloses
        exact hasks.shut x hx o hcaller hsucceeds
    · rw [after, deeds, if_neg hpermits, if_neg hpermits]
      exact does_nothing rfl

/-- The calls of a run are those in its journal. -/
theorem journal_deedsIn (p : Program ε σ) (actions : List (Action ε σ)) :
    (p.afterAll engines actions).session.state.journal =
      p.session.state.journal ++ (p.deedsIn engines actions).map Deed.exchange := by
  induction actions generalizing p with
  | nil => exact (List.append_nil _).symm
  | cons action actions ih =>
    rw [deedsIn, List.map_append, ← List.append_assoc, ← (does_after engines p action).journal]
    exact ih (p.after engines action)

end Program
end AudioLink
