import AudioLink.Proofs.Loopback.Sizes
import AudioLink.Proofs.Loopback.Step
import AudioLink.Proofs.Session.Program
import AudioLink.Proofs.Table

/-
Which contexts and peers a loopback engine has.

The census of a state is its contexts with the numbers of peers that it keeps for them, and its
peers with the contexts that they are attached to. Four kinds of call change it, when they succeed:
a handle is given to a context or to a peer, or a context or a peer goes. Whatever is asked of the
engine, and by whom, the number kept for a context is the number of its peers, and so a context does
not go before them.
-/
set_option autoImplicit false

namespace AudioLink.Loopback

/-! ## Censuses -/

/-- The contexts and peers of an engine. -/
@[ext]
structure Census where
  /-- The number of the next handle. -/
  nextId : UInt64
  /-- The number of peers that is kept for each context. -/
  contexts : Table ContextHandle Nat
  /-- The context that each peer is attached to. -/
  peers : Table PeerHandle ContextHandle

/-- What is counted of a state of the engine. -/
def State.census (s : State) : Census :=
  ⟨s.nextId, s.contexts.image ContextState.peers, s.peers.image PeerState.context⟩

/-- The census counts the peers of each context. -/
theorem State.get?_contexts_census (s : State) (h : ContextHandle) :
    s.census.contexts.get? h = (s.contexts.get? h).map ContextState.peers :=
  Table.get?_image _ _ _

/-- The census keeps the context of each peer. -/
theorem State.get?_peers_census (s : State) (h : PeerHandle) :
    s.census.peers.get? h = (s.peers.get? h).map PeerState.context :=
  Table.get?_image _ _ _

namespace Site

variable (site : Site) {h : PeerHandle} {q : PeerState}

/-! ### Requests that change nothing -/

variable {site} in
/-- A peer that stays in its context does not change the census. -/
theorem census_setPeer (hq : site.state.peers.get? h = some q) (machine : Machine)
    {q' : PeerState} (hcontext : q'.context = q.context) :
    ({ site with machine }.setPeer h q').state.census = site.state.census := by
  refine Census.ext rfl rfl ?_
  show (site.state.peers.insert h q').image PeerState.context = _
  rw [Table.image_insert, hcontext]
  refine Table.insert_of_get? ?_
  rw [Table.get?_image, hq, Option.map_some]

variable {site} in
/-- Requests about slots are not seen by the census. -/
theorem SetsSlot.census {α : Type} {slot : Slot} {result : Answer α × Site}
    (hsets : SetsSlot site h slot result) : result.2.state.census = site.state.census := by
  cases hsets with
  | refused code => rfl
  | set hq answer machine s => exact census_setPeer hq machine rfl

/-- Registering an encoding is not seen by the census. -/
theorem census_registerEncoding (c : ContextHandle) (id : Int32) (encoding : MediaEncoding) :
    (site.registerEncoding c id encoding).2.state.census = site.state.census := by
  rcases site.registerEncoding_cases c id encoding with ⟨code, hregister⟩ | ⟨k, hk, hregister⟩
  · rw [hregister]
  · rw [hregister]
    refine Census.ext rfl ?_ rfl
    show (site.state.contexts.insert c _).image ContextState.peers = _
    rw [Table.image_insert]
    refine Table.insert_of_get? ?_
    rw [Table.get?_image, hk, Option.map_some]

/-- Unlinking is not seen by the census. -/
theorem census_unlink (slot : Slot) :
    (site.unlink h slot).2.state.census = site.state.census := by
  rcases site.unlink_cases h slot with ⟨code, hunlink⟩ | ⟨q, machine, hq, hunlink⟩
  · rw [hunlink]
  · rw [hunlink]
    exact census_setPeer hq machine rfl

/-- Reading is not seen by the census. -/
theorem census_read (length : Nat) :
    (site.read h length).2.state.census = site.state.census := by
  rcases site.read_cases h length with ⟨code, hread⟩ | ⟨q, p, machine, pacer, hq, -, -, hread⟩
  · rw [hread]
  · rw [hread]
    exact census_setPeer hq machine rfl

/-- Writing is not seen by the census. -/
theorem census_write (frame : Frame) :
    (site.write h frame).2.state.census = site.state.census := by
  rcases site.write_cases h frame with
    ⟨code, hwrite⟩ | ⟨q, fec, stream, p, machine, pacer, hq, -, -, hwrite⟩
  · rw [hwrite]
  · rw [hwrite]
    exact census_setPeer hq machine rfl

/-- Taking what waits is not seen by the census. -/
theorem census_settle : (site.settle h).state.census = site.state.census := by
  rcases site.settle_cases h with ⟨hsettle, -⟩ | ⟨q, machine, hq, hsettle⟩
  · rw [hsettle]
  · rw [hsettle]
    exact census_setPeer hq machine rfl

/-! ### Requests that open or close -/

/-- Opening a context gives the next handle to a context without peers. -/
theorem census_openContext (config : ContextConfig) :
    (∃ code, site.openContext config = (.error code, site)) ∨
      (site.openContext config).1 = .ok ⟨site.state.nextId⟩ ∧
        (site.openContext config).2.state.census = { site.state.census with
          nextId := site.state.nextId + 1
          contexts := site.state.census.contexts.insert ⟨site.state.nextId⟩ 0 } := by
  rcases site.openContext_cases config with hrefused | hopen
  · exact .inl hrefused
  · rw [hopen]
    exact .inr ⟨rfl, Census.ext rfl (Table.image_insert _ _ _ _) rfl⟩

/-- A context goes if the engine keeps no peers for it. -/
theorem census_closeContext (c : ContextHandle) :
    ((∃ code, site.closeContext c = (.error code, site)) ∧
        site.state.census.contexts.get? c ≠ some 0) ∨
      site.state.census.contexts.get? c = some 0 ∧ (site.closeContext c).1 = .ok () ∧
        (site.closeContext c).2.state.census = { site.state.census with
          contexts := site.state.census.contexts.erase c } := by
  rw [State.get?_contexts_census]
  rcases site.closeContext_cases c with ⟨hrefused, hbusy⟩ | ⟨k, hk, hfree, hclose⟩
  · refine .inl ⟨hrefused, fun hzero => ?_⟩
    obtain ⟨k, hk, hfree⟩ := Option.map_eq_some_iff.mp hzero
    exact hbusy k hk hfree
  · rw [hclose]
    refine .inr ⟨?_, rfl, Census.ext rfl (Table.image_erase _ _ _) rfl⟩
    rw [hk, Option.map_some, hfree]

/-- Opening a peer gives the next handle, and its context counts one peer more. -/
theorem census_openPeer (c : ContextHandle) (config : PeerConfig) :
    (∃ code, site.openPeer c config = (.error code, site)) ∨
      ∃ n, site.state.census.contexts.get? c = some n ∧
        (site.openPeer c config).1 = .ok ⟨site.state.nextId⟩ ∧
        (site.openPeer c config).2.state.census = {
          nextId := site.state.nextId + 1
          contexts := site.state.census.contexts.insert c (n + 1)
          peers := site.state.census.peers.insert ⟨site.state.nextId⟩ c } := by
  rcases site.openPeer_spec c config with
    ⟨code, hanswer, hsame⟩ | ⟨k, q, hk, hopened, hanswer, hstate⟩
  · exact .inl ⟨code, Prod.ext hanswer hsame⟩
  · refine .inr ⟨k.peers, ?_, hanswer, ?_⟩
    · rw [State.get?_contexts_census, hk, Option.map_some]
    · rw [hstate, ← hopened.context]
      exact Census.ext rfl (Table.image_insert _ _ _ _) (Table.image_insert _ _ _ _)

/-- Closing a peer takes it away, and its context counts one peer less. -/
theorem census_closePeer (h : PeerHandle) :
    (∃ code, site.closePeer h = (.error code, site)) ∧ site.state.census.peers.get? h = none ∨
      ∃ c, site.state.census.peers.get? h = some c ∧ (site.closePeer h).1 = .ok () ∧
        (site.closePeer h).2.state.census = { site.state.census with
          contexts := site.state.census.contexts.modify c (· - 1)
          peers := site.state.census.peers.erase h } := by
  rw [State.get?_peers_census]
  rcases site.closePeer_cases h with ⟨hrefused, hnone⟩ | ⟨q, machine, hq, hclose⟩
  · exact .inl ⟨hrefused, Option.map_eq_none_iff.mpr hnone⟩
  · rw [hclose]
    refine .inr ⟨q.context, ?_, rfl, Census.ext rfl ?_ (Table.image_erase _ _ _)⟩
    · rw [hq, Option.map_some]
    · show (site.state.contexts.modify _ _).image ContextState.peers =
        (site.state.contexts.image ContextState.peers).modify _ _
      rw [Table.modify, Table.modify, Table.get?_image]
      cases site.state.contexts.get? q.context with
      | none => rfl
      | some k => exact Table.image_insert _ _ _ _

end Site

/-! ## What a call does to a census -/

/-- A call that leaves one census in place of another. -/
inductive Census.Step (c c' : Census) (e : Nat) : Exchange Nat → Prop
  | still {x : Exchange Nat} (hvoid : x.IsVoid) (hsame : c' = c) : Step c c' e x
  | contextOpened (config : ContextConfig)
      (hcensus : c' = { c with
        nextId := c.nextId + 1, contexts := c.contexts.insert ⟨c.nextId⟩ 0 }) :
      Step c c' e ⟨e, .contextOpen config, .ok ⟨c.nextId⟩⟩
  | contextClosed (h : ContextHandle) (hfree : c.contexts.get? h = some 0)
      (hcensus : c' = { c with contexts := c.contexts.erase h }) :
      Step c c' e ⟨e, .contextClose h, .ok ()⟩
  | peerOpened (h : ContextHandle) (n : Nat) (config : PeerConfig)
      (hn : c.contexts.get? h = some n)
      (hcensus : c' = {
        nextId := c.nextId + 1
        contexts := c.contexts.insert h (n + 1)
        peers := c.peers.insert ⟨c.nextId⟩ h }) :
      Step c c' e ⟨e, .peerOpen h config, .ok ⟨c.nextId⟩⟩
  | peerClosed (h : PeerHandle) (owner : ContextHandle) (howner : c.peers.get? h = some owner)
      (hcensus : c' = { c with
        contexts := c.contexts.modify owner (· - 1), peers := c.peers.erase h }) :
      Step c c' e ⟨e, .peerClose h, .ok ()⟩

/-- A request that is refused changes nothing. -/
theorem Census.Step.of_refused {site site' : Site} {e : Nat} {r : Request}
    {answer : Answer r.Response} {code : EngineCode}
    (hrefused : (answer, site') = (.error code, site)) :
    Census.Step site.state.census site'.state.census e ⟨e, r, answer⟩ := by
  obtain ⟨rfl, rfl⟩ := Prod.mk.inj hrefused
  exact .still Exchange.isVoid_of_error rfl

/-- Every request to an engine is a step of its census. -/
theorem census_engine (e : Nat) (r : Request) (site : Site) :
    Census.Step site.state.census (engine r site).2.state.census e ⟨e, r, (engine r site).1⟩ := by
  cases r with
  | contextOpen config =>
    rcases site.census_openContext config with ⟨code, hrefused⟩ | ⟨hanswer, hcensus⟩
    · exact .of_refused hrefused
    · rw [show (engine (.contextOpen config) site).1 = .ok ⟨site.state.nextId⟩ from hanswer]
      exact .contextOpened config hcensus
  | contextClose c =>
    rcases site.census_closeContext c with ⟨⟨code, hrefused⟩, -⟩ | ⟨hfree, hanswer, hcensus⟩
    · exact .of_refused hrefused
    · rw [show (engine (.contextClose c) site).1 = .ok () from hanswer]
      exact .contextClosed c hfree hcensus
  | peerOpen c config =>
    rcases site.census_openPeer c config with ⟨code, hrefused⟩ | ⟨n, hn, hanswer, hcensus⟩
    · exact .of_refused hrefused
    · rw [show (engine (.peerOpen c config) site).1 = .ok ⟨site.state.nextId⟩ from hanswer]
      exact .peerOpened c n config hn hcensus
  | peerClose h =>
    rcases site.census_closePeer h with ⟨⟨code, hrefused⟩, -⟩ | ⟨c, howner, hanswer, hcensus⟩
    · exact .of_refused hrefused
    · rw [show (engine (.peerClose h) site).1 = .ok () from hanswer]
      exact .peerClosed h c howner hcensus
  -- The rest opens and closes nothing.
  | registerEncoding c id encoding =>
    exact .still (Exchange.isVoid_of_call rfl) (site.census_registerEncoding c id encoding)
  | configure h slot i config =>
    exact .still (Exchange.isVoid_of_call rfl) (site.setsSlot_configure h slot i config).census
  | bind h slot i endpoint =>
    exact .still (Exchange.isVoid_of_call rfl) (site.setsSlot_bind h slot i endpoint).census
  | connect h slot i endpoint =>
    exact .still (Exchange.isVoid_of_call rfl) (site.setsSlot_connect h slot i endpoint).census
  | unlink h slot => exact .still (Exchange.isVoid_of_call rfl) (site.census_unlink slot)
  | read h length => exact .still (Exchange.isVoid_of_call rfl) (site.census_read length)
  | write h frame => exact .still (Exchange.isVoid_of_call rfl) (site.census_write frame)

namespace Census.Step

variable {c c' : Census} {e : Nat}

/-- What opens and closes nothing leaves the census. -/
theorem of_isVoid {x : Exchange Nat} (hstep : Census.Step c c' e x) (hvoid : x.IsVoid) :
    c' = c := by
  cases hstep with
  | still _ hsame => exact hsame
  | contextOpened => exact absurd (hvoid .contextOpen rfl) nofun
  | contextClosed => exact absurd (hvoid .contextClose rfl) nofun
  | peerOpened => exact absurd (hvoid .peerOpen rfl) nofun
  | peerClosed => exact absurd (hvoid .peerClose rfl) nofun

/-- What a successful opening of a context does to the census, read from the step. -/
theorem of_contextOpened {config : ContextConfig} {h : ContextHandle}
    (hstep : Census.Step c c' e ⟨e, .contextOpen config, .ok h⟩) :
    h = ⟨c.nextId⟩ ∧
      c' = { c with nextId := c.nextId + 1, contexts := c.contexts.insert ⟨c.nextId⟩ 0 } := by
  cases hstep with
  | still hvoid => exact absurd (hvoid .contextOpen rfl) nofun
  | contextOpened _ hcensus => exact ⟨rfl, hcensus⟩

/-- What a successful closing of a context does. -/
theorem of_contextClosed {h : ContextHandle}
    (hstep : Census.Step c c' e ⟨e, .contextClose h, .ok ()⟩) :
    c' = { c with contexts := c.contexts.erase h } := by
  cases hstep with
  | still hvoid => exact absurd (hvoid .contextClose rfl) nofun
  | contextClosed _ _ hcensus => exact hcensus

/-- What a successful opening of a peer does; its context is there. -/
theorem of_peerOpened {h : ContextHandle} {config : PeerConfig} {peer : PeerHandle}
    (hstep : Census.Step c c' e ⟨e, .peerOpen h config, .ok peer⟩) :
    peer = ⟨c.nextId⟩ ∧ ∃ n, c.contexts.get? h = some n ∧ c' = {
      nextId := c.nextId + 1
      contexts := c.contexts.insert h (n + 1)
      peers := c.peers.insert ⟨c.nextId⟩ h } := by
  cases hstep with
  | still hvoid => exact absurd (hvoid .peerOpen rfl) nofun
  | peerOpened _ n _ hn hcensus => exact ⟨rfl, n, hn, hcensus⟩

/-- What a successful closing of a peer does; it was there. -/
theorem of_peerClosed {h : PeerHandle} (hstep : Census.Step c c' e ⟨e, .peerClose h, .ok ()⟩) :
    ∃ owner, c.peers.get? h = some owner ∧ c' = { c with
      contexts := c.contexts.modify owner (· - 1), peers := c.peers.erase h } := by
  cases hstep with
  | still hvoid => exact absurd (hvoid .peerClose rfl) nofun
  | peerClosed _ owner howner hcensus => exact ⟨owner, howner, hcensus⟩

end Census.Step

/-! ## Consistent censuses -/

/-- A census of an engine that has given so many handles. -/
structure Census.Consistent (given : Nat) (c : Census) : Prop where
  nextId : c.nextId = UInt64.ofNat (given + 1)
  contextIssued : ∀ h, c.contexts.get? h ≠ none → rank h ≤ given
  peerIssued : ∀ h, c.peers.get? h ≠ none → rank h ≤ given
  /-- The number that is kept for a context is that of its peers. -/
  attached : ∀ h n, c.contexts.get? h = some n → n = c.peers.count fun owner => owner = h
  owner : ∀ h owner, c.peers.get? h = some owner → c.contexts.get? owner ≠ none

namespace Census.Consistent

variable {given : Nat} {c c' : Census}

/-- The next handle is above all that were given, as long as the words last. -/
theorem rank_nextId (hc : c.Consistent given) (hroom : given + 1 < UInt64.size) :
    c.nextId.toNat = given + 1 := by
  rw [hc.nextId, UInt64.toNat_ofNat_of_lt' hroom]

/-- The next handle is not in use. -/
theorem fresh (hc : c.Consistent given) (hroom : given + 1 < UInt64.size) :
    c.contexts.get? ⟨c.nextId⟩ = none ∧ c.peers.get? ⟨c.nextId⟩ = none := by
  have hrank := hc.rank_nextId hroom
  constructor
  · refine Classical.byContradiction fun hused => ?_
    have hle : c.nextId.toNat ≤ given := hc.contextIssued _ hused
    omega
  · refine Classical.byContradiction fun hused => ?_
    have hle : c.nextId.toNat ≤ given := hc.peerIssued _ hused
    omega

/-- A context without peers is the context of no peer. -/
theorem owner_ne_of_free (hc : c.Consistent given) {h : ContextHandle}
    (hfree : c.contexts.get? h = some 0) {peer : PeerHandle} : c.peers.get? peer ≠ some h := by
  intro hpeer
  have hpos := Table.count_pos_of_get? (p := fun owner => decide (owner = h)) hpeer
    (decide_eq_true rfl)
  rw [← hc.attached h 0 hfree] at hpos
  exact Nat.lt_irrefl 0 hpos

/-- Opening a context keeps the census consistent. -/
theorem contextOpened (hc : c.Consistent given) (hroom : given + 1 < UInt64.size) :
    Consistent (given + 1) { c with
      nextId := c.nextId + 1, contexts := c.contexts.insert ⟨c.nextId⟩ 0 } where
  nextId := by
    rw [hc.nextId, UInt64.ofNat_add (given + 1) 1]
    rfl
  contextIssued h hused := by
    obtain ⟨n, hn⟩ := Option.ne_none_iff_exists'.mp hused
    rcases Table.get?_insert_cases hn with ⟨rfl, -⟩ | ⟨-, hn⟩
    · exact Nat.le_of_eq (hc.rank_nextId hroom)
    · exact Nat.le_succ_of_le (hc.contextIssued h (hn ▸ nofun))
  peerIssued h hused := Nat.le_succ_of_le (hc.peerIssued h hused)
  attached h n hn := by
    rcases Table.get?_insert_cases hn with ⟨rfl, rfl⟩ | ⟨-, hn⟩
    · refine (Table.count_eq_zero fun peer owner hpeer => decide_eq_false fun howner => ?_).symm
      exact hc.owner peer owner hpeer (howner ▸ (hc.fresh hroom).1)
    · exact hc.attached h n hn
  owner h owner hpeer := Table.get?_insert_ne_none (hc.owner h owner hpeer) _ _

/-- Closing a context that has no peers keeps the census consistent. -/
theorem contextClosed (hc : c.Consistent given) {h : ContextHandle}
    (hfree : c.contexts.get? h = some 0) :
    Consistent given { c with contexts := c.contexts.erase h } where
  nextId := hc.nextId
  contextIssued other hused := by
    obtain ⟨n, hn⟩ := Option.ne_none_iff_exists'.mp hused
    exact hc.contextIssued other ((Table.get?_of_get?_erase hn).2 ▸ nofun)
  peerIssued := hc.peerIssued
  attached other n hn := hc.attached other n (Table.get?_of_get?_erase hn).2
  owner peer owner hpeer := by
    have hother : owner ≠ h := by
      rintro rfl
      exact hc.owner_ne_of_free hfree hpeer
    rw [Table.get?_erase_of_ne _ hother]
    exact hc.owner peer owner hpeer

/-- Opening a peer keeps the census consistent. -/
theorem peerOpened (hc : c.Consistent given) (hroom : given + 1 < UInt64.size)
    {h : ContextHandle} {n : Nat} (hn : c.contexts.get? h = some n) :
    Consistent (given + 1) {
      nextId := c.nextId + 1
      contexts := c.contexts.insert h (n + 1)
      peers := c.peers.insert ⟨c.nextId⟩ h } where
  nextId := by
    rw [hc.nextId, UInt64.ofNat_add (given + 1) 1]
    rfl
  contextIssued other hused := by
    obtain ⟨k, hk⟩ := Option.ne_none_iff_exists'.mp hused
    rcases Table.get?_insert_cases hk with ⟨rfl, -⟩ | ⟨-, hk⟩
    · exact Nat.le_succ_of_le (hc.contextIssued other (hn ▸ nofun))
    · exact Nat.le_succ_of_le (hc.contextIssued other (hk ▸ nofun))
  peerIssued peer hused := by
    obtain ⟨owner, howner⟩ := Option.ne_none_iff_exists'.mp hused
    rcases Table.get?_insert_cases howner with ⟨rfl, -⟩ | ⟨-, howner⟩
    · exact Nat.le_of_eq (hc.rank_nextId hroom)
    · exact Nat.le_succ_of_le (hc.peerIssued peer (howner ▸ nofun))
  attached other k hk := by
    -- The new peer counts for its own context only.
    rw [Table.count_insert_of_none (hc.fresh hroom).2]
    rcases Table.get?_insert_cases hk with ⟨rfl, rfl⟩ | ⟨hother, hk⟩
    · rw [if_pos (decide_eq_true rfl), ← hc.attached other n hn]
    · have hne : ¬ decide (h = other) = true := fun heq => hother (of_decide_eq_true heq).symm
      rw [if_neg hne, Nat.add_zero]
      exact hc.attached other k hk
  owner peer owner hpeer := by
    refine Table.get?_insert_ne_none ?_ _ _
    rcases Table.get?_insert_cases hpeer with ⟨-, rfl⟩ | ⟨-, hpeer⟩
    · rw [hn]
      nofun
    · exact hc.owner peer owner hpeer

/-- The number of peers of the context of a peer that closes goes down by one. -/
theorem modify_owner (hc : c.Consistent given) {h : PeerHandle} {owner : ContextHandle}
    (howner : c.peers.get? h = some owner) :
    ∃ n, c.contexts.get? owner = some (n + 1) ∧
      c.contexts.modify owner (· - 1) = c.contexts.insert owner n := by
  obtain ⟨k, hk⟩ := Option.ne_none_iff_exists'.mp (hc.owner h owner howner)
  have hpos := Table.count_pos_of_get? (p := fun other => decide (other = owner)) howner
    (decide_eq_true rfl)
  rw [← hc.attached owner k hk] at hpos
  refine ⟨k - 1, ?_, ?_⟩
  · rw [hk, Nat.sub_add_cancel hpos]
  · rw [Table.modify, hk]

/-- Closing a peer keeps the census consistent. -/
theorem peerClosed (hc : c.Consistent given) {h : PeerHandle} {owner : ContextHandle}
    (howner : c.peers.get? h = some owner) :
    Consistent given { c with
      contexts := c.contexts.modify owner (· - 1), peers := c.peers.erase h } := by
  obtain ⟨n, hn, hmodify⟩ := hc.modify_owner howner
  have hcount (f : ContextHandle → Bool) := Table.count_erase_of_some howner f
  rw [hmodify]
  refine ⟨hc.nextId, fun other hused => ?_, fun peer hused => ?_, fun other k hk => ?_,
    fun peer other hpeer => ?_⟩
  · obtain ⟨k, hk⟩ := Option.ne_none_iff_exists'.mp hused
    rcases Table.get?_insert_cases hk with ⟨rfl, -⟩ | ⟨-, hk⟩
    · exact hc.contextIssued other (hn ▸ nofun)
    · exact hc.contextIssued other (hk ▸ nofun)
  · obtain ⟨other, hother⟩ := Option.ne_none_iff_exists'.mp hused
    exact hc.peerIssued peer ((Table.get?_of_get?_erase hother).2 ▸ nofun)
  · have hcount := hcount fun owner => owner = other
    rcases Table.get?_insert_cases hk with ⟨rfl, rfl⟩ | ⟨hother, hk⟩
    · rw [if_pos (decide_eq_true rfl), ← hc.attached other (n + 1) hn] at hcount
      exact (Nat.succ.inj hcount).symm
    · rw [if_neg fun heq => hother (of_decide_eq_true heq).symm] at hcount
      exact (hc.attached other k hk).trans hcount.symm
  · exact Table.get?_insert_ne_none (hc.owner peer other (Table.get?_of_get?_erase hpeer).2) _ _

/-- A census stays consistent, as long as the counter of handles does not come round. -/
theorem step (hc : c.Consistent given) {e : Nat} {x : Exchange Nat} (hstep : Census.Step c c' e x)
    (hroom : given + x.gives.toNat < UInt64.size) :
    c'.Consistent (given + x.gives.toNat) := by
  cases hstep with
  | still hvoid hsame =>
    rw [hvoid.gives, hsame]
    exact hc
  | contextOpened config hcensus =>
    rw [hcensus]
    exact hc.contextOpened hroom
  | contextClosed h hfree hcensus =>
    rw [hcensus]
    exact hc.contextClosed hfree
  | peerOpened h n config hn hcensus =>
    rw [hcensus]
    exact hc.peerOpened hroom hn
  | peerClosed h owner howner hcensus =>
    rw [hcensus]
    exact hc.peerClosed howner

end Census.Consistent

/-! ## Fleets -/

namespace Fleet

/-- The census of an engine of a fleet. -/
def census (fleet : Fleet) (n : Nat) : Census := (fleet.state n).census

/-- A request to a fleet is a step of the engine it goes to. -/
theorem census_step (e : Nat) (r : Request) (fleet : Fleet) :
    Census.Step (fleet.census e) ((Fleet.engine e r fleet).2.census e) e
      ⟨e, r, (Fleet.engine e r fleet).1⟩ := by
  rw [census, census, state_engine_self]
  exact census_engine e r (fleet.site e)

/-- A request to a fleet leaves the other engines. -/
theorem census_of_ne {e n : Nat} (r : Request) (fleet : Fleet) (hn : n ≠ e) :
    (Fleet.engine e r fleet).2.census n = fleet.census n := by
  rw [census, state_engine_of_ne r fleet hn, census]

/-- A context without peers can be closed. -/
theorem contextClose_of_free {e : Nat} {fleet : Fleet} {h : ContextHandle}
    (hfree : (fleet.census e).contexts.get? h = some 0) :
    (Fleet.engine e (.contextClose h) fleet).1 = .ok () := by
  rcases (fleet.site e).census_closeContext h with ⟨-, hbusy⟩ | ⟨-, hok, -⟩
  · exact absurd hfree hbusy
  · exact hok

/-- A peer can be closed. -/
theorem peerClose_of_get? {e : Nat} {fleet : Fleet} {h : PeerHandle} {owner : ContextHandle}
    (howner : (fleet.census e).peers.get? h = some owner) :
    (Fleet.engine e (.peerClose h) fleet).1 = .ok () := by
  rcases (fleet.site e).census_closePeer h with ⟨-, hnone⟩ | ⟨-, -, hok, -⟩
  · exact absurd (howner.symm.trans hnone) nofun
  · exact hok

theorem census_foldl_settle (site : Site) (handles : List PeerHandle) :
    (handles.foldl Site.settle site).state.census = site.state.census := by
  induction handles generalizing site with
  | nil => rfl
  | cons h handles ih =>
    rw [List.foldl_cons, ih]
    exact site.census_settle

/-- The census of no engine changes when what was sent is taken. -/
theorem census_settle (fleet : Fleet) (n : Nat) : fleet.settle.census n = fleet.census n := by
  unfold settle
  generalize fleet.engines.keys = numbers
  induction numbers generalizing fleet with
  | nil => rfl
  | cons first numbers ih =>
    rw [List.foldl_cons, ih]
    by_cases hfirst : n = first
    · subst hfirst
      rw [census, state_setSite_self]
      exact census_foldl_settle (fleet.site n) _
    · rw [census, state_setSite_of_ne _ fleet hfirst, census]

end Fleet

end AudioLink.Loopback
