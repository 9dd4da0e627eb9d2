import AudioLink.Proofs.Loopback.Census
import AudioLink.Proofs.Loopback.History
import Mathlib.Data.List.Nodup

/-
Handles that come and go.

An observer writes down every handle that is given and every handle that is taken back, as he reads
them off the answers of an engine. The handles are numbered in the order in which they are given,
whatever they are given to, so that no number comes twice. The tables of the engine hold exactly the
handles that have been given and not been taken back, and a call on any other handle finds nothing
and changes nothing.

What is proved of one call is that the tables go on to agree with what is written down; it starts
from the five kinds of step that a census takes.
-/
set_option autoImplicit false

namespace AudioLink

/-! ## Handles -/

/-- A handle of either kind. -/
inductive Handle where
  | context (h : ContextHandle)
  | peer (h : PeerHandle)
  deriving DecidableEq

namespace Handle

/-- The number of a handle. -/
def number : Handle → Nat
  | context h => rank h
  | peer h => rank h

/-- The handle of the other kind with the same number. -/
def twin : Handle → Handle
  | context h => peer ⟨h.raw⟩
  | peer h => context ⟨h.raw⟩

theorem number_twin (x : Handle) : x.twin.number = x.number := by
  cases x with
  | context h => rfl
  | peer h => rfl

theorem twin_ne (x : Handle) : x.twin ≠ x := by
  cases x with
  | context h => nofun
  | peer h => nofun

end Handle

/-- A handle that has been given, to a context or to a peer of a context. -/
inductive Opening where
  | context (h : ContextHandle)
  | peer (h : PeerHandle) (owner : ContextHandle)
  deriving DecidableEq

/-- The handle that has been given. -/
def Opening.handle : Opening → Handle
  | context h => .context h
  | peer h _ => .peer h

namespace Request

/-- The handle that a request is about. -/
def handle? : Request → Option Handle
  | contextOpen _ => none
  | registerEncoding c _ _ | contextClose c | peerOpen c _ => some (.context c)
  | configure p _ _ _ | bind p _ _ _ | connect p _ _ _ | unlink p _ | peerClose p | read p _
  | write p _ => some (.peer p)

/-- The handle that an answer gives. -/
def gives : (r : Request) → Answer r.Response → List Opening
  | contextOpen _, .ok h => [.context h]
  | peerOpen owner _, .ok h => [.peer h owner]
  | _, _ => []

/-- The handle that is taken back if this is the answer. -/
def takes : (r : Request) → Answer r.Response → List Handle
  | contextClose h, .ok _ => [.context h]
  | peerClose h, .ok _ => [.peer h]
  | _, _ => []

/-- What opens and closes nothing gives no handle and takes none. -/
theorem gives_takes_of_isVoid {e : Nat} {r : Request} {answer : Answer r.Response}
    (hvoid : Exchange.IsVoid ⟨e, r, answer⟩) : r.gives answer = [] ∧ r.takes answer = [] := by
  cases answer with
  | error code => cases r <;> exact ⟨rfl, rfl⟩
  | ok a =>
    cases r with
    | contextOpen config => exact absurd (hvoid .contextOpen rfl) nofun
    | contextClose h => exact absurd (hvoid .contextClose rfl) nofun
    | peerOpen owner config => exact absurd (hvoid .peerOpen rfl) nofun
    | peerClose h => exact absurd (hvoid .peerClose rfl) nofun
    | _ => exact ⟨rfl, rfl⟩

end Request

namespace Loopback

/-! ## What is written down -/

/-- The handle that is given, if this is what happens. -/
def Site.givenBy (site : Site) : Happening → List Opening
  | .request r => r.gives (engine r site).1
  | .machine _ | .settle _ => []

/-- The handle that is taken back, if this is what happens. -/
def Site.takenBy (site : Site) : Happening → List Handle
  | .request r => r.takes (engine r site).1
  | .machine _ | .settle _ => []

/-- The handles that are given in a run, in order. -/
def given : List Happening → Site → List Opening
  | [], _ => []
  | e :: events, site => site.givenBy e ++ given events (site.after e)

/-- The handles that are taken back in a run, in order. -/
def taken : List Happening → Site → List Handle
  | [], _ => []
  | e :: events, site => site.takenBy e ++ taken events (site.after e)

/-- What is taken in a longer run is taken in its two parts. -/
theorem taken_append (events more : List Happening) (site : Site) :
    taken (events ++ more) site = taken events site ++ taken more (site.afterAll events) := by
  induction events generalizing site with
  | nil => rfl
  | cons e events ih =>
    rw [List.cons_append, taken, taken, ih, List.append_assoc]
    rfl

/-! ## Tables that agree with it -/

/-- A census that agrees with what is written down. -/
structure Census.Records (c : Census) (given : List Opening) (taken : List Handle) : Prop where
  consistent : c.Consistent given.length
  /-- The handles are numbered from one on. -/
  numbers : given.map (fun x => x.handle.number) = List.range' 1 given.length
  context_iff : ∀ h, c.contexts.get? h ≠ none ↔ .context h ∈ given ∧ .context h ∉ taken
  peer_iff : ∀ h owner, c.peers.get? h = some owner ↔ .peer h owner ∈ given ∧ .peer h ∉ taken
  taken_given : ∀ x ∈ taken, x ∈ given.map Opening.handle

namespace Census.Records

variable {c c' : Census} {given : List Opening} {taken : List Handle}

/-- No handle has a number above the count of those given. -/
theorem number_le (hc : c.Records given taken) {x : Opening} (hx : x ∈ given) :
    x.handle.number ≤ given.length := by
  have hmem : x.handle.number ∈ List.range' 1 given.length := by
    rw [← hc.numbers]
    exact List.mem_map_of_mem hx
  have := (List.mem_range'_1.mp hmem).2
  omega

/-- A handle with a number that has not been reached cannot have been taken back. -/
theorem not_mem_taken (hc : c.Records given taken) {x : Handle} (hx : given.length < x.number) :
    x ∉ taken := by
  intro hmem
  obtain ⟨y, hy, rfl⟩ := List.mem_map.mp (hc.taken_given x hmem)
  exact absurd (hc.number_le hy) (Nat.not_le.mpr hx)

theorem taken_given_concat (hc : c.Records given taken) {x : Opening} (hx : x ∈ given) :
    ∀ y ∈ taken ++ [x.handle], y ∈ given.map Opening.handle := by
  intro y hy
  rcases List.mem_append.mp hy with hy | hy
  · exact hc.taken_given y hy
  · rw [List.mem_singleton.mp hy]
    exact List.mem_map_of_mem hx

/-- No two handles have one number. -/
theorem eq_of_number (hc : c.Records given taken) {x y : Opening} (hx : x ∈ given) (hy : y ∈ given)
    (hnumber : x.handle.number = y.handle.number) : x = y := by
  have hnodup : (given.map fun x => x.handle.number).Nodup := by
    rw [hc.numbers]
    exact List.nodup_range'
  exact List.inj_on_of_nodup_map hnodup hx hy hnumber

/-- The next handle has the next number. -/
theorem numbers_concat (hc : c.Records given taken) {x : Opening}
    (hx : x.handle.number = given.length + 1) :
    (given ++ [x]).map (fun x => x.handle.number) = List.range' 1 (given ++ [x]).length := by
  rw [List.map_append, hc.numbers, List.length_append, List.length_singleton, List.range'_concat,
    List.map_singleton, hx, Nat.one_mul, Nat.add_comm 1]

theorem still (hc : c.Records given taken) (hsame : c' = c) : c'.Records given taken := hsame ▸ hc

/-- The records go on when a context is opened: its handle is the next. -/
theorem contextOpened (hc : c.Records given taken) (hroom : given.length + 1 < UInt64.size) :
    Records { c with nextId := c.nextId + 1, contexts := c.contexts.insert ⟨c.nextId⟩ 0 }
      (given ++ [.context ⟨c.nextId⟩]) taken := by
  have hnumber : (Handle.context ⟨c.nextId⟩).number = given.length + 1 :=
    hc.consistent.rank_nextId hroom
  have hnew : Handle.context ⟨c.nextId⟩ ∉ taken := hc.not_mem_taken (by omega)
  refine ⟨?_, hc.numbers_concat hnumber, fun h => ?_, fun h owner => ?_, fun x hx => ?_⟩
  · rw [List.length_append]
    exact hc.consistent.contextOpened hroom
  · dsimp only
    rw [Table.get?_insert, List.mem_append, List.mem_singleton]
    by_cases hh : h = ⟨c.nextId⟩
    · subst hh
      rw [if_pos rfl]
      exact ⟨fun _ => ⟨.inr rfl, hnew⟩, fun _ => nofun⟩
    · have hne : Opening.context h ≠ .context ⟨c.nextId⟩ := fun heq => hh (Opening.context.inj heq)
      rw [if_neg hh, hc.context_iff h, or_iff_left hne]
  · have hne : Opening.peer h owner ≠ .context ⟨c.nextId⟩ := nofun
    rw [hc.peer_iff h owner, List.mem_append, List.mem_singleton, or_iff_left hne]
  · rw [List.map_append]
    exact List.mem_append_left _ (hc.taken_given x hx)

/-- The records go on when a context is closed: its handle is taken. -/
theorem contextClosed (hc : c.Records given taken) {h : ContextHandle}
    (hfree : c.contexts.get? h = some 0) :
    Records { c with contexts := c.contexts.erase h } given (taken ++ [.context h]) := by
  have hopen : Opening.context h ∈ given := ((hc.context_iff h).mp (hfree ▸ nofun)).1
  refine ⟨hc.consistent.contextClosed hfree, hc.numbers, fun other => ?_, fun peer owner => ?_,
    hc.taken_given_concat hopen⟩
  · dsimp only
    rw [Table.get?_erase, List.mem_append, List.mem_singleton, Handle.context.injEq]
    by_cases hother : other = h
    · rw [if_pos hother]
      exact ⟨fun hnone => absurd rfl hnone, fun htaken => absurd (.inr hother) htaken.2⟩
    · rw [if_neg hother, hc.context_iff other, or_iff_left hother]
  · have hne : Handle.peer peer ≠ .context h := nofun
    rw [hc.peer_iff peer owner, List.mem_append, List.mem_singleton, or_iff_left hne]

/-- The records go on when a peer is opened: its handle is the next. -/
theorem peerOpened (hc : c.Records given taken) (hroom : given.length + 1 < UInt64.size)
    {h : ContextHandle} {n : Nat} (hn : c.contexts.get? h = some n) :
    Records {
        nextId := c.nextId + 1
        contexts := c.contexts.insert h (n + 1)
        peers := c.peers.insert ⟨c.nextId⟩ h }
      (given ++ [.peer ⟨c.nextId⟩ h]) taken := by
  have hnumber : (Handle.peer ⟨c.nextId⟩).number = given.length + 1 :=
    hc.consistent.rank_nextId hroom
  have hnew : Handle.peer ⟨c.nextId⟩ ∉ taken := hc.not_mem_taken (by omega)
  -- Nor has the handle been given to a peer of any context.
  have hunused (owner : ContextHandle) : Opening.peer ⟨c.nextId⟩ owner ∉ given := fun hmem => by
    have hle : (Handle.peer ⟨c.nextId⟩).number ≤ given.length := hc.number_le hmem
    omega
  refine ⟨?_, hc.numbers_concat hnumber, fun other => ?_, fun peer owner => ?_, fun x hx => ?_⟩
  · rw [List.length_append]
    exact hc.consistent.peerOpened hroom hn
  · have hne : Opening.context other ≠ .peer ⟨c.nextId⟩ h := nofun
    rw [List.mem_append, List.mem_singleton, or_iff_left hne, ← hc.context_iff other]
    dsimp only
    rw [Table.get?_insert]
    by_cases hother : other = h
    · -- The context was there before, with another number of peers.
      rw [if_pos hother, hother, hn]
      exact ⟨fun _ => nofun, fun _ => nofun⟩
    · rw [if_neg hother]
  · dsimp only
    rw [Table.get?_insert, List.mem_append, List.mem_singleton]
    by_cases hpeer : peer = ⟨c.nextId⟩
    · subst hpeer
      rw [if_pos rfl, or_iff_right (hunused owner), Option.some.injEq, Opening.peer.injEq]
      exact ⟨fun howner => ⟨⟨rfl, howner.symm⟩, hnew⟩, fun howner => howner.1.2.symm⟩
    · have hne : Opening.peer peer owner ≠ .peer ⟨c.nextId⟩ h :=
        fun heq => hpeer (Opening.peer.inj heq).1
      rw [if_neg hpeer, hc.peer_iff peer owner, or_iff_left hne]
  · rw [List.map_append]
    exact List.mem_append_left _ (hc.taken_given x hx)

/-- The records go on when a peer is closed: its handle is taken. -/
theorem peerClosed (hc : c.Records given taken) {h : PeerHandle} {owner : ContextHandle}
    (howner : c.peers.get? h = some owner) :
    Records { c with contexts := c.contexts.modify owner (· - 1), peers := c.peers.erase h }
      given (taken ++ [.peer h]) := by
  obtain ⟨n, hn, hmodify⟩ := hc.consistent.modify_owner howner
  have hopen : Opening.peer h owner ∈ given := ((hc.peer_iff h owner).mp howner).1
  refine ⟨hc.consistent.peerClosed howner, hc.numbers, fun other => ?_, fun peer other => ?_,
    hc.taken_given_concat hopen⟩
  · have hne : Handle.context other ≠ .peer h := nofun
    rw [List.mem_append, List.mem_singleton, or_iff_left hne, ← hc.context_iff other]
    dsimp only
    rw [hmodify, Table.get?_insert]
    by_cases hother : other = owner
    · -- The context stays, with one peer less.
      rw [if_pos hother, hother, hn]
      exact ⟨fun _ => nofun, fun _ => nofun⟩
    · rw [if_neg hother]
  · dsimp only
    rw [Table.get?_erase, List.mem_append, List.mem_singleton, Handle.peer.injEq]
    by_cases hpeer : peer = h
    · rw [if_pos hpeer]
      exact ⟨fun hnone => absurd hnone nofun, fun htaken => absurd (.inr hpeer) htaken.2⟩
    · rw [if_neg hpeer, hc.peer_iff peer other, or_iff_left hpeer]

/-- A census goes on to agree with what is written down, as long as the numbers last. -/
theorem step (hc : c.Records given taken) {e : Nat} {r : Request} {answer : Answer r.Response}
    (hstep : Census.Step c c' e ⟨e, r, answer⟩)
    (hroom : given.length + (r.gives answer).length < UInt64.size) :
    c'.Records (given ++ r.gives answer) (taken ++ r.takes answer) := by
  cases hstep with
  | still hvoid hsame =>
    obtain ⟨hgives, htakes⟩ := Request.gives_takes_of_isVoid hvoid
    rw [hgives, htakes, List.append_nil, List.append_nil]
    exact hc.still hsame
  | contextOpened config hcensus =>
    have htakes : Request.takes (.contextOpen config) (.ok ⟨c.nextId⟩) = [] := rfl
    rw [hcensus, htakes, List.append_nil]
    exact hc.contextOpened hroom
  | contextClosed h hfree hcensus =>
    have hgives : Request.gives (.contextClose h) (.ok ()) = [] := rfl
    rw [hcensus, hgives, List.append_nil]
    exact hc.contextClosed hfree
  | peerOpened h n config hn hcensus =>
    have htakes : Request.takes (.peerOpen h config) (.ok ⟨c.nextId⟩) = [] := rfl
    rw [hcensus, htakes, List.append_nil]
    exact hc.peerOpened hroom hn
  | peerClosed h owner howner hcensus =>
    have hgives : Request.gives (.peerClose h) (.ok ()) = [] := rfl
    rw [hcensus, hgives, List.append_nil]
    exact hc.peerClosed howner

/-- A new engine has given nothing. -/
theorem start : (State.census {}).Records [] [] := by
  refine ⟨⟨rfl, nofun, nofun, nofun, nofun⟩, rfl, fun h => ?_, fun h owner => ?_, nofun⟩
  · exact ⟨fun hused => absurd rfl hused, fun hmem => absurd hmem.1 List.not_mem_nil⟩
  · exact ⟨nofun, fun hmem => absurd hmem.1 List.not_mem_nil⟩

end Census.Records

/-! ## Runs -/

/-- The records go on with every event. -/
theorem Site.records_after {site : Site} {before : List Opening} {gone : List Handle}
    (hrecords : site.state.census.Records before gone) (e : Happening)
    (hroom : before.length + (site.givenBy e).length < UInt64.size) :
    (site.after e).state.census.Records (before ++ site.givenBy e) (gone ++ site.takenBy e) := by
  cases e with
  | request r => exact hrecords.step (census_engine 0 r site) hroom
  | machine change =>
    rw [givenBy, takenBy, List.append_nil, List.append_nil]
    exact hrecords
  | settle h =>
    rw [givenBy, takenBy, List.append_nil, List.append_nil]
    exact hrecords.still site.census_settle

/-- The records go on in a run. -/
theorem Site.records_afterAll {site : Site} {before : List Opening} {gone : List Handle}
    (hrecords : site.state.census.Records before gone) (events : List Happening)
    (hroom : before.length + (given events site).length < UInt64.size) :
    (site.afterAll events).state.census.Records (before ++ given events site)
      (gone ++ taken events site) := by
  -- What is written down grows along the run, so it is any.
  induction events generalizing site before gone with
  | nil =>
    rw [given, taken, List.append_nil, List.append_nil]
    exact hrecords
  | cons e events ih =>
    rw [given, List.length_append] at hroom
    rw [given, taken, ← List.append_assoc, ← List.append_assoc]
    refine ih (site.records_after hrecords e (by omega)) ?_
    rw [List.length_append]
    omega

/-! ## Handles that are not in use -/

/-- Whether a handle is in use. -/
def Site.Uses (site : Site) : Handle → Prop
  | .context h => site.state.contexts.get? h ≠ none
  | .peer h => site.state.peers.get? h ≠ none

/-- A call on a handle that is not in use finds nothing and changes nothing, whatever else is asked.
-/
theorem engine_of_not_uses {site : Site} {r : Request} {x : Handle} (hr : r.handle? = some x)
    (hx : ¬ site.Uses x) : engine r site = (.error .notFound, site) := by
  have hcontext {c : ContextHandle} (hc : some (Handle.context c) = some x) :
      site.state.contexts.get? c = none := by
    obtain rfl := Option.some.inj hc
    exact Classical.not_not.mp hx
  have hpeer {p : PeerHandle} (hp : some (Handle.peer p) = some x) :
      site.state.peers.get? p = none := by
    obtain rfl := Option.some.inj hp
    exact Classical.not_not.mp hx
  -- Every request with a handle looks it up before it does anything else.
  cases r with
  | contextOpen config => exact absurd hr nofun
  | registerEncoding c id encoding =>
    show site.registerEncoding c id encoding = _
    rw [Site.registerEncoding, hcontext hr]
    rfl
  | contextClose c =>
    show site.closeContext c = _
    rw [Site.closeContext, hcontext hr]
    rfl
  | peerOpen c config =>
    show site.openPeer c config = _
    rw [Site.openPeer, hcontext hr]
    rfl
  | configure p slot i config =>
    show site.configure p slot i config = _
    rw [Site.configure, hpeer hr]
    rfl
  | bind p slot i endpoint =>
    show site.bind p slot i endpoint = _
    rw [Site.bind, hpeer hr]
    rfl
  | connect p slot i endpoint =>
    show site.connect p slot i endpoint = _
    rw [Site.connect, hpeer hr]
    rfl
  | unlink p slot =>
    show site.unlink p slot = _
    rw [Site.unlink, hpeer hr]
    rfl
  | peerClose p =>
    show site.closePeer p = _
    rw [Site.closePeer, hpeer hr]
    rfl
  | read p length =>
    show site.read p length = _
    rw [Site.read, hpeer hr]
    rfl
  | write p frame =>
    show site.write p frame = _
    rw [Site.write, hpeer hr]
    rfl

/-- An open or close that fails changes nothing. -/
theorem engine_of_opensOrCloses {site : Site} {r : Request} {code : EngineCode}
    (hr : r.call.opensOrCloses = true) (hcode : (engine r site).1 = .error code) :
    (engine r site).2 = site := by
  -- Each of the four is refused and changes nothing, or answers with a value.
  have hrefused {answer : Answer r.Response} {site' : Site}
      (h : (∃ code, (answer, site') = (.error code, site)) ∨ ∃ a, answer = .ok a)
      (hanswer : answer = .error code) : site' = site := by
    rcases h with ⟨code', h⟩ | ⟨a, rfl⟩
    · exact (Prod.mk.inj h).2
    · exact absurd hanswer nofun
  refine hrefused ?_ hcode
  cases r with
  | contextOpen config =>
    exact (site.census_openContext config).imp id fun hopen => ⟨_, hopen.1⟩
  | contextClose c =>
    exact (site.census_closeContext c).imp And.left fun hclose => ⟨_, hclose.2.1⟩
  | peerOpen c config =>
    exact (site.census_openPeer c config).imp id fun ⟨_, _, hopen, _⟩ => ⟨_, hopen⟩
  | peerClose p =>
    exact (site.census_closePeer p).imp And.left fun ⟨_, _, hclose, _⟩ => ⟨_, hclose⟩
  | registerEncoding | configure | bind | connect | unlink | read | write =>
    exact absurd hr Bool.false_ne_true

/-- A context is closed if it has no peers, and is busy otherwise. -/
theorem closeContext_eq {site : Site} {h : ContextHandle} {k : ContextState}
    (hk : site.state.contexts.get? h = some k) :
    site.closeContext h =
      if k.peers = 0 then (.ok (), { site with state := { site.state with
        contexts := site.state.contexts.erase h } })
      else (.error .busy, site) := by
  rw [Site.closeContext, hk]
  dsimp only
  by_cases hfree : k.peers = 0
  · rw [if_pos hfree, if_neg (by omega)]
  · rw [if_neg hfree, if_pos (by omega)]
    rfl

/-! ## What holds in every run -/

/-- How an engine deals with handles, after those of `given` have been given and those of `taken`
have been taken back. -/
structure Site.KeepsHandles (site : Site) (given : List Opening) (taken : List Handle) : Prop where
  /-- Each handle has a greater number than those before it, whatever they were given to. -/
  rising : (given.map fun x => x.handle.number).Pairwise (· < ·)
  contexts : ∀ h, site.state.contexts.get? h ≠ none ↔ .context h ∈ given ∧ .context h ∉ taken
  peers : ∀ h owner, (site.state.peers.get? h).map PeerState.context = some owner ↔
    .peer h owner ∈ given ∧ .peer h ∉ taken
  /-- The counter of a context is the number of the peers that have been opened on it. -/
  counted : ∀ h k, site.state.contexts.get? h = some k →
    k.peers = site.state.peers.count fun q => q.context = h
  attached : ∀ h q, site.state.peers.get? h = some q → site.state.contexts.get? q.context ≠ none
  closing : ∀ h k, site.state.contexts.get? h = some k →
    site.closeContext h =
      if k.peers = 0 then (.ok (), { site with state := { site.state with
        contexts := site.state.contexts.erase h } })
      else (.error .busy, site)
  refused : ∀ r code, r.call.opensOrCloses = true → (engine r site).1 = .error code →
    (engine r site).2 = site
  /-- A handle that has not been given, or to something of the other kind, or that has been taken
  back, is not found. -/
  stale : ∀ r x, r.handle? = some x →
    x ∉ given.map Opening.handle ∨ x.twin ∈ given.map Opening.handle ∨ x ∈ taken →
      engine r site = (.error .notFound, site)

namespace Census.Records

variable {site : Site} {given : List Opening} {taken : List Handle}

/-- No handle is given to a context and to a peer. -/
theorem not_mem_of_twin {c : Census} (hc : c.Records given taken) {x : Handle}
    (hx : x.twin ∈ given.map Opening.handle) : x ∉ given.map Opening.handle := by
  intro hmem
  obtain ⟨y, hy, hxy⟩ := List.mem_map.mp hmem
  obtain ⟨z, hz, hxz⟩ := List.mem_map.mp hx
  have hnumber : z.handle.number = y.handle.number := by rw [hxz, hxy, Handle.number_twin]
  obtain rfl := hc.eq_of_number hz hy hnumber
  exact x.twin_ne (hxz.symm.trans hxy)

/-- A handle is in use if it has been given and not been taken back. -/
theorem mem_of_uses (hc : site.state.census.Records given taken) {x : Handle}
    (hx : site.Uses x) : x ∈ given.map Opening.handle ∧ x ∉ taken := by
  cases x with
  | context h =>
    have hused : site.state.census.contexts.get? h ≠ none := by
      rw [State.get?_contexts_census]
      exact fun hnone => hx (Option.map_eq_none_iff.mp hnone)
    obtain ⟨hgiven, htaken⟩ := (hc.context_iff h).mp hused
    exact ⟨List.mem_map_of_mem hgiven, htaken⟩
  | peer h =>
    obtain ⟨q, hq⟩ := Option.ne_none_iff_exists'.mp hx
    have howner : site.state.census.peers.get? h = some q.context := by
      rw [State.get?_peers_census, hq, Option.map_some]
    obtain ⟨hgiven, htaken⟩ := (hc.peer_iff h q.context).mp howner
    exact ⟨List.mem_map_of_mem hgiven, htaken⟩

/-- What the records say of handles. -/
theorem keepsHandles (hc : site.state.census.Records given taken) :
    site.KeepsHandles given taken where
  rising := by
    rw [hc.numbers]
    exact List.pairwise_lt_range'
  contexts h := by
    rw [← hc.context_iff, State.get?_contexts_census, ne_eq, ne_eq, Option.map_eq_none_iff]
  peers h owner := by
    rw [← hc.peer_iff, State.get?_peers_census]
  counted h k hk := by
    have hcount := hc.consistent.attached h k.peers
    rw [State.get?_contexts_census, hk] at hcount
    exact (hcount rfl).trans (Table.count_image _ _ _)
  attached h q hq := by
    have howner := hc.consistent.owner h q.context
    rw [State.get?_peers_census, State.get?_contexts_census, hq] at howner
    exact fun hnone => howner rfl (Option.map_eq_none_iff.mpr hnone)
  closing _ _ hk := closeContext_eq hk
  refused _ _ hr hcode := engine_of_opensOrCloses hr hcode
  stale r x hr hx := by
    refine engine_of_not_uses hr fun hused => ?_
    obtain ⟨hgiven, htaken⟩ := hc.mem_of_uses hused
    rcases hx with hx | hx | hx
    · exact hx hgiven
    · exact hc.not_mem_of_twin hx hgiven
    · exact htaken hx

end Census.Records

/-- In every run of an engine that gives fewer than 2^64 handles, handles are kept in order: no number
is given twice, the tables hold what has been opened and not been closed, with the right number of
peers for each context, and calls on other handles find nothing. A handle that has been taken back is
never found again. -/
theorem handles_in_order (machine : Machine) (events : List Happening)
    (hroom : (given events { machine }).length < UInt64.size) :
    let site := ({ machine } : Site).afterAll events
    site.KeepsHandles (given events { machine }) (taken events { machine }) ∧
      ∀ earlier later, events = earlier ++ later → ∀ x ∈ taken earlier { machine },
        ∀ r, Request.handle? r = some x → engine r site = (.error .notFound, site) := by
  intro site
  have hstart : ({ machine } : Site).state.census.Records [] [] := .start
  have hrecords := Site.records_afterAll hstart events (by rwa [List.length_nil, Nat.zero_add])
  have hkeeps : site.KeepsHandles (given events { machine }) (taken events { machine }) :=
    hrecords.keepsHandles
  refine ⟨hkeeps, fun earlier later hsplit x hx r hr => ?_⟩
  refine hkeeps.stale r x hr (.inr (.inr ?_))
  rw [hsplit, taken_append]
  exact List.mem_append_left _ hx

/-- A context and a peer of it are opened and closed again; a second context is refused. -/
def openedAndClosed : List Happening := [
  .request (.contextOpen {}),
  .request (.contextOpen { maxPacketSize := 1 }),
  .request (.peerOpen ⟨1⟩ (.sender { frameEncoding := .stereo 48000 })),
  .request (.contextClose ⟨1⟩),
  .request (.peerClose ⟨2⟩),
  .request (.contextClose ⟨1⟩)]

/-- The context was busy at first; the handles are not found any more. -/
theorem handles_in_order_openedAndClosed :
    let machine : Machine := { host := .selfContained, random := fun _ => 0 }
    let site := ({ machine } : Site).afterAll openedAndClosed
    given openedAndClosed { machine } = [.context ⟨1⟩, .peer ⟨2⟩ ⟨1⟩] ∧
      taken openedAndClosed { machine } = [.peer ⟨2⟩, .context ⟨1⟩] ∧
      engine (.unlink ⟨2⟩ ⟨0⟩) site = (.error .notFound, site) := by
  intro machine site
  have hgiven : given openedAndClosed { machine } = [.context ⟨1⟩, .peer ⟨2⟩ ⟨1⟩] := by
    decide +kernel
  have htaken : taken openedAndClosed { machine } = [.peer ⟨2⟩, .context ⟨1⟩] := by
    decide +kernel
  have hroom : (given openedAndClosed { machine }).length < UInt64.size := by
    rw [hgiven]
    decide
  refine ⟨hgiven, htaken, ?_⟩
  refine (handles_in_order machine openedAndClosed hroom).2 openedAndClosed []
    (List.append_nil _).symm (.peer ⟨2⟩) ?_ (.unlink ⟨2⟩ ⟨0⟩) rfl
  rw [htaken]
  exact List.mem_cons_self

end Loopback
end AudioLink
