import AudioLink.Loopback.Engine
import AudioLink.Proofs.Table

/-
What a request can make of a site.

Each handler of the engine is taken apart here, and only here, as far as nobody asks why it answers
as it does: it refuses and leaves the site alone, or it puts one thing in the place of what was
there. What is kept by every request is proved from these cases.
-/
set_option autoImplicit false

namespace AudioLink.Loopback

/-- Pacing lets time pass and touches nothing else. -/
theorem network_pace (m : Machine) (pacer : Option Pacer) (samples : Nat) :
    (pace m pacer samples).2.network = m.network := by
  cases pacer with
  | none => rfl
  | some pacer => rfl

/-- What a peer collects depends on the network only. -/
theorem collect_eq {m m' : Machine} (hnetwork : m'.network = m.network) (q : PeerState)
    (p : Playout) : (collect m' q p).1 = (collect m q p).1 := by
  rw [collect, collect, hnetwork]

namespace Site

variable (site : Site)

/-! ## Contexts -/

theorem openContext_cases (config : ContextConfig) :
    (∃ code, site.openContext config = (.error code, site)) ∨
      site.openContext config = (.ok ⟨site.state.nextId⟩, { site with state := { site.state with
        nextId := site.state.nextId + 1
        contexts := site.state.contexts.insert ⟨site.state.nextId⟩
          { packetSize := config.packetSize } } }) := by
  unfold openContext
  by_cases hvalid : config.isValid = false
  · rw [if_pos hvalid]
    exact .inl ⟨_, rfl⟩
  · rw [if_neg hvalid]
    exact .inr rfl

theorem registerEncoding_cases (c : ContextHandle) (id : Int32) (encoding : MediaEncoding) :
    (∃ code, site.registerEncoding c id encoding = (.error code, site)) ∨
      ∃ k, site.state.contexts.get? c = some k ∧
        site.registerEncoding c id encoding = (.ok (), { site with state := { site.state with
          contexts := site.state.contexts.insert c
            { k with encodings := k.encodings.insert id encoding } } }) := by
  unfold registerEncoding
  cases hk : site.state.contexts.get? c with
  | none => exact .inl ⟨_, rfl⟩
  | some k =>
    dsimp only
    split
    · exact .inl ⟨_, rfl⟩
    · exact .inr ⟨k, rfl, rfl⟩

/-- A context is closed exactly if it is there and has no peers. -/
theorem closeContext_cases (c : ContextHandle) :
    ((∃ code, site.closeContext c = (.error code, site)) ∧
        ∀ k, site.state.contexts.get? c = some k → k.peers ≠ 0) ∨
      ∃ k, site.state.contexts.get? c = some k ∧ k.peers = 0 ∧
        site.closeContext c = (.ok (), { site with state := { site.state with
          contexts := site.state.contexts.erase c } }) := by
  unfold closeContext
  cases hk : site.state.contexts.get? c with
  | none => exact .inl ⟨⟨_, rfl⟩, fun k hk => by cases hk⟩
  | some k =>
    dsimp only
    by_cases hbusy : 0 < k.peers
    · rw [if_pos hbusy]
      refine .inl ⟨⟨_, rfl⟩, ?_⟩
      rintro _ ⟨⟩
      omega
    · rw [if_neg hbusy]
      exact .inr ⟨k, rfl, by omega, rfl⟩

theorem peers_openContext (config : ContextConfig) :
    (site.openContext config).2.state.peers = site.state.peers := by
  rcases site.openContext_cases config with ⟨code, hopen⟩ | hopen
  · rw [hopen]
  · rw [hopen]

theorem peers_registerEncoding (c : ContextHandle) (id : Int32) (encoding : MediaEncoding) :
    (site.registerEncoding c id encoding).2.state.peers = site.state.peers := by
  rcases site.registerEncoding_cases c id encoding with ⟨code, hregister⟩ | ⟨k, -, hregister⟩
  · rw [hregister]
  · rw [hregister]

theorem peers_closeContext (c : ContextHandle) :
    (site.closeContext c).2.state.peers = site.state.peers := by
  rcases site.closeContext_cases c with ⟨⟨code, hclose⟩, -⟩ | ⟨k, -, -, hclose⟩
  · rw [hclose]
  · rw [hclose]

/-! ## Peers -/

variable (h : PeerHandle)

/-- A peer is closed exactly if it is there. -/
theorem closePeer_cases :
    (∃ code, site.closePeer h = (.error code, site)) ∧ site.state.peers.get? h = none ∨
      ∃ q machine, site.state.peers.get? h = some q ∧
        site.closePeer h = (.ok (), { machine, state := { site.state with
          peers := site.state.peers.erase h
          contexts := site.state.contexts.modify q.context fun c =>
            { c with peers := c.peers - 1 } } }) := by
  unfold closePeer
  cases hq : site.state.peers.get? h with
  | none => exact .inl ⟨⟨_, rfl⟩, rfl⟩
  | some q => exact .inr ⟨q, _, rfl, rfl⟩

/-- Peers that are left were there before. -/
theorem get?_of_closePeer {other : PeerHandle} {q : PeerState}
    (hq : (site.closePeer h).2.state.peers.get? other = some q) :
    site.state.peers.get? other = some q := by
  rcases site.closePeer_cases h with ⟨⟨code, hclose⟩, -⟩ | ⟨closed, machine, -, hclose⟩
  · rw [hclose] at hq
    exact hq
  · rw [hclose] at hq
    exact (Table.get?_of_get?_erase hq).2

theorem settle_cases :
    site.settle h = site ∧ site.state.peers.get? h = none ∨
      ∃ q machine, site.state.peers.get? h = some q ∧ site.settle h =
        { site with machine }.setPeer h { q with flow := (collectFlow site.machine q).1 } := by
  unfold settle
  cases hq : site.state.peers.get? h with
  | none => exact .inl ⟨rfl, rfl⟩
  | some q => exact .inr ⟨q, _, rfl, rfl⟩

/-! ## Slots -/

/-- What an operation on a slot leaves behind: the site as it was, or another state of this slot. -/
inductive SetsSlot {α : Type} (site : Site) (h : PeerHandle) (slot : Slot) :
    Answer α × Site → Prop
  | refused (code : EngineCode) : SetsSlot site h slot (.error code, site)
  | set {q : PeerState} (hq : site.state.peers.get? h = some q) (answer : Answer α)
      (machine : Machine) (s : SlotState) :
      SetsSlot site h slot (answer, { site with machine }.setSlot h q slot s)

theorem setsSlot_configure (slot : Slot) (i : Interface) (config : InterfaceConfig) :
    SetsSlot site h slot (site.configure h slot i config) := by
  unfold configure
  cases hq : site.state.peers.get? h with
  | none => exact .refused _
  | some q =>
    dsimp only
    split
    · exact .refused _
    · split
      · exact .set hq _ site.machine _
      · exact .set hq _ site.machine _

theorem setsSlot_bind (slot : Slot) (i : Interface) (endpoint : Endpoint) :
    SetsSlot site h slot (site.bind h slot i endpoint) := by
  unfold Site.bind
  cases hq : site.state.peers.get? h with
  | none => exact .refused _
  | some q =>
    dsimp only
    split
    · exact .refused _
    · split
      · exact .refused _
      · split
        · exact .set hq _ site.machine _
        · exact .set hq _ _ _

theorem setsSlot_connect (slot : Slot) (i : Interface) (endpoint : Endpoint) :
    SetsSlot site h slot (site.connect h slot i endpoint) := by
  unfold connect
  cases hq : site.state.peers.get? h with
  | none => exact .refused _
  | some q =>
    dsimp only
    split
    · exact .refused _
    · split
      · exact .refused _
      · split
        · exact .set hq _ site.machine _
        · exact .set hq _ _ _

/-- A slot is unknown and nothing changes, or it is taken down after what has come in was taken. -/
theorem unlink_cases (slot : Slot) :
    (∃ code, site.unlink h slot = (.error code, site)) ∨
      ∃ q machine, site.state.peers.get? h = some q ∧ site.unlink h slot =
        (.ok (), { site with machine }.setPeer h { q with
          slots := q.slots.erase slot
          flow := (collectFlow site.machine q).1.forget slot }) := by
  unfold unlink
  cases hq : site.state.peers.get? h with
  | none => exact .inl ⟨_, rfl⟩
  | some q =>
    dsimp only
    split
    · exact .inl ⟨_, rfl⟩
    · exact .inr ⟨q, _, rfl, rfl⟩

/-! ## Frames -/

/-- A frame is refused and nothing changes, or it is read from what has come in so far. -/
theorem read_cases (n : Nat) :
    (∃ code, site.read h n = (.error code, site)) ∨
      ∃ q p machine pacer, site.state.peers.get? h = some q ∧ q.flow = .receiving p ∧
        n % q.channels = 0 ∧
        site.read h n = (.ok ((collect site.machine q p).1.fill n).1,
          { site with machine }.setPeer h
            { q with pacer, flow := .receiving ((collect site.machine q p).1.fill n).2 }) := by
  unfold read
  cases hq : site.state.peers.get? h with
  | none => exact .inl ⟨_, rfl⟩
  | some q =>
    by_cases hframe : n % q.channels = 0
    · cases hflow : q.flow with
      | sending fec stream p =>
        refine .inl ⟨.unsupported, ?_⟩
        simp only [hflow, hframe, ne_eq, not_true_eq_false, if_false]
        rfl
      | receiving p =>
        refine .inr ⟨q, p, (collect (pace site.machine q.pacer n).2 q p).2,
          (pace site.machine q.pacer n).1, rfl, hflow, hframe, ?_⟩
        -- The machine has been waiting, but nothing has come in meanwhile.
        rw [← collect_eq (network_pace site.machine q.pacer n)]
        simp only [hflow, hframe, ne_eq, not_true_eq_false, if_false]
    · refine .inl ⟨.invalidArgument, ?_⟩
      simp only [ne_eq, hframe, not_false_eq_true, if_true]
      rfl

/-- A frame is refused and nothing changes, or it is cut into pieces. -/
theorem write_cases (frame : Frame) :
    (∃ code, site.write h frame = (.error code, site)) ∨
      ∃ q fec stream p machine pacer, site.state.peers.get? h = some q ∧
        q.flow = .sending fec stream p ∧ frame.length % q.channels = 0 ∧
        site.write h frame = (.ok (), { site with machine }.setPeer h
          { q with pacer, flow := .sending fec stream (p.push frame).2 }) := by
  unfold write
  cases hq : site.state.peers.get? h with
  | none => exact .inl ⟨_, rfl⟩
  | some q =>
    by_cases hframe : frame.length % q.channels = 0
    · cases hflow : q.flow with
      | receiving p =>
        refine .inl ⟨.unsupported, ?_⟩
        simp only [hflow, hframe, ne_eq, not_true_eq_false, if_false]
        rfl
      | sending fec stream p =>
        refine .inr ⟨q, fec, stream, p, transmit (pace site.machine q.pacer frame.length).2
          ((p.push frame).1.flatMap (datagramsOf q.slots fec stream)),
          (pace site.machine q.pacer frame.length).1, rfl, hflow, hframe, ?_⟩
        simp only [hflow, hframe, ne_eq, not_true_eq_false, if_false]
    · refine .inl ⟨.invalidArgument, ?_⟩
      simp only [ne_eq, hframe, not_false_eq_true, if_true]
      rfl

end Site
end AudioLink.Loopback
