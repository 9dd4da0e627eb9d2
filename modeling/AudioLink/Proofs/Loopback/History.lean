import AudioLink.Proofs.Loopback.Handlers
import AudioLink.Proofs.Loopback.Sizes

/-
What becomes of the peers of an engine while anything happens.

Anybody may ask an engine anything, in any order and with any handles, the machine may change at any
moment into any other machine, and receivers may take what has been sent to them whenever they like.
Whatever happens, the flow of a peer takes one of a few steps, which `FlowStep` lists; so an
invariant of the flows is proved for these steps and not for each request. What has been written to
a peer and what has waited at its sockets is kept beside the run.
-/
set_option autoImplicit false

namespace AudioLink.Loopback

/-! ## Runs -/

/-- What happens to an engine and its machine. -/
inductive Happening where
  /-- The engine is asked something. -/
  | request (r : Request)
  /-- The machine changes: time passes, or datagrams come in. -/
  | machine (change : Machine → Machine)
  /-- A receiver takes what was sent to it. -/
  | settle (h : PeerHandle)

/-- The site after something has happened. -/
def Site.after (site : Site) : Happening → Site
  | .request r => (engine r site).2
  | .machine change => { site with machine := change site.machine }
  | .settle h => site.settle h

/-- The site after several things have happened. -/
def Site.afterAll (site : Site) (events : List Happening) : Site := events.foldl Site.after site

/-- What comes later happens to the site that is there then. -/
theorem Site.afterAll_append (site : Site) (events more : List Happening) :
    site.afterAll (events ++ more) = (site.afterAll events).afterAll more :=
  List.foldl_append

/-! ### What is kept beside a run -/

/-- The packets that wait at the sockets of a peer. -/
def arriving (m : Machine) (q : PeerState) : List Packet :=
  (m.network.take q.sockets.contains).1.filterMap fun d => acceptable? q.channels d.2

/-- The packets that wait at the sockets of the peer with this handle. -/
def Site.waiting (site : Site) (h : PeerHandle) : List Packet :=
  match site.state.peers.get? h with
  | some q => arriving site.machine q
  | none => []

/-- The frame that is written to a peer, if this is what happens. -/
def Site.writtenBy (site : Site) (h : PeerHandle) : Happening → List Frame
  | .request (.write h' frame) =>
    if h' = h ∧ (site.write h' frame).1 = .ok () then [frame] else []
  | _ => []

/-- The packets that wait at the sockets of a peer at the moments of a run, before its last event.
-/
def received (h : PeerHandle) : List Happening → Site → List Packet
  | [], _ => []
  | e :: events, site => site.waiting h ++ received h events (site.after e)

/-- The frames that are written to a peer in a run. -/
def written (h : PeerHandle) : List Happening → Site → List Frame
  | [], _ => []
  | e :: events, site => site.writtenBy h e ++ written h events (site.after e)

/-- The last event of a run adds what waits in front of it. -/
theorem received_append (h : PeerHandle) (events : List Happening) (e : Happening) (site : Site) :
    received h (events ++ [e]) site =
      received h events site ++ (site.afterAll events).waiting h := by
  induction events generalizing site with
  | nil => exact List.append_nil _
  | cons first events ih =>
    rw [List.cons_append, received, ih, received, List.append_assoc]
    rfl

/-! ## Steps of a flow -/

/-- What an event makes of the flow of a peer that stays open. -/
inductive FlowStep (site : Site) (h : PeerHandle) (q : PeerState) (e : Happening) : Flow → Prop
  | still : FlowStep site h q e q.flow
  /-- A frame is cut into pieces. -/
  | written {fec : FecEncoding} {stream : UInt32} {p : Packetizer} {frame : Frame}
      (hflow : q.flow = .sending fec stream p) (hevent : site.writtenBy h e = [frame])
      (hframe : q.channels ∣ frame.length) :
      FlowStep site h q e (.sending fec stream (p.push frame).2)
  /-- What waits at the sockets is taken. -/
  | collected {p : Playout} (hflow : q.flow = .receiving p) :
      FlowStep site h q e (.receiving (collect site.machine q p).1)
  /-- What waits at the sockets is taken, and a frame is played. -/
  | filled {p : Playout} {n : Nat} (hflow : q.flow = .receiving p) (hframe : q.channels ∣ n) :
      FlowStep site h q e (.receiving ((collect site.machine q p).1.fill n).2)
  /-- What waits at the sockets is taken, and a slot is forgotten. -/
  | forgot {p : Playout} {slot : Slot} (hflow : q.flow = .receiving p) :
      FlowStep site h q e (.receiving ((collect site.machine q p).1.forget slot))

/-- What there is under a handle after an event: a peer that has just been opened, or the peer that
was there before, after a step. -/
inductive Continues (site : Site) (h : PeerHandle) (e : Happening) (q' : PeerState) : Prop
  | opened (c : ContextHandle) (config : PeerConfig) (hopened : IsOpened config c q')
  | stepped (q : PeerState) (hq : site.state.peers.get? h = some q)
      (hchannels : q'.channels = q.channels) (hstep : FlowStep site h q e q'.flow)

/-- Settling is a step: a sender keeps its flow, a receiver takes what waits. -/
theorem FlowStep.of_collectFlow {site : Site} {h : PeerHandle} {q : PeerState} {e : Happening} :
    FlowStep site h q e (collectFlow site.machine q).1 := by
  unfold collectFlow
  cases hflow : q.flow with
  | sending fec stream p =>
    dsimp only
    rw [← hflow]
    exact .still
  | receiving p => exact .collected hflow

/-- Unlinking is a step: a receiver first takes what waits, then forgets the slot. -/
theorem FlowStep.of_forget {site : Site} {h : PeerHandle} {q : PeerState} {e : Happening}
    (slot : Slot) : FlowStep site h q e ((collectFlow site.machine q).1.forget slot) := by
  unfold collectFlow
  cases hflow : q.flow with
  | sending fec stream p =>
    dsimp only [Flow.forget]
    rw [← hflow]
    exact .still
  | receiving p => exact .forgot hflow

section Continues

variable {site : Site} {h h₁ : PeerHandle} {e : Happening} {q₁ q' : PeerState}

/-- A peer that is what it was continues. -/
theorem Continues.of_still (hq' : site.state.peers.get? h = some q') : Continues site h e q' :=
  .stepped q' hq' rfl .still

/-- One peer is put in the place of what it was, and no other peer changes. -/
theorem Continues.of_insert (q₁' : PeerState) (hq₁ : site.state.peers.get? h₁ = some q₁)
    (hchannels : q₁'.channels = q₁.channels) (hstep : FlowStep site h₁ q₁ e q₁'.flow)
    (hq' : (site.state.peers.insert h₁ q₁').get? h = some q') : Continues site h e q' := by
  rcases Table.get?_insert_cases hq' with ⟨rfl, rfl⟩ | ⟨-, hq'⟩
  · exact .stepped q₁ hq₁ hchannels hstep
  · exact .of_still hq'

end Continues

namespace Site

variable {site : Site} {h h₁ : PeerHandle} {q' : PeerState}

/-- Opening a peer adds one under a new handle, or refuses and changes nothing. -/
theorem continues_openPeer {c : ContextHandle} {config : PeerConfig} {e : Happening}
    (hq' : (site.openPeer c config).2.state.peers.get? h = some q') : Continues site h e q' := by
  rcases site.openPeer_spec c config with ⟨code, -, hsame⟩ | ⟨k, q, -, hopened, -, hstate⟩
  · rw [hsame] at hq'
    exact .of_still hq'
  · rw [hstate] at hq'
    rcases Table.get?_insert_cases hq' with ⟨-, rfl⟩ | ⟨-, hq'⟩
    · exact .opened c config hopened
    · exact .of_still hq'

/-- A request about one slot leaves every flow alone. -/
theorem SetsSlot.continues {α : Type} {slot : Slot} {result : Answer α × Site} {e : Happening}
    (hsets : SetsSlot site h₁ slot result) (hq' : result.2.state.peers.get? h = some q') :
    Continues site h e q' := by
  cases hsets with
  | refused code => exact .of_still hq'
  | set hq answer machine s => exact .of_insert (PeerState.setSlot _ slot s) hq rfl .still hq'

/-- Unlinking a slot is a step of the flow of its peer. -/
theorem continues_unlink {slot : Slot} {e : Happening}
    (hq' : (site.unlink h₁ slot).2.state.peers.get? h = some q') : Continues site h e q' := by
  rcases site.unlink_cases h₁ slot with ⟨code, hunlink⟩ | ⟨q, machine, hq, hunlink⟩
  · rw [hunlink] at hq'
    exact .of_still hq'
  · rw [hunlink] at hq'
    exact .of_insert { q with
      slots := q.slots.erase slot, flow := (collectFlow site.machine q).1.forget slot }
      hq rfl (.of_forget slot) hq'

/-- Reading is a step of the flow of a receiver, over whole frames. -/
theorem continues_read {n : Nat} {e : Happening}
    (hq' : (site.read h₁ n).2.state.peers.get? h = some q') : Continues site h e q' := by
  rcases site.read_cases h₁ n with ⟨code, hread⟩ | ⟨q, p, machine, pacer, hq, hflow, hframe, hread⟩
  · rw [hread] at hq'
    exact .of_still hq'
  · rw [hread] at hq'
    exact .of_insert { q with
      pacer, flow := .receiving ((collect site.machine q p).1.fill n).2 }
      hq rfl (.filled hflow (Nat.dvd_of_mod_eq_zero hframe)) hq'

/-- Writing is a step of the flow of a sender, and the frame is one that counts as written. -/
theorem continues_write {frame : Frame}
    (hq' : (site.write h₁ frame).2.state.peers.get? h = some q') :
    Continues site h (.request (.write h₁ frame)) q' := by
  rcases site.write_cases h₁ frame with
    ⟨code, hwrite⟩ | ⟨q, fec, stream, p, machine, pacer, hq, hflow, hframe, hwrite⟩
  · rw [hwrite] at hq'
    exact .of_still hq'
  · have hwritten : site.writtenBy h₁ (.request (.write h₁ frame)) = [frame] :=
      if_pos ⟨rfl, congrArg Prod.fst hwrite⟩
    rw [hwrite] at hq'
    exact .of_insert { q with pacer, flow := .sending fec stream (p.push frame).2 } hq rfl
      (.written hflow hwritten (Nat.dvd_of_mod_eq_zero hframe)) hq'

/-- A receiver that takes what was sent to it takes a step. -/
theorem continues_settle {e : Happening}
    (hq' : (site.settle h₁).state.peers.get? h = some q') : Continues site h e q' := by
  rcases site.settle_cases h₁ with ⟨hsettle, -⟩ | ⟨q, machine, hq, hsettle⟩
  · rw [hsettle] at hq'
    exact .of_still hq'
  · rw [hsettle] at hq'
    exact .of_insert { q with flow := (collectFlow site.machine q).1 } hq rfl .of_collectFlow hq'

/-- Whatever happens, every peer takes one of the steps, if it has not just been opened. -/
theorem continues_after (e : Happening) (hq' : (site.after e).state.peers.get? h = some q') :
    Continues site h e q' := by
  cases e with
  | machine change => exact .of_still hq'
  | settle h₁ => exact continues_settle hq'
  | request r =>
    cases r with
    | contextOpen config => exact .of_still (site.peers_openContext config ▸ hq')
    | registerEncoding c id encoding =>
      exact .of_still (site.peers_registerEncoding c id encoding ▸ hq')
    | contextClose c => exact .of_still (site.peers_closeContext c ▸ hq')
    | peerOpen c config => exact continues_openPeer hq'
    | configure h₁ slot i config => exact (site.setsSlot_configure h₁ slot i config).continues hq'
    | bind h₁ slot i endpoint => exact (site.setsSlot_bind h₁ slot i endpoint).continues hq'
    | connect h₁ slot i endpoint => exact (site.setsSlot_connect h₁ slot i endpoint).continues hq'
    | unlink h₁ slot => exact continues_unlink hq'
    | peerClose h₁ => exact .of_still (site.get?_of_closePeer h₁ hq')
    | read h₁ n => exact continues_read hq'
    | write h₁ frame => exact continues_write hq'

end Site
end AudioLink.Loopback
