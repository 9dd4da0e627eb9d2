import AudioLink.Proofs.Loopback.Codec
import AudioLink.Proofs.Loopback.FanOut
import AudioLink.Proofs.Loopback.Opening

/-
Which datagrams a receiver takes.

How long the datagrams of a sender are is settled when it is opened: by its own configuration, and by
that of its context, where only the least length is limited. A receiver has room for 65536 bytes of a
datagram, and what it has of a longer one holds fewer samples than it says, so it would drop it. It does
not even get it: a datagram of more than 65507 bytes is refused by the socket that should send it, and
this is passed over. So all that arrives is taken, whatever a context allows; but a sender whose packets
are longer than that is opened like any other, writes to it succeed, and it is never heard.

What contexts and senders were opened with is kept beside a run. The invariant says that each context
and each stream is as this says; it holds because a context keeps its size, and a stream its own, from
the moment on at which they are opened.
-/
set_option autoImplicit false

namespace AudioLink

/-! ## What is left of a long datagram -/

namespace Packet

end Packet

namespace Loopback

/-- The sender that is opened under this handle, and its context, if this is what happens. -/
def Site.senderOpened? (site : Site) (h : PeerHandle) :
    Happening → Option (ContextHandle × SenderConfig)
  | .request (.peerOpen c (.sender config)) =>
    if (site.openPeer c (.sender config)).1.toOption = some h then some (c, config) else none
  | _ => none

/-- What contexts and senders were opened with when they were last opened. -/
structure Openings where
  contexts : ContextHandle → Option ContextConfig
  /-- With what a sender was opened, and with what its context was. -/
  senders : PeerHandle → Option (ContextConfig × SenderConfig)

namespace Openings

/-- Nothing has been opened. -/
def start : Openings := ⟨fun _ => none, fun _ => none⟩

def after (o : Openings) (site : Site) (e : Happening) : Openings where
  contexts c := (site.contextOpened? c e).or (o.contexts c)
  senders h :=
    match site.senderOpened? h e with
    | some (c, config) => (o.contexts c).map (·, config)
    | none => o.senders h

/-- What has been opened at the end of a run. -/
def afterAll (o : Openings) : List Happening → Site → Openings
  | [], _ => o
  | e :: events, site => (o.after site e).afterAll events (site.after e)

variable {o : Openings} {site : Site} {e : Happening}

/-- A context that is opened is written down with its configuration, and the others stay. -/
theorem contexts_after (o : Openings) (site : Site) (e : Happening) (c : ContextHandle) :
    (o.after site e).contexts c = (site.contextOpened? c e).or (o.contexts c) := rfl

/-- A sender that is opened is written down with the configuration of its context. -/
theorem senders_after_of_opened {h : PeerHandle} {c : ContextHandle} {config : SenderConfig}
    (hopened : site.senderOpened? h e = some (c, config)) :
    (o.after site e).senders h = (o.contexts c).map (·, config) := by
  simp only [after, hopened]

/-- Where nothing is opened, what was written down stays. -/
theorem senders_after_of_not_opened {h : PeerHandle} (hopened : site.senderOpened? h e = none) :
    (o.after site e).senders h = o.senders h := by
  simp only [after, hopened]

end Openings

/-- What opening a peer leaves behind. -/
theorem Site.exists_of_opens {site : Site} {h : PeerHandle} {e : Happening}
    (hopens : site.opens h e = true) :
    ∃ c config k q, e = .request (.peerOpen c config) ∧ site.state.contexts.get? c = some k ∧
      config.frameEncoding.IsUsable ∧ (∃ stream, flow? k stream config = some q.flow) ∧
      (site.after e).state.peers.get? h = some q := by
  cases e with
  | machine change => exact absurd hopens Bool.false_ne_true
  | settle h₁ => exact absurd hopens Bool.false_ne_true
  | request r =>
    cases r with
    | peerOpen c config =>
      have hok : (site.openPeer c config).1.toOption = some h := of_decide_eq_true hopens
      have hafter : site.after (.request (.peerOpen c config)) = (site.openPeer c config).2 := rfl
      rw [hafter]
      -- Each check that refuses gives no handle, so all of them were passed.
      unfold openPeer at hok ⊢
      cases hk : site.state.contexts.get? c with
      | none =>
        rw [hk] at hok
        exact absurd hok (Option.some_ne_none h).symm
      | some k =>
        rw [hk] at hok
        dsimp only at hok ⊢
        by_cases hvalid : config.frameEncoding.isValid = false
        · rw [if_pos hvalid] at hok
          exact absurd hok (Option.some_ne_none h).symm
        · have husable : config.frameEncoding.IsUsable :=
            (MediaEncoding.isValid_iff _).mp (Bool.not_eq_false _ ▸ hvalid)
          rw [if_neg hvalid] at hok ⊢
          cases hflow : flow? k (site.machine.draw).1 config with
          | none =>
            rw [hflow] at hok
            exact absurd hok (Option.some_ne_none h).symm
          | some flow =>
            rw [hflow] at hok
            obtain rfl := Option.some.inj hok
            exact ⟨c, config, k, _, rfl, hk, husable, ⟨_, hflow⟩, Table.get?_insert_self _ _ _⟩
    | _ => exact absurd hopens Bool.false_ne_true

/-! ## The sizes of packets -/

/-- The samples of a packet: as many as are wanted, or as many whole frames as fit. -/
def samplesSent (context : ContextConfig) (config : SenderConfig) : Nat :=
  min (samplesWanted config) (Packet.maxSamples context.packetSize /
    config.frameEncoding.channelCount * config.frameEncoding.channelCount)

/-- A stream has the size that comes from what was configured. -/
structure IsSizedBy (context : ContextConfig) (config : SenderConfig) (p : Packetizer) : Prop where
  valid : context.isValid = true
  usable : config.frameEncoding.IsUsable
  size : p.size = samplesSent context config
  frames : config.frameEncoding.channelCount ∣ p.size
  fits : 16 + 4 * p.size ≤ context.packetSize

/-- A sender is sized by its own configuration and that of its context. -/
theorem isSizedBy_of_flow? {k : ContextState} {context : ContextConfig} {config : SenderConfig}
    {number stream : UInt32} {fec : FecEncoding} {p : Packetizer} (hcontext : context.isValid = true)
    (hsize : k.packetSize = context.packetSize) (husable : config.frameEncoding.IsUsable)
    (hflow : flow? k number (.sender config) = some (.sending fec stream p)) :
    IsSizedBy context config p := by
  have hchannels : 0 < config.frameEncoding.channelCount :=
    MediaEncoding.channelCount_pos ((MediaEncoding.isValid_iff _).mpr husable)
  have hsized : (Flow.sending fec stream p).IsSized config.frameEncoding.channelCount
      k.packetSize := isSized_of_flow? (by exact hchannels) hflow
  obtain ⟨-, hframes, hfits⟩ := hsized
  have hsamples : packetSamples? k config = some p.size := by
    obtain ⟨n, hn, hflow⟩ := Option.bind_eq_some_iff.mp hflow
    obtain ⟨p', hp', hflow⟩ := Option.bind_eq_some_iff.mp hflow
    obtain ⟨-, -, rfl⟩ := Flow.sending.inj (Option.some.inj hflow)
    rw [packetizer?, dif_pos (pos_of_packetSamples? hn)] at hp'
    rw [hn, ← Option.some.inj hp']
  obtain ⟨-, hsize'⟩ := (packetSamples?_eq_some_iff hchannels p.size).mp hsamples
  rw [hsize] at hfits hsize'
  exact ⟨hcontext, husable, hsize', hframes, hfits⟩

/-! ## Runs -/

/-- The contexts and streams of an engine are what they were opened with. -/
structure Openings.Explains (o : Openings) (site : Site) : Prop where
  contexts : ∀ c k, site.state.contexts.get? c = some k →
    ∃ context, o.contexts c = some context ∧ context.isValid = true ∧
      k.packetSize = context.packetSize
  senders : ∀ h fec stream p, IsSending site.state.peers h fec stream p →
    ∃ context config, o.senders h = some (context, config) ∧ IsSizedBy context config p

namespace Openings.Explains

variable {o : Openings} {site : Site}

theorem start (machine : Machine) : Openings.start.Explains { machine } where
  contexts _ _ hk := absurd hk nofun
  senders := by
    rintro h fec stream p ⟨q, hq, -⟩
    exact absurd hq nofun

/-- What is written down of the contexts explains them after any event. -/
theorem contexts_after (ho : o.Explains site) (e : Happening) {c : ContextHandle}
    {k' : ContextState} (hk' : (site.after e).state.contexts.get? c = some k') :
    ∃ context, (o.after site e).contexts c = some context ∧ context.isValid = true ∧
      k'.packetSize = context.packetSize := by
  cases site.remains_after e hk' with
  | opened config hopened hvalid hsize =>
    exact ⟨config, by rw [Openings.contexts_after, hopened, Option.some_or], hvalid, hsize⟩
  | went k hopened hk hsize =>
    obtain ⟨context, hcontext, hvalid, hsize'⟩ := ho.contexts c k hk
    refine ⟨context, ?_, hvalid, hsize.trans hsize'⟩
    rw [Openings.contexts_after, hopened, Option.none_or, hcontext]

/-- What opens no peer opens no sender. -/
theorem senderOpened?_of_not_opens {h : PeerHandle} {e : Happening}
    (hopens : site.opens h e = false) : site.senderOpened? h e = none := by
  unfold Site.senderOpened?
  split
  · exact if_neg (of_decide_eq_false hopens)
  · rfl

/-- What is written down of the senders explains them after any event. -/
theorem senders_after (ho : o.Explains site) (e : Happening) {h : PeerHandle} {fec : FecEncoding}
    {stream : UInt32} {p' : Packetizer}
    (hsending : IsSending (site.after e).state.peers h fec stream p') :
    ∃ context config, (o.after site e).senders h = some (context, config) ∧
      IsSizedBy context config p' := by
  -- A stream that goes on keeps its size; one that begins has the size of what was opened.
  cases site.streams_after e hsending with
  | went p hopens hsending hp' =>
    obtain ⟨context, config, hopened, hsized⟩ := ho.senders h fec stream p hsending
    have hsize : p'.size = p.size := by
      rw [hp']
      exact p.size_pushAll _
    refine ⟨context, config, ?_, hsized.valid, hsized.usable, hsize ▸ hsized.size,
      hsize ▸ hsized.frames, hsize ▸ hsized.fits⟩
    rw [Openings.senders_after_of_not_opened (senderOpened?_of_not_opens hopens), hopened]
  | opened hopens _ =>
    obtain ⟨c, config, k, q, rfl, hk, husable, ⟨number, hflow⟩, hq⟩ := Site.exists_of_opens hopens
    obtain ⟨q', hq', hsending⟩ := hsending
    obtain rfl := Option.some.inj (hq.symm.trans hq')
    cases config with
    | receiver config =>
      obtain ⟨playout, hreceiving, -⟩ := exists_of_flow?_receiver hflow
      rw [hreceiving] at hsending
      exact absurd hsending nofun
    | sender config =>
      obtain ⟨context, hcontext, hvalid, hsize⟩ := ho.contexts c k hk
      rw [hsending] at hflow
      have hopened : site.senderOpened? h (.request (.peerOpen c (.sender config))) =
          some (c, config) := if_pos (of_decide_eq_true hopens)
      refine ⟨context, config, ?_, isSizedBy_of_flow? hvalid hsize husable hflow⟩
      rw [Openings.senders_after_of_opened hopened, hcontext, Option.map_some]

/-- The book explains a site after any event. -/
theorem after (ho : o.Explains site) (e : Happening) :
    (o.after site e).Explains (site.after e) where
  contexts _ _ hk' := ho.contexts_after e hk'
  senders _ _ _ _ hsending := ho.senders_after e hsending

/-- The book explains a site after a run. -/
theorem afterAll (ho : o.Explains site) (events : List Happening) :
    (o.afterAll events site).Explains (site.afterAll events) := by
  induction events generalizing o site with
  | nil => exact ho
  | cons e events ih => exact ih (ho.after e)

end Openings.Explains

/-! ## What is handed to sockets -/

end Loopback
end AudioLink
