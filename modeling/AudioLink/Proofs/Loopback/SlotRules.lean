import AudioLink.Proofs.Loopback.SlotSteps

/-
The rules of slots.

Once an operation on a slot has failed, every other one fails and changes nothing, until the slot is
unlinked. Until then an interface is linked at most once, and what it was configured with and linked
to stays. These are statements about two moments of a run, and both are instances of one: what holds
of a slot, and is not lost when a slot breaks or another interface is worked on, holds for as long as
the slot is not renewed. A slot is renewed if it is unlinked, or if its handle is given to another
peer.
-/
set_option autoImplicit false

namespace AudioLink.Loopback

/-! ## What lasts -/

/-- Whether a slot is made anew by this: it is unlinked, or a peer is opened under the handle. -/
def Site.renews (site : Site) (h : PeerHandle) (slot : Slot) (e : Happening) : Bool :=
  site.unlinks h slot e || site.opens h e

/-- Whether a slot is made anew in a run. -/
def renewed (h : PeerHandle) (slot : Slot) : List Happening → Site → Bool
  | [], _ => false
  | e :: events, site => site.renews h slot e || renewed h slot events (site.after e)

/-- The peer with this handle, if there is one, has a slot of which something holds. -/
def Site.HasSlot (site : Site) (h : PeerHandle) (slot : Slot) (good : SlotState → Prop) : Prop :=
  ∀ q, site.state.peers.get? h = some q → ∃ s, q.slots.get? slot = some s ∧ good s

/-- What is true of a slot remains so when the slot breaks, and when an interface that is not linked
is worked on. -/
structure Lasting (good : SlotState → Prop) : Prop where
  spoil : ∀ s : SlotState, s.broken = false → good s → good s.spoil
  edit : ∀ fec? i isLink (s s' : SlotState), s.broken = false → s.links.get? i = none →
    SlotEdit fec? i s isLink s' → good s → good s'

section Lasting

variable {site : Site} {h : PeerHandle} {slot : Slot} {q : PeerState}

/-- What is not true of a slot that nothing has been done with is true only of a slot that is there.
-/
theorem exists_of_slot (good : SlotState → Prop) (hfresh : ¬ good .fresh) (hgood : good (q.slot slot)) :
    ∃ s, q.slots.get? slot = some s ∧ good s := by
  rw [PeerState.slot] at hgood
  cases hslot : q.slots.get? slot with
  | none =>
    rw [hslot] at hgood
    exact absurd hgood hfresh
  | some s =>
    rw [hslot] at hgood
    exact ⟨s, rfl, hgood⟩

theorem slot_of_get? {s : SlotState} (hs : q.slots.get? slot = some s) : q.slot slot = s := by
  rw [PeerState.slot, hs, Option.getD_some]

variable {good : SlotState → Prop}

/-- What lasts in a slot lasts through every step that does not take the slot down. -/
theorem SlotsStep.lasting {e : Happening} {slots : Table Slot SlotState} {s : SlotState}
    (hgood : Lasting good) (hstep : SlotsStep site h q e slots)
    (hunlinks : site.unlinks h slot e = false) (hs : q.slots.get? slot = some s) (hslot : good s) :
    ∃ s', slots.get? slot = some s' ∧ good s' := by
  -- Work on another slot leaves this one alone.
  have hinsert (other : Slot) (s' : SlotState) (hs' : other = slot → good s') :
      ∃ s'', (q.slots.insert other s').get? slot = some s'' ∧ good s'' := by
    by_cases hother : slot = other
    · refine ⟨s', ?_, hs' hother.symm⟩
      rw [hother, Table.get?_insert_self]
    · refine ⟨s, ?_, hslot⟩
      rw [Table.get?_insert_of_ne _ _ hother, hs]
  cases hstep with
  | still => exact ⟨s, hs, hslot⟩
  | spoiled other hwhole =>
    refine hinsert other _ ?_
    rintro rfl
    rw [slot_of_get? hs] at hwhole ⊢
    exact hgood.spoil s hwhole hslot
  | edited other i isLink s' hwhole hfree hedit =>
    refine hinsert other s' ?_
    rintro rfl
    rw [slot_of_get? hs] at hwhole hfree hedit
    exact hgood.edit _ i isLink s s' hwhole hfree hedit hslot
  | unlinked other hother =>
    have hne : slot ≠ other := by
      rintro rfl
      exact Bool.false_ne_true (hunlinks.symm.trans hother)
    refine ⟨s, ?_, hslot⟩
    rw [Table.get?_erase_of_ne _ hne, hs]

/-- A slot keeps what lasts through an event that does not renew it. -/
theorem Site.HasSlot.after (hgood : Lasting good) (hsite : site.HasSlot h slot good) {e : Happening}
    (hrenews : site.renews h slot e = false) : (site.after e).HasSlot h slot good := by
  obtain ⟨hunlinks, hopens⟩ := Bool.or_eq_false_iff.mp hrenews
  intro q' hq'
  cases site.peerStep_after e hq' with
  | opened hopened => exact absurd (hopens.symm.trans hopened) Bool.false_ne_true
  | stepped q hq hfec hstep =>
    obtain ⟨s, hs, hslot⟩ := hsite q hq
    exact hstep.lasting hgood hunlinks hs hslot

/-- What lasts is kept until the slot is renewed. -/
theorem Site.HasSlot.afterAll (hgood : Lasting good) (hsite : site.HasSlot h slot good)
    (events : List Happening) (hrenewed : renewed h slot events site = false) :
    (site.afterAll events).HasSlot h slot good := by
  induction events generalizing site with
  | nil => exact hsite
  | cons e events ih =>
    obtain ⟨hrenews, hrest⟩ := Bool.or_eq_false_iff.mp hrenewed
    exact ih (hsite.after hgood hrenews) hrest

end Lasting

/-! ## Broken slots -/

/-- A broken slot stays broken. -/
theorem lasting_broken : Lasting (fun s => s.broken = true) where
  spoil _ _ _ := rfl
  edit _ _ _ _ _ hwhole _ _ hbroken := absurd (hwhole.symm.trans hbroken) Bool.false_ne_true

/-- A broken slot refuses whatever is asked, and nothing changes. -/
theorem refused_of_broken {site : Site} {h : PeerHandle} {slot : Slot}
    (hbroken : site.HasSlot h slot (fun s => s.broken = true)) {r : Request} {i : Interface}
    (hr : r.worksOn? = some (h, slot, i)) : ∃ code, engine r site = (.error code, site) := by
  have hbroken_slot {q : PeerState} (hq : site.state.peers.get? h = some q) :
      (q.slot slot).broken = true := by
    obtain ⟨s, hs, hs_broken⟩ := hbroken q hq
    rw [slot_of_get? hs, hs_broken]
  have hresult := slotResult_engine site hr
  generalize engine r site = result at hresult
  cases hresult with
  | unknown | unfit | broken => exact ⟨_, rfl⟩
  | spoiled hq hfit hwhole | done hq hfit hwhole =>
    exact absurd (hwhole.symm.trans (hbroken_slot hq)) Bool.false_ne_true

/-! ## Linked interfaces -/

/-- An interface of a slot has this link, and these options. -/
def IsLinked (i : Interface) (link : Link) (config? : Option InterfaceConfig) (s : SlotState) :
    Prop :=
  s.links.get? i = some link ∧ s.configs.get? i = config?

/-- A link stays, with the options that the interface had. -/
theorem lasting_isLinked (i : Interface) (link : Link) (config? : Option InterfaceConfig) :
    Lasting (IsLinked i link config?) where
  spoil _ _ hlinked := hlinked
  edit fec? j isLink s s' _ hfree hedit hlinked := by
    -- The interface that is worked on is another one, because it is free.
    have hother : i ≠ j := by
      rintro rfl
      exact absurd (hfree.symm.trans hlinked.1) nofun
    cases hedit with
    | configured config =>
      refine ⟨hlinked.1, ?_⟩
      rw [PerInterface.get?_set, if_neg hother, hlinked.2]
    | linked link' hpermits =>
      refine ⟨?_, hlinked.2⟩
      rw [PerInterface.get?_set, if_neg hother, hlinked.1]

/-- Whether an interface is linked by this. -/
def Site.links (site : Site) (h : PeerHandle) (slot : Slot) (i : Interface) : Happening → Bool
  | .request r =>
    r.isLink && decide (r.worksOn? = some (h, slot, i)) && (engine r site).1.failure?.isNone
  | .machine _ | .settle _ => false

/-- How often an interface is linked in a run. -/
def linkings (h : PeerHandle) (slot : Slot) (i : Interface) : List Happening → Site → Nat
  | [], _ => 0
  | e :: events, site => (site.links h slot i e).toNat + linkings h slot i events (site.after e)

section Links

variable {site : Site} {h : PeerHandle} {slot : Slot} {i : Interface} {link : Link}
  {config? : Option InterfaceConfig} {e : Happening}

/-- An interface that is linked can be neither configured nor linked. -/
theorem failed_of_isLinked (hlinked : site.HasSlot h slot (IsLinked i link config?)) {r : Request}
    (hr : r.worksOn? = some (h, slot, i)) : ∃ code, (engine r site).1 = .error code := by
  have hresult := slotResult_engine site hr
  generalize engine r site = result at hresult
  cases hresult with
  | unknown | unfit | broken | spoiled => exact ⟨_, rfl⟩
  | done hq hfit hwhole hfree =>
    obtain ⟨s, hs, hs_linked, -⟩ := hlinked _ hq
    rw [slot_of_get? hs, hs_linked] at hfree
    exact absurd hfree nofun

/-- A linked interface is not linked again. -/
theorem links_eq_false_of_isLinked (hlinked : site.HasSlot h slot (IsLinked i link config?)) :
    site.links h slot i e = false := by
  cases e with
  | machine change => rfl
  | settle h => rfl
  | request r =>
    rw [Site.links]
    by_cases hr : r.worksOn? = some (h, slot, i)
    · obtain ⟨code, hcode⟩ := failed_of_isLinked hlinked hr
      rw [hcode]
      exact Bool.and_false _
    · rw [decide_eq_false hr, Bool.and_false, Bool.false_and]

/-- After an interface has been linked it is linked. -/
theorem isLinked_of_links (hlinks : site.links h slot i e = true) :
    ∃ link config?, (site.after e).HasSlot h slot (IsLinked i link config?) := by
  cases e with
  | machine change => exact absurd hlinks Bool.false_ne_true
  | settle h => exact absurd hlinks Bool.false_ne_true
  | request r =>
    rw [Site.links, Bool.and_eq_true, Bool.and_eq_true, decide_eq_true_eq] at hlinks
    obtain ⟨⟨hlink, hr⟩, hanswer⟩ := hlinks
    have hresult := slotResult_engine site hr
    rw [Site.after]
    generalize engine r site = result at hanswer hresult ⊢
    cases hresult with
    | unknown | unfit | broken | spoiled => exact absurd hanswer Bool.false_ne_true
    | @done q hq hfit hwhole hfree a machine s hedit =>
      rw [hlink] at hedit
      cases hedit with
      | linked link hpermits =>
        refine ⟨link, (q.slot slot).configs.get? i, fun q' hq' => ?_⟩
        obtain rfl := Option.some.inj ((Table.get?_insert_self _ _ _).symm.trans hq')
        refine ⟨_, Table.get?_insert_self _ _ _, ?_, rfl⟩
        rw [PerInterface.get?_set, if_pos rfl]

/-- A linked interface is not linked again in a run, while its slot is not renewed. -/
theorem linkings_eq_zero (hlinked : site.HasSlot h slot (IsLinked i link config?))
    (events : List Happening) (hrenewed : renewed h slot events site = false) :
    linkings h slot i events site = 0 := by
  induction events generalizing site with
  | nil => rfl
  | cons e events ih =>
    obtain ⟨hrenews, hrest⟩ := Bool.or_eq_false_iff.mp hrenewed
    rw [linkings, links_eq_false_of_isLinked hlinked,
      ih (hlinked.after (lasting_isLinked i link config?) hrenews) hrest]
    rfl

/-- An interface is linked at most once until its slot is renewed. -/
theorem linkings_le_one (h : PeerHandle) (slot : Slot) (i : Interface) (events : List Happening)
    (site : Site) (hrenewed : renewed h slot events site = false) :
    linkings h slot i events site ≤ 1 := by
  induction events generalizing site with
  | nil => exact Nat.zero_le 1
  | cons e events ih =>
    obtain ⟨hrenews, hrest⟩ := Bool.or_eq_false_iff.mp hrenewed
    rw [linkings]
    cases hlinks : site.links h slot i e with
    | false =>
      rw [Bool.toNat_false, Nat.zero_add]
      exact ih _ hrest
    | true =>
      obtain ⟨link, config?, hlinked⟩ := isLinked_of_links hlinks
      rw [linkings_eq_zero hlinked events hrest]
      exact Nat.le_refl 1

end Links

/-! ## Links that a peer may have -/

/-- All links of all peers are such as the peers may have. -/
def Site.Permitted (site : Site) : Prop :=
  ∀ h q, site.state.peers.get? h = some q → ∀ slot s, q.slots.get? slot = some s →
    ∀ i link, s.links.get? i = some link → Permits q.flow.fec? i link

/-- An edit puts no link where there may be none. -/
theorem SlotEdit.permitted {fec? : Option FecEncoding} {i : Interface} {isLink : Bool}
    {s s' : SlotState} (hedit : SlotEdit fec? i s isLink s')
    (hs : ∀ j link, s.links.get? j = some link → Permits fec? j link) (j : Interface) (link : Link)
    (hlink : s'.links.get? j = some link) : Permits fec? j link := by
  cases hedit with
  | configured config => exact hs j link hlink
  | linked new hpermits =>
    rw [PerInterface.get?_set] at hlink
    by_cases hj : j = i
    · rw [if_pos hj] at hlink
      obtain rfl := Option.some.inj hlink
      rwa [hj]
    · rw [if_neg hj] at hlink
      exact hs j link hlink

/-- No event puts a link where there may be none. -/
theorem Site.Permitted.after {site : Site} (hsite : site.Permitted) (e : Happening) :
    (site.after e).Permitted := by
  intro h q' hq' slot s' hs'
  cases site.peerStep_after e hq' with
  | opened hopens hslots =>
    rw [hslots] at hs'
    exact absurd hs' nofun
  | stepped q hq hfec hstep =>
    rw [hfec]
    have hbefore := hsite h q hq
    -- A slot that the peer does not have yet has no links.
    have hslot (other : Slot) (i : Interface) (link : Link)
        (hlink : (q.slot other).links.get? i = some link) : Permits q.flow.fec? i link := by
      have hlinked : ¬ (SlotState.fresh.links.get? i = some link) := by
        rw [SlotState.fresh, PerInterface.get?_empty]
        nofun
      obtain ⟨s, hs, hs_link⟩ :=
        exists_of_slot (fun s : SlotState => s.links.get? i = some link) hlinked hlink
      exact hbefore other s hs i link hs_link
    generalize q'.slots = slots at hstep hs'
    cases hstep with
    | still => exact hbefore slot s' hs'
    | spoiled other hwhole =>
      rcases Table.get?_insert_cases hs' with ⟨-, rfl⟩ | ⟨-, hs'⟩
      · exact hslot other
      · exact hbefore slot s' hs'
    | edited other i isLink s hwhole hfree hedit =>
      rcases Table.get?_insert_cases hs' with ⟨-, rfl⟩ | ⟨-, hs'⟩
      · exact hedit.permitted (hslot other)
      · exact hbefore slot s' hs'
    | unlinked other hunlinks => exact hbefore slot s' (Table.get?_of_get?_erase hs').2

/-- No run puts a link where there may be none. -/
theorem Site.Permitted.afterAll {site : Site} (hsite : site.Permitted) (events : List Happening) :
    (site.afterAll events).Permitted := by
  induction events generalizing site with
  | nil => exact hsite
  | cons e events ih => exact ih (hsite.after e)

/-! ## The rules -/

/-- What the requests that work on a slot, and the one that takes it down, do on a site. -/
structure Site.SlotRules (site : Site) : Prop where
  /-- A broken slot is refused, and stays as it is. -/
  broken : ∀ r h slot i q, Request.worksOn? r = some (h, slot, i) →
    site.state.peers.get? h = some q → (q.slot slot).broken = true →
      ∃ code, engine r site = (.error code, site)
  /-- A failure on another slot breaks this slot, whether it was there or not, and does nothing
  else. -/
  breaks : ∀ r h slot i q code, Request.worksOn? r = some (h, slot, i) →
    site.state.peers.get? h = some q → q.flow.takes r = true → (q.slot slot).broken = false →
      (engine r site).1 = .error code →
        (engine r site).2 = site.setSlot h q slot { q.slot slot with broken := true }
  /-- A receiver is not connected and a sender is not bound, nor is anything done without a peer. -/
  unfit : ∀ r h slot i, Request.worksOn? r = some (h, slot, i) →
    (∀ q, site.state.peers.get? h = some q → q.flow.takes r = false) →
      ∃ code, engine r site = (.error code, site)
  /-- A slot that is there is taken down whole. -/
  unlinked : ∀ h slot q, site.state.peers.get? h = some q → q.slots.get? slot ≠ none →
    (site.unlink h slot).1 = .ok () ∧ ∃ flow, (site.unlink h slot).2.state = { site.state with
      peers := site.state.peers.insert h { q with slots := q.slots.erase slot, flow } }
  /-- No other slot can be unlinked. -/
  unknown : ∀ h slot, (∀ q, site.state.peers.get? h = some q → q.slots.get? slot = none) →
    site.unlink h slot = (.error .notFound, site)

theorem Site.slotRules (site : Site) : site.SlotRules where
  broken r h slot i q hr hq hbroken := by
    refine refused_of_broken (fun q' hq' => ?_) hr
    obtain rfl := Option.some.inj (hq.symm.trans hq')
    exact exists_of_slot (fun s : SlotState => s.broken = true) Bool.false_ne_true hbroken
  breaks r h slot i q code hr hq hfit hwhole hcode := by
    have hresult := slotResult_engine site hr
    -- Of the cases that there are, only one is a failure of a peer that takes the request, on a
    -- whole slot.
    generalize engine r site = result at hcode hresult ⊢
    cases hresult with
    | unknown hnone => exact absurd (hq.symm.trans hnone) nofun
    | unfit hq' hunfit =>
      obtain rfl := Option.some.inj (hq.symm.trans hq')
      exact absurd (hunfit.symm.trans hfit) Bool.false_ne_true
    | broken hq' hfit hbroken =>
      obtain rfl := Option.some.inj (hq.symm.trans hq')
      exact absurd (hwhole.symm.trans hbroken) Bool.false_ne_true
    | spoiled hq' =>
      obtain rfl := Option.some.inj (hq.symm.trans hq')
      rfl
    | done => exact absurd hcode nofun
  unfit r h slot i hr hunfit := by
    have hresult := slotResult_engine site hr
    generalize engine r site = result at hresult
    cases hresult with
    | unknown | unfit | broken => exact ⟨_, rfl⟩
    | spoiled hq hfit | done hq hfit =>
      exact absurd ((hunfit _ hq).symm.trans hfit) Bool.false_ne_true
  unlinked h slot q hq hslot := by
    rcases unlink_eq site h slot with ⟨q', flow, machine, hq', -, hunlink⟩ | ⟨hnone, -⟩
    · obtain rfl := Option.some.inj (hq.symm.trans hq')
      rw [hunlink]
      exact ⟨rfl, flow, rfl⟩
    · exact absurd (hnone q hq) hslot
  unknown h slot hnone := by
    rcases unlink_eq site h slot with ⟨q, flow, machine, hq, hslot, -⟩ | ⟨-, hunlink⟩
    · exact absurd (hnone q hq) hslot
    · exact hunlink

/-- What holds at `site` of a slot that has not been renewed since `before`, with `linkings` counting
how often an interface has been linked since then. -/
structure Site.KeepsSlot (before site : Site) (h : PeerHandle) (slot : Slot)
    (linkings : Interface → Nat) : Prop where
  broken : ∀ q, before.state.peers.get? h = some q → (q.slot slot).broken = true →
    ∀ r i, Request.worksOn? r = some (h, slot, i) → ∃ code, engine r site = (.error code, site)
  /-- What an interface is linked to stays, and so do its options. -/
  linked : ∀ q i link, before.state.peers.get? h = some q →
    (q.slot slot).links.get? i = some link → ∀ q', site.state.peers.get? h = some q' →
      (q'.slot slot).links.get? i = some link ∧
        (q'.slot slot).configs.get? i = (q.slot slot).configs.get? i
  once : ∀ i, linkings i ≤ 1

/-- A slot keeps its links and stays broken through a run that does not renew it. -/
theorem Site.keepsSlot_afterAll (before : Site) (events : List Happening) (h : PeerHandle)
    (slot : Slot) (hrenewed : renewed h slot events before = false) :
    before.KeepsSlot (before.afterAll events) h slot (linkings h slot · events before) where
  broken q hq hbroken r i hr := by
    have hsite : before.HasSlot h slot (fun s => s.broken = true) := by
      intro q' hq'
      obtain rfl := Option.some.inj (hq.symm.trans hq')
      exact exists_of_slot (fun s : SlotState => s.broken = true) Bool.false_ne_true hbroken
    exact refused_of_broken (hsite.afterAll lasting_broken events hrenewed) hr
  linked q i link hq hlink q' hq' := by
    have hsite : before.HasSlot h slot (IsLinked i link ((q.slot slot).configs.get? i)) := by
      intro q₁ hq₁
      obtain rfl := Option.some.inj (hq.symm.trans hq₁)
      refine exists_of_slot _ (fun hfresh => ?_) ⟨hlink, rfl⟩
      rw [IsLinked, SlotState.fresh, PerInterface.get?_empty] at hfresh
      exact absurd hfresh.1 nofun
    obtain ⟨s, hs, hlinked⟩ := hsite.afterAll (lasting_isLinked i link _) events hrenewed q' hq'
    rw [slot_of_get? hs]
    exact hlinked
  once i := linkings_le_one h slot i events before hrenewed

/-- In every run of an engine, the requests that work on slots keep to the rules, each peer has only
such links as its kind allows, and whatever happens to a slot between two moments without renewing it,
a broken slot stays broken and a linked interface stays as it is. -/
theorem slots_ruled (machine : Machine) (events : List Happening) :
    let site := ({ machine } : Site).afterAll events
    site.SlotRules ∧ site.Permitted ∧
      ∀ earlier later, events = earlier ++ later → ∀ h slot,
        let before := ({ machine } : Site).afterAll earlier
        renewed h slot later before = false →
          before.KeepsSlot site h slot (linkings h slot · later before) := by
  intro site
  have hstart : ({ machine } : Site).Permitted := nofun
  refine ⟨site.slotRules, hstart.afterAll events, fun earlier later hsplit h slot hrenewed => ?_⟩
  have hsite : site = (({ machine } : Site).afterAll earlier).afterAll later := by
    rw [← Site.afterAll_append, ← hsplit]
  rw [hsite]
  exact Site.keepsSlot_afterAll _ later h slot hrenewed

/-- An interface of a receiver is bound to a host that has to be looked up, and then configured, which
breaks its slot. -/
def boundThenConfigured : List Happening := [
  .request (.contextOpen {}),
  .request (.peerOpen ⟨1⟩ (.receiver { frameEncoding := .stereo 48000 })),
  .request (.bind ⟨2⟩ ⟨0⟩ .audioSource ⟨some .rtp, "localhost", 0, ""⟩),
  .request (.configure ⟨2⟩ ⟨0⟩ .audioSource {})]

/-- After that no other interface of the slot can be bound. -/
theorem slots_ruled_boundThenConfigured :
    let machine : Machine := { host := .selfContained, random := fun _ => 0 }
    let before := ({ machine } : Site).afterAll boundThenConfigured
    let site := ({ machine } : Site).afterAll (boundThenConfigured ++ [.settle ⟨2⟩])
    let r : Request := .bind ⟨2⟩ ⟨0⟩ .audioControl ⟨some .rtcp, "127.0.0.1", 0, ""⟩
    renewed ⟨2⟩ ⟨0⟩ [.settle ⟨2⟩] before = false ∧ ∃ code, engine r site = (.error code, site) := by
  intro machine before site r
  have hrenewed : renewed ⟨2⟩ ⟨0⟩ [.settle ⟨2⟩] before = false := by decide +kernel
  have hbroken : (before.state.peers.get? ⟨2⟩).map (fun q => (q.slot ⟨0⟩).broken) = some true := by
    decide +kernel
  obtain ⟨-, -, hkeeps⟩ := slots_ruled machine (boundThenConfigured ++ [.settle ⟨2⟩])
  have hkept : before.KeepsSlot site ⟨2⟩ ⟨0⟩ (linkings ⟨2⟩ ⟨0⟩ · [.settle ⟨2⟩] before) :=
    hkeeps boundThenConfigured [.settle ⟨2⟩] rfl ⟨2⟩ ⟨0⟩ hrenewed
  clear_value before site
  obtain ⟨q, hq, hbroken⟩ := Option.map_eq_some_iff.mp hbroken
  exact ⟨hrenewed, hkept.broken q hq hbroken r .audioControl rfl⟩

end AudioLink.Loopback
