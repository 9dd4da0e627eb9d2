import AudioLink.Proofs.Peer.Ending

/-
The slot table of a peer is the replay of its calls.

The engine is arbitrary and keeps a record of what it is asked; its answers may be anything, also
failure codes that break the contract. Whatever operations a peer performs, its table is what
`Ledger.replay` makes of the record, and each call in the record was admitted by what was noted of
the calls before it. What this says of two calls on one slot is drawn from three facts that last
until the slot is unlinked: that an interface is linked, that an interface is in use, and that the
slot is broken.
-/
set_option autoImplicit false

namespace AudioLink

/-! ## Runs -/

/-- A peer makes these calls, one after the other, and is another one in the end. -/
inductive Peer.Run : Peer → List Call → Peer → Prop where
  | nil (p : Peer) : Run p [] p
  | cons {h : PeerHandle} {c : Call} {calls : List Call} {p p' p'' : Peer}
      (first : p.Step h c p') (rest : Run p' calls p'') : Run p (c :: calls) p''

variable {σ : Type}

/-- Performs operations one after the other. -/
def PeerOp.runAll (engine : Engine σ) (ops : List PeerOp) (p : Peer) (s : σ) : Peer × σ :=
  ops.foldl (fun x op => op.run engine x.1 x.2) (p, s)

/-- What a recording engine notes while a peer performs operations is what the peer calls. -/
theorem PeerOp.run_runAll (engine : Engine σ) (ops : List PeerOp) (p : Peer) (s : Recorded σ) :
    ∃ made, (runAll engine.recorded ops p s).2.calls = s.calls ++ made ∧
      p.Run made (runAll engine.recorded ops p s).1 := by
  induction ops generalizing p s with
  | nil => exact ⟨[], (List.append_nil _).symm, .nil p⟩
  | cons op ops ih =>
    have hall : runAll engine.recorded (op :: ops) p s
        = runAll engine.recorded ops (op.run engine.recorded p s).1
            (op.run engine.recorded p s).2 := rfl
    rw [hall]
    obtain ⟨made, hcalls, hrun⟩ := ih (op.run engine.recorded p s).1 (op.run engine.recorded p s).2
    rcases op.moves_run engine.recorded p s with hsame | ⟨h, r, -, hstate, hstep⟩
    · rw [hsame] at hcalls hrun ⊢
      exact ⟨made, hcalls, hrun⟩
    · refine ⟨_ :: made, ?_, .cons hstep hrun⟩
      rw [hcalls, hstate, ← List.singleton_append, ← List.append_assoc]
      rfl

namespace Peer.Run

variable {p p' : Peer} {calls : List Call}

theorem ledger (hrun : p.Run calls p') :
    p'.slots.ledger = calls.foldl Ledger.after p.slots.ledger := by
  induction hrun with
  | nil p => rfl
  | cons first rest ih => rw [ih, first.ledger, List.foldl_cons]

/-- A run can be cut anywhere. -/
theorem of_append {a b : List Call} (hrun : p.Run (a ++ b) p') :
    ∃ q, p.Run a q ∧ q.Run b p' := by
  induction a generalizing p with
  | nil => exact ⟨p, .nil p, hrun⟩
  | cons c a ih =>
    cases hrun with
    | cons first rest =>
      obtain ⟨q, hbefore, hbehind⟩ := ih rest
      exact ⟨q, .cons first hbefore, hbehind⟩

/-- A closed peer calls nothing. -/
theorem of_closed (hrun : p.Run calls p') (hclosed : p.handle = none) : p' = p := by
  cases hrun with
  | nil => rfl
  | cons first rest => exact absurd (first.isOpen.symm.trans hclosed) nofun

/-- What every admitted call but an unlinking of the slot keeps, lasts until the slot is unlinked, as
long as the peer is open. -/
theorem lasts {P : Ledger → Prop} {slot : Slot}
    (hkeep : ∀ (l : Ledger) (c : Call), l.Admits c.request → ¬ c.Unlinks slot → ¬ c.ClosesPeer →
      P l → P (l.after c))
    (hrun : p.Run calls p') {h : PeerHandle} (hopen : p'.handle = some h)
    (hp : P p.slots.ledger) (hkept : ¬ ∃ c ∈ calls, c.Unlinks slot) : P p'.slots.ledger := by
  induction hrun with
  | nil => exact hp
  | @cons _ c calls q q' q'' first rest ih =>
    have hunlinks : ¬ c.Unlinks slot := fun hc => hkept ⟨c, List.mem_cons_self, hc⟩
    have hrest : ¬ ∃ d ∈ calls, d.Unlinks slot := fun ⟨d, hd, hunlinks⟩ =>
      hkept ⟨d, List.mem_cons_of_mem c hd, hunlinks⟩
    rcases first.handle with ⟨hcloses, -⟩ | ⟨-, hclosed⟩
    · refine ih hopen ?_ hrest
      rw [first.ledger]
      exact hkeep _ c first.admitted hunlinks hcloses hp
    · -- The peer would be closed from here on.
      rw [rest.of_closed hclosed, hclosed] at hopen
      exact absurd hopen nofun

end Peer.Run

/-! ## What lasts until a slot is unlinked -/

namespace Ledger

variable {l : Ledger} {c : Call} {slot : Slot} {i : Interface}

/-- A slot that is not taken down is left as it is, or a call on one of its interfaces is noted. -/
theorem view_after (hunlinks : ¬ c.Unlinks slot) (hcloses : ¬ c.ClosesPeer) :
    (l.after c).view slot = l.view slot ∨
      ∃ j state, c.request.Touches slot j ∧ l.after c = l.note slot j state c.failure := by
  rcases l.after_cases c with ⟨other, j, state, htouches, hafter⟩ | ⟨other, hother, hafter⟩ |
    ⟨hclosed, -⟩ | hafter
  · by_cases hslot : slot = other
    · subst hslot
      exact .inr ⟨j, state, htouches, hafter⟩
    · exact .inl (by rw [hafter, view_note_of_ne l j state c.failure hslot])
  · have hslot : slot ≠ other := by
      rintro rfl
      exact hunlinks hother
    exact .inl (by rw [hafter, view_put_of_ne l none hslot])
  · exact absurd hclosed hcloses
  · exact .inl (by rw [hafter])

theorem linked_after (hadmits : l.Admits c.request) (hunlinks : ¬ c.Unlinks slot)
    (hcloses : ¬ c.ClosesPeer) (hlinked : (l.view slot).states i = some .linked) :
    ((l.after c).view slot).states i = some .linked := by
  rcases view_after hunlinks hcloses with hsame | ⟨j, state, htouches, hafter⟩
  · rw [hsame, hlinked]
  · have hne : i ≠ j := by
      rintro rfl
      exact (hadmits.usable htouches).unlinked hlinked
    rw [hafter, states_note, if_neg fun hnoted => hne hnoted.2.1, hlinked]

theorem used_after (hunlinks : ¬ c.Unlinks slot) (hcloses : ¬ c.ClosesPeer)
    (hused : (l.view slot).states i ≠ none) : ((l.after c).view slot).states i ≠ none := by
  rcases view_after hunlinks hcloses with hsame | ⟨j, state, -, hafter⟩
  · rw [hsame]
    exact hused
  · rw [hafter, states_note]
    by_cases hnoted : slot = slot ∧ i = j ∧ c.failure = none
    · rw [if_pos hnoted]
      exact nofun
    · rw [if_neg hnoted]
      exact hused

theorem broken_after (hunlinks : ¬ c.Unlinks slot) (hcloses : ¬ c.ClosesPeer)
    (hbroken : (l.view slot).broken = true) : ((l.after c).view slot).broken = true := by
  rcases view_after hunlinks hcloses with hsame | ⟨j, state, -, hafter⟩
  · rw [hsame, hbroken]
  · rw [hafter, broken_note, hbroken, ite_self]

end Ledger

/-! ## Two calls on one slot -/

namespace Peer.Run

variable {p p' : Peer} {a b d : List Call} {c₁ c₂ : Call} {slot : Slot} {i j : Interface}

/-- Of two calls in a run, the second is made in the state that the first has led to. -/
theorem of_two (hrun : p.Run (a ++ c₁ :: b ++ c₂ :: d) p') :
    ∃ q₁ q₂ q₃ : Peer, ∃ h, q₂.slots.ledger = q₁.slots.ledger.after c₁ ∧ q₂.Run b q₃ ∧
      q₃.handle = some h ∧ q₃.slots.ledger.Admits c₂.request := by
  obtain ⟨q₃, hbefore, hbehind⟩ := hrun.of_append
  obtain ⟨q₁, -, hfirst⟩ := hbefore.of_append
  cases hfirst with
  | cons first between =>
    cases hbehind with
    | cons second _ => exact ⟨q₁, _, q₃, _, first.ledger, between, second.isOpen, second.admitted⟩

/-- What the first of two calls brings about, what lasts until the slot is unlinked, and what keeps
the second from being made: then the slot has been unlinked between them. -/
theorem unlinked_between {P : Ledger → Prop}
    (hkeep : ∀ (l : Ledger) (c : Call), l.Admits c.request → ¬ c.Unlinks slot → ¬ c.ClosesPeer →
      P l → P (l.after c))
    (hfirst : ∀ l : Ledger, P (l.after c₁)) (hsecond : ∀ l : Ledger, l.Admits c₂.request → ¬ P l)
    (hrun : p.Run (a ++ c₁ :: b ++ c₂ :: d) p') : ∃ c ∈ b, c.Unlinks slot := by
  obtain ⟨q₁, q₂, q₃, h, hafter, hbetween, hopen, hadmits⟩ := hrun.of_two
  refine Classical.byContradiction fun hkept => hsecond _ hadmits ?_
  refine hbetween.lasts hkeep hopen ?_ hkept
  rw [hafter]
  exact hfirst _

/-- An interface that has been linked is neither linked nor configured again before its slot has been
unlinked. -/
theorem unlinked_of_links (hrun : p.Run (a ++ c₁ :: b ++ c₂ :: d) p')
    (hlinks : c₁.request.Links slot i) (hworked : c₁.failure = none)
    (htouches : c₂.request.Touches slot i) : ∃ c ∈ b, c.Unlinks slot := by
  refine unlinked_between (P := fun l => (l.view slot).states i = some .linked)
    (fun _ _ hadmits hunlinks hcloses => Ledger.linked_after hadmits hunlinks hcloses)
    (fun l => ?_) (fun l hadmits => (hadmits.usable htouches).unlinked) hrun
  obtain ⟨state, hstate, hnote⟩ := l.after_of_touches hlinks.touches
  rw [hnote, Ledger.states_note, if_pos ⟨rfl, rfl, hworked⟩, hstate hlinks]

/-- An interface that has been configured or linked keeps out the interfaces that exclude it, until
its slot has been unlinked. -/
theorem unlinked_of_excludes (hrun : p.Run (a ++ c₁ :: b ++ c₂ :: d) p')
    (huses : c₁.request.Touches slot i) (hworked : c₁.failure = none)
    (htouches : c₂.request.Touches slot j) (hexcludes : j.compatible i = false) :
    ∃ c ∈ b, c.Unlinks slot := by
  refine unlinked_between (P := fun l => (l.view slot).states i ≠ none)
    (fun _ _ _ hunlinks hcloses => Ledger.used_after hunlinks hcloses)
    (fun l => ?_) (fun l hadmits hused => ?_) hrun
  · obtain ⟨state, -, hnote⟩ := l.after_of_touches huses
    rw [hnote, Ledger.states_note, if_pos ⟨rfl, rfl, hworked⟩]
    exact nofun
  · have hcompatible := (hadmits.usable htouches).compatible i hused
    rw [hexcludes] at hcompatible
    exact absurd hcompatible nofun

/-- A slot that has been broken is left alone until it has been unlinked. -/
theorem unlinked_of_refused (hrun : p.Run (a ++ c₁ :: b ++ c₂ :: d) p')
    (hon : c₁.request.Touches slot i) (hrefused : c₁.isRefused = true)
    (htouches : c₂.request.Touches slot j) : ∃ c ∈ b, c.Unlinks slot := by
  refine unlinked_between (P := fun l => (l.view slot).broken = true)
    (fun _ _ _ hunlinks hcloses => Ledger.broken_after hunlinks hcloses)
    (fun l => ?_) (fun l hadmits hbroken => ?_) hrun
  · obtain ⟨state, -, hnote⟩ := l.after_of_touches hon
    rw [hnote, Ledger.broken_note, if_pos ⟨rfl, hrefused⟩]
  · have hwhole := (hadmits.usable htouches).whole
    rw [hbroken] at hwhole
    exact absurd hwhole nofun

end Peer.Run

/-! ## The record of a peer -/

/-- Every call of a run is admitted by the calls before it. -/
theorem Peer.Run.admits {p p' : Peer} {a d : List Call} {c : Call}
    (hrun : p.Run (a ++ c :: d) p') :
    (a.foldl Ledger.after p.slots.ledger).Admits c.request := by
  obtain ⟨q, hbefore, hbehind⟩ := hrun.of_append
  cases hbehind with
  | cons first _ =>
    rw [← hbefore.ledger]
    exact first.admitted

/-- Whatever operations a peer performs on whatever engine, its slot table is the replay of the calls
it has made, and each of these was admitted by the ones before it. An operation that succeeds has made
its call, so no success is missing from the record. Two calls on one slot are made, the first of which
has linked the interface of the second, or has used an interface that excludes it, or was refused, only
if the slot has been unlinked between them. -/
theorem PeerOp.slots_eq_replay (engine : Engine σ) (kind : PeerKind) (h : PeerHandle) (s : σ)
    (ops : List PeerOp) :
    let result := runAll engine.recorded ops { kind, handle := some h } { inner := s }
    result.1.slots.ledger = Ledger.replay result.2.calls ∧
      (∀ before c behind, result.2.calls = before ++ c :: behind →
        (Ledger.replay before).Admits c.request) ∧
      (∀ earlier op later, ops = earlier ++ op :: later →
        let now := runAll engine.recorded earlier { kind, handle := some h } { inner := s }
        op.outcome engine.recorded now.1 now.2 = .ok () →
          (op.run engine.recorded now.1 now.2).2.calls =
            now.2.calls ++ (now.1.request? op).toList.map (⟨·, none⟩)) ∧
      ∀ a c₁ b c₂ d, result.2.calls = a ++ c₁ :: b ++ c₂ :: d → ∀ slot i j,
        c₁.request.Touches slot i → c₂.request.Touches slot j →
        (c₁.request.Links slot i ∧ c₁.failure = none ∧ j = i) ∨
          (c₁.failure = none ∧ j.compatible i = false) ∨ c₁.isRefused = true →
        ∃ c ∈ b, c.Unlinks slot := by
  intro result
  -- What the record holds are the calls of a run of the peer.
  obtain ⟨made, hcalls, hrun⟩ :=
    run_runAll engine ops { kind, handle := some h } ({ inner := s } : Recorded σ)
  have hcalls : result.2.calls = made := by rw [hcalls, List.nil_append]
  rw [hcalls]
  refine ⟨hrun.ledger, fun before c behind hmade => ?_, fun _ op _ _ => ?_, ?_⟩
  · rw [hmade] at hrun
    exact hrun.admits
  · intro now hok
    exact (op.ends_run engine.recorded now.1 now.2).calls_of_ok hok
  · intro a c₁ b c₂ d hmade slot i j hfirst hsecond hbars
    rw [hmade] at hrun
    rcases hbars with ⟨hlinks, hworked, rfl⟩ | ⟨hworked, hexcludes⟩ | hrefused
    · exact hrun.unlinked_of_links hlinks hworked hsecond
    · exact hrun.unlinked_of_excludes hfirst hworked hsecond hexcludes
    · exact hrun.unlinked_of_refused hfirst hrefused hsecond

/-- An engine that does everything for peers but bind repair interfaces. -/
def withoutRepair : Engine Unit := fun r s =>
  match r with
  | .bind _ _ .audioRepair _ => (.error .unsupported, s)
  | .bind _ _ _ endpoint => (.ok endpoint, s)
  | .read _ length => (.ok (List.replicate length 0), s)
  | .contextOpen _ | .peerOpen _ _ => (.error .notFound, s)
  | .registerEncoding _ _ _ | .contextClose _ | .peerClose _ | .configure _ _ _ _
  | .connect _ _ _ _ | .unlink _ _ | .write _ _ => (.ok (), s)

/-- An interface of a slot is configured and then bound, a second one is refused, and a third is not
even tried. -/
def spoiling : List PeerOp := [
  .configure ⟨3⟩ .audioSource {},
  .bind ⟨3⟩ .audioSource (some ⟨some .rtp, "127.0.0.1", 5000, ""⟩),
  .bind ⟨3⟩ .audioRepair (some ⟨some .rs8mRepair, "127.0.0.1", 5001, ""⟩),
  .configure ⟨3⟩ .audioControl {}]

/-- The slot becomes configured, linked and broken, one after the other. -/
theorem PeerOp.slots_eq_replay_spoiling :
    let after := fun n => (runAll withoutRepair.recorded (spoiling.take n)
      { kind := .receiver, handle := some ⟨1⟩ } { inner := () })
    let view := fun n => (after n).1.slots.ledger.view ⟨3⟩
    (after 4).2.calls.map (fun c => (c.request.call, c.failure)) =
        [(.peerConfigure, none), (.peerBind, none), (.peerBind, some .unsupported)] ∧
      ((view 1).states .audioSource = some .configured ∧ (view 1).broken = false) ∧
      ((view 2).states .audioSource = some .linked ∧ (view 2).broken = false) ∧
      (view 4).states .audioSource = some .linked ∧ (view 4).broken = true ∧
      (view 4).states .audioRepair = none ∧ (view 4).states .audioControl = none := by
  intro after view
  have hview (n : Nat) : view n = (Ledger.replay (after n).2.calls).view ⟨3⟩ := by
    obtain ⟨hledger, -⟩ := slots_eq_replay withoutRepair .receiver ⟨1⟩ () (spoiling.take n)
    exact congrArg (Ledger.view · ⟨3⟩) hledger
  rw [hview, hview, hview]
  decide +kernel

end AudioLink
