import AudioLink.Proofs.Loopback.Ledger
import AudioLink.Proofs.Loopback.Playback
import Mathlib.Algebra.Ring.Nat
import Mathlib.Data.List.Induction

/-
The queue of a receiver loses nothing but what it has to.

Two numbers are kept beside a receiver: all samples that it has accepted, in a row, and how many of
them have gone, either because they were played or because there was no room for them. The queue is
at all times what was accepted without what has gone. What `Playout.Holds` adds to this is why
playback starts when it does: as long as nothing is played, the queue is as long as all that was
accepted or full, and a full queue is longer than what playback waits for.
-/
set_option autoImplicit false

namespace AudioLink
namespace Playout

/-! ## What is counted -/

/-- The packets that are accepted in an event, each with the number of samples that are dropped for
it. Packets that arrive wait in the inbox, and are looked at before a frame is played or a slot is
taken down. -/
def takenBy (p : Playout) : Event → List (Packet × Nat)
  | .arrival _ _ => []
  | .read _ | .unlink _ => p.drained

/-- How many samples an event takes out of the queue to be played. -/
def playedBy (p : Playout) : Event → Nat
  | .read n => (p.drain.played n).length
  | _ => 0

/-- The samples of accepted packets in a row. -/
def samplesOf (taken : List (Packet × Nat)) : Frame := taken.flatMap fun x => x.1.samples

/-- Number of samples that are dropped for accepted packets. -/
def droppedOf (taken : List (Packet × Nat)) : Nat := (taken.map Prod.snd).sum

/-- All samples that are accepted in several events, in a row. -/
def accepted : Playout → List Event → Frame
  | _, [] => []
  | p, e :: events => samplesOf (p.takenBy e) ++ accepted (p.after e) events

/-- How many of the accepted samples have been dropped or played in several events. -/
def gone : Playout → List Event → Nat
  | _, [] => 0
  | p, e :: events => droppedOf (p.takenBy e) + p.playedBy e + gone (p.after e) events

/-- The last event adds the samples that it makes the receiver take. -/
theorem accepted_concat (p : Playout) (events : List Event) (e : Event) :
    p.accepted (events ++ [e]) = p.accepted events ++ samplesOf ((p.afterAll events).takenBy e) := by
  induction events generalizing p with
  | nil => exact List.append_nil _
  | cons first events ih =>
    rw [List.cons_append, accepted, ih, accepted, List.append_assoc]
    rfl

/-- The last event adds what it drops and what it plays. -/
theorem gone_concat (p : Playout) (events : List Event) (e : Event) :
    p.gone (events ++ [e]) = p.gone events +
      (droppedOf ((p.afterAll events).takenBy e) + (p.afterAll events).playedBy e) := by
  induction events generalizing p with
  | nil => exact Nat.add_comm _ _
  | cons first events ih =>
    rw [List.cons_append, gone, ih, gone]
    exact (Nat.add_assoc _ _ _).symm

/-! ## The invariant -/

/-- The queue is what was accepted without what has gone, and not longer than it may be. Before
playback, samples have gone only because the queue is full. -/
structure Holds (p : Playout) (a : Frame) (k : Nat) : Prop where
  queue : p.queue = a.drop k
  gone_le : k ≤ a.length
  room : p.queue.length ≤ p.capacity
  waiting : p.playing = false → p.queue.length = min a.length p.capacity

namespace Holds

variable {p : Playout} {a : Frame} {k : Nat}

/-- What was accepted is in the queue or gone. -/
theorem length_queue (hp : p.Holds a k) : p.queue.length + k = a.length := by
  have hle := hp.gone_le
  rw [hp.queue, List.length_drop]
  omega

/-- Accepting a packet adds its samples, and what is too much is gone. -/
theorem accept (hp : p.Holds a k) {slot : Slot} {x : Packet} (haccepts : p.accepts slot x = true) :
    (p.accept slot x).Holds (a ++ x.samples) (k + p.excess x.samples) := by
  have hlength := hp.length_queue
  have hroom := hp.room
  have hexcess : p.excess x.samples = p.queue.length + x.samples.length - p.capacity := by
    rw [excess, List.length_append]
  rw [accept_of_accepts haccepts]
  refine ⟨?_, ?_, ?_, fun hwaiting => ?_⟩
  · -- What is too much goes from the front, like what has gone before.
    show (p.queue ++ x.samples).drop (p.excess x.samples) = _
    rw [hp.queue, ← List.drop_append_of_le_length hp.gone_le, List.drop_drop]
  · rw [List.length_append, hexcess]
    omega
  · show ((p.queue ++ x.samples).drop (p.excess x.samples)).length ≤ p.capacity
    rw [List.length_drop, List.length_append, hexcess]
    omega
  · -- A queue that was full stays full, and no other loses anything before it is.
    show ((p.queue ++ x.samples).drop (p.excess x.samples)).length = min _ p.capacity
    have hbefore := hp.waiting hwaiting
    rw [List.length_drop, List.length_append, List.length_append, hexcess]
    omega

/-- Accepting several packets adds their samples, and what is too much is gone. -/
theorem takes (hp : p.Holds a k) (inbox : List (Slot × Packet)) :
    (inbox.foldl (fun p x => p.accept x.1 x.2) p).Holds (a ++ samplesOf (p.takes inbox))
      (k + droppedOf (p.takes inbox)) := by
  -- What was accepted and what has gone grow along the inbox, so both are any.
  induction inbox generalizing p a k with
  | nil =>
    rw [List.foldl_nil, Playout.takes, samplesOf, List.flatMap_nil, List.append_nil]
    exact hp
  | cons x inbox ih =>
    rw [List.foldl_cons, Playout.takes]
    cases haccepts : p.accepts x.1 x.2 with
    | true =>
      have hrest := ih (hp.accept haccepts)
      rw [List.append_assoc, Nat.add_assoc] at hrest
      exact hrest
    | false =>
      rw [accept_of_not_accepts haccepts]
      exact ih hp

/-- Taking what waits adds the samples of what is accepted, and what is too much is gone. -/
theorem drain (hp : p.Holds a k) :
    p.drain.Holds (a ++ samplesOf p.drained) (k + droppedOf p.drained) := by
  have hempty : ({ p with inbox := [] } : Playout).Holds a k :=
    ⟨hp.queue, hp.gone_le, hp.room, hp.waiting⟩
  exact hempty.takes p.inbox

/-- What is played goes from the front of the queue. -/
theorem play (hp : p.Holds a k) (n : Nat) :
    (p.play n).2.Holds a (k + (p.played n).length) := by
  have hlength := hp.length_queue
  have hroom := hp.room
  unfold Playout.play Playout.played
  by_cases hready : p.isReady = true
  · rw [if_pos hready, if_pos hready]
    have hqueue : p.queue.drop n = p.queue.drop (p.queue.take n).length := by
      rw [List.length_take]
      rcases Nat.le_total n p.queue.length with hle | hle
      · rw [Nat.min_eq_left hle]
      · rw [Nat.min_eq_right hle, List.drop_of_length_le hle, List.drop_length]
    refine ⟨?_, ?_, ?_, fun hwaiting => absurd hwaiting.symm Bool.false_ne_true⟩
    · show p.queue.drop n = _
      rw [hqueue, hp.queue, List.drop_drop]
    · rw [List.length_take]
      omega
    · show (p.queue.drop n).length ≤ p.capacity
      rw [List.length_drop]
      omega
  · rw [if_neg hready, if_neg hready]
    exact hp

/-- Every event keeps the count. -/
theorem after (hp : p.Holds a k) (e : Event) :
    (p.after e).Holds (a ++ samplesOf (p.takenBy e))
      (k + (droppedOf (p.takenBy e) + p.playedBy e)) := by
  cases e with
  | arrival slot x =>
    have hdelivered : (p.deliver slot x).Holds a k := by
      unfold Playout.deliver
      split
      · exact ⟨hp.queue, hp.gone_le, hp.room, hp.waiting⟩
      · exact hp
    rw [takenBy, samplesOf, List.flatMap_nil, List.append_nil]
    exact hdelivered
  | read n =>
    rw [← Nat.add_assoc]
    exact hp.drain.play n
  | unlink slot =>
    have hdrained := hp.drain
    exact ⟨hdrained.queue, hdrained.gone_le, hdrained.room, hdrained.waiting⟩

/-- The queue is conserved in any run. -/
theorem afterAll (hp : p.Holds a k) (events : List Event) :
    (p.afterAll events).Holds (a ++ p.accepted events) (k + p.gone events) := by
  induction events generalizing p a k with
  | nil =>
    rw [accepted, List.append_nil]
    exact hp
  | cons e events ih =>
    have hrest := ih (hp.after e)
    rw [List.append_assoc, Nat.add_assoc] at hrest
    exact hrest

end Holds

/-! ## What never changes, and when playback starts -/

/-- Accepting packets starts no playback. -/
theorem foldl_accept_playing (p : Playout) (inbox : List (Slot × Packet)) :
    (inbox.foldl (fun p x => p.accept x.1 x.2) p).playing = p.playing := by
  induction inbox generalizing p with
  | nil => rfl
  | cons x inbox ih =>
    rw [List.foldl_cons, ih]
    cases haccepts : p.accepts x.1 x.2 with
    | true => rw [accept_of_accepts haccepts]
    | false => rw [accept_of_not_accepts haccepts]

/-- Taking what waits leaves the sizes and starts no playback. -/
theorem drain_fields (p : Playout) :
    p.drain.prebuffer = p.prebuffer ∧ p.drain.capacity = p.capacity ∧
      p.drain.playing = p.playing := by
  obtain ⟨-, hprebuffer, hcapacity⟩ := foldl_accept_fields { p with inbox := [] } p.inbox
  exact ⟨hprebuffer, hcapacity, foldl_accept_playing { p with inbox := [] } p.inbox⟩

/-- No event changes the sizes. -/
theorem after_sizes (p : Playout) (e : Event) :
    (p.after e).prebuffer = p.prebuffer ∧ (p.after e).capacity = p.capacity := by
  obtain ⟨hprebuffer, hcapacity, -⟩ := p.drain_fields
  cases e with
  | arrival slot x =>
    rw [after, deliver]
    split <;> exact ⟨rfl, rfl⟩
  | read n =>
    obtain ⟨-, -, hprebuffer', hcapacity'⟩ := p.drain.play_fields n
    exact ⟨hprebuffer'.trans hprebuffer, hcapacity'.trans hcapacity⟩
  | unlink slot => exact ⟨hprebuffer, hcapacity⟩

/-- No list of events changes the sizes. -/
theorem afterAll_sizes (p : Playout) (events : List Event) :
    (p.afterAll events).prebuffer = p.prebuffer ∧ (p.afterAll events).capacity = p.capacity := by
  induction events generalizing p with
  | nil => exact ⟨rfl, rfl⟩
  | cons e events ih =>
    obtain ⟨hprebuffer, hcapacity⟩ := ih (p.after e)
    obtain ⟨hprebuffer', hcapacity'⟩ := p.after_sizes e
    exact ⟨hprebuffer.trans hprebuffer', hcapacity.trans hcapacity'⟩

/-- Once a frame is read, playback has started if it could. -/
theorem playing_play (p : Playout) (n : Nat) : (p.play n).2.playing = p.isReady := by
  rw [play]
  by_cases hready : p.isReady = true
  · rw [if_pos hready, hready]
  · have hstill : p.playing = false := by
      rw [isReady, Bool.or_eq_true, not_or] at hready
      exact Bool.eq_false_iff.mpr hready.1
    rw [if_neg hready, hstill, Bool.eq_false_iff.mpr hready]

/-- With room for what playback waits for, playback can start as soon as that much has been
accepted, even if some of it has been dropped. -/
theorem Holds.isReady_iff {p : Playout} {a : Frame} {k : Nat} (hp : p.Holds a k)
    (hroom : p.prebuffer ≤ p.capacity) :
    p.isReady = true ↔ p.playing = true ∨ p.prebuffer ≤ a.length := by
  have hlength := hp.length_queue
  rw [isReady, Bool.or_eq_true, decide_eq_true_eq]
  cases hplaying : p.playing with
  | true => exact ⟨fun _ => .inl rfl, fun _ => .inl rfl⟩
  | false =>
    have hwaiting := hp.waiting hplaying
    constructor
    · rintro (hno | hle)
      · exact absurd hno Bool.false_ne_true
      · exact .inr (by omega)
    · rintro (hno | hle)
      · exact absurd hno Bool.false_ne_true
      · exact .inr (by omega)

/-! ## What is said of a run -/

/-- What the next frame of a run is: silence as long as playback waits, and from then on the samples
that come next, with silence behind them if there are too few. -/
structure PlaysNext (p₀ : Playout) (events : List Event) (n k : Nat) : Prop where
  waiting : (p₀.afterAll (events ++ [.read n])).playing = false →
    ((p₀.afterAll events).fill n).1 = List.replicate n silence ∧
      p₀.gone (events ++ [.read n]) = k
  playing : (p₀.afterAll (events ++ [.read n])).playing = true →
    ((p₀.afterAll events).fill n).1 =
        ((p₀.accepted (events ++ [.read n])).drop k).take n ++
          List.replicate (n - ((p₀.accepted (events ++ [.read n])).length - k)) silence ∧
      p₀.gone (events ++ [.read n]) =
        k + min ((p₀.accepted (events ++ [.read n])).length - k) n

/-- What a run makes of the samples that it accepts. -/
structure Conserves (p₀ : Playout) (events : List Event) : Prop where
  queue : (p₀.afterAll events).queue = (p₀.accepted events).drop (p₀.gone events)
  gone_le : p₀.gone events ≤ (p₀.accepted events).length
  room : (p₀.afterAll events).queue.length ≤ p₀.capacity
  /-- What was accepted stays accepted, and what has gone stays gone. -/
  grows : ∀ e, p₀.accepted events <+: p₀.accepted (events ++ [e]) ∧
    p₀.gone events ≤ p₀.gone (events ++ [e])
  /-- For a packet that is accepted, the oldest samples are dropped that are too many. -/
  overflow : ∀ front slot x back, (p₀.afterAll events).inbox = front ++ (slot, x) :: back →
    let p : Playout := front.foldl (fun p x => p.accept x.1 x.2)
      { p₀.afterAll events with inbox := [] }
    p.accepts slot x = true → (p.accept slot x).queue =
      (p.queue ++ x.samples).drop (p.queue.length + x.samples.length - p₀.capacity)
  /-- The next frame, before which samples may be dropped for the packets that wait. -/
  reads : ∀ n, p₀.PlaysNext events n (p₀.gone events + droppedOf (p₀.afterAll events).drained)
  /-- Playback starts with the first frame for which enough has been accepted, and never stops. -/
  started : (p₀.afterAll events).playing = true ↔ ∃ front n back,
    events = front ++ .read n :: back ∧ p₀.prebuffer ≤ (p₀.accepted (front ++ [.read n])).length

section Run

variable {p₀ : Playout}

/-- Playback goes on once it has started, and starts at a read that finds the prebuffer filled. -/
theorem started_concat (hp : p₀.Holds [] 0) (hsizes : p₀.prebuffer ≤ p₀.capacity)
    (events : List Event) (e : Event) :
    (p₀.afterAll (events ++ [e])).playing = true ↔ (p₀.afterAll events).playing = true ∨
      ∃ n, e = .read n ∧ p₀.prebuffer ≤ (p₀.accepted (events ++ [e])).length := by
  obtain ⟨hprebuffer, hcapacity⟩ := p₀.afterAll_sizes events
  obtain ⟨hprebuffer', hcapacity', hplaying⟩ := (p₀.afterAll events).drain_fields
  -- Only a frame can start playback.
  have hstill : (∀ n, e ≠ .read n) →
      ((p₀.afterAll events).after e).playing = (p₀.afterAll events).playing →
      (((p₀.afterAll events).after e).playing = true ↔ (p₀.afterAll events).playing = true ∨
        ∃ n, e = .read n ∧ p₀.prebuffer ≤ (p₀.accepted (events ++ [e])).length) := by
    intro hread hsame
    rw [hsame]
    refine ⟨.inl, fun h => h.resolve_right ?_⟩
    rintro ⟨n, heq, -⟩
    exact hread n heq
  rw [afterAll_concat]
  cases e with
  | arrival slot x =>
    refine hstill (by rintro n ⟨⟩) ?_
    rw [after, deliver]
    split <;> rfl
  | unlink slot => exact hstill (by rintro n ⟨⟩) hplaying
  | read n =>
    have hdrained := (hp.afterAll events).drain
    have hready := hdrained.isReady_iff (by omega)
    have haccepted : p₀.accepted (events ++ [.read n]) =
        [] ++ p₀.accepted events ++ samplesOf (p₀.afterAll events).drained :=
      accepted_concat p₀ events (.read n)
    have hplays : ((p₀.afterAll events).after (.read n)).playing =
        (p₀.afterAll events).drain.isReady :=
      playing_play _ n
    rw [hplays, hready, hplaying, haccepted, hprebuffer', hprebuffer]
    refine or_congr_right ⟨fun hle => ⟨n, rfl, hle⟩, ?_⟩
    rintro ⟨_, -, hle⟩
    exact hle

/-- The start of playback is the first frame for which enough has been accepted: the induction goes
over the run from its end, because what has been accepted is a matter of what came before. -/
theorem started_iff (hp : p₀.Holds [] 0) (hsizes : p₀.prebuffer ≤ p₀.capacity)
    (hstill : p₀.playing = false) (events : List Event) :
    (p₀.afterAll events).playing = true ↔ ∃ front n back,
      events = front ++ .read n :: back ∧
        p₀.prebuffer ≤ (p₀.accepted (front ++ [.read n])).length := by
  induction events using List.reverseRecOn with
  | nil =>
    refine ⟨fun hplaying => absurd (hstill.symm.trans hplaying) Bool.false_ne_true, ?_⟩
    rintro ⟨front, n, back, hsplit, -⟩
    exact absurd hsplit.symm (List.append_ne_nil_of_right_ne_nil front (List.cons_ne_nil _ _))
  | append_singleton events e ih =>
    rw [started_concat hp hsizes events e, ih]
    constructor
    · rintro (⟨front, n, back, rfl, hle⟩ | ⟨n, rfl, hle⟩)
      · exact ⟨front, n, back ++ [e], by rw [List.append_assoc, List.cons_append], hle⟩
      · exact ⟨events, n, [], rfl, hle⟩
    · -- The frame that has started playback is the last event or an earlier one.
      rintro ⟨front, n, back, hsplit, hle⟩
      rcases List.eq_nil_or_concat back with rfl | ⟨back, last, rfl⟩
      · obtain ⟨rfl, hlast⟩ := List.append_inj' hsplit rfl
        obtain rfl := List.singleton_inj.mp hlast
        exact .inr ⟨n, rfl, hle⟩
      · rw [List.concat_eq_append, ← List.cons_append, ← List.append_assoc] at hsplit
        obtain ⟨rfl, -⟩ := List.append_inj' hsplit rfl
        exact .inl ⟨front, n, back, rfl, hle⟩

/-- A read plays the accepted samples that follow those that are gone. -/
theorem playsNext (hp : p₀.Holds [] 0) (events : List Event) (n : Nat) :
    p₀.PlaysNext events n (p₀.gone events + droppedOf (p₀.afterAll events).drained) := by
  -- The frame is played from the queue that is left after the inbox has been looked at.
  have hdrained := (hp.afterAll events).drain
  rw [List.nil_append, Nat.zero_add] at hdrained
  have hlength := hdrained.length_queue
  have hplays : (p₀.afterAll (events ++ [.read n])).playing =
      (p₀.afterAll events).drain.isReady := by
    rw [afterAll_concat]
    exact playing_play _ n
  have haccepted : p₀.accepted (events ++ [.read n]) =
      p₀.accepted events ++ samplesOf (p₀.afterAll events).drained :=
    accepted_concat p₀ events (.read n)
  have hgone : p₀.gone (events ++ [.read n]) =
      p₀.gone events + droppedOf (p₀.afterAll events).drained +
        ((p₀.afterAll events).drain.played n).length := by
    rw [gone_concat, ← Nat.add_assoc]
    rfl
  rw [← haccepted] at hdrained hlength
  constructor
  · intro hwaiting
    rw [hplays] at hwaiting
    have hnothing : (p₀.afterAll events).drain.played n = [] := by
      rw [played, if_neg (Bool.eq_false_iff.mp hwaiting)]
    refine ⟨?_, ?_⟩
    · rw [fill, play, if_neg (Bool.eq_false_iff.mp hwaiting)]
    · rw [hgone, hnothing]
      rfl
  · intro hplaying
    rw [hplays] at hplaying
    have htaken : (p₀.afterAll events).drain.played n = (p₀.afterAll events).drain.queue.take n := by
      rw [played, if_pos hplaying]
    refine ⟨?_, ?_⟩
    · rw [fill, ((p₀.afterAll events).drain.play_eq n).1, htaken, hdrained.queue, List.length_take,
        List.length_drop]
      congr 2
      omega
    · rw [hgone, htaken, List.length_take]
      omega

end Run

/-- A receiver that has just been opened conserves what it accepts in any run. -/
theorem conserves {p₀ : Playout} (hp : p₀.Holds [] 0) (hsizes : p₀.prebuffer ≤ p₀.capacity)
    (hstill : p₀.playing = false) (events : List Event) : p₀.Conserves events := by
  have hholds := hp.afterAll events
  rw [List.nil_append, Nat.zero_add] at hholds
  obtain ⟨-, hcapacity⟩ := p₀.afterAll_sizes events
  refine ⟨hholds.queue, hholds.gone_le, hcapacity ▸ hholds.room, fun e => ⟨?_, ?_⟩, ?_,
    playsNext hp events, started_iff hp hsizes hstill events⟩
  · rw [accepted_concat]
    exact List.prefix_append _ _
  · rw [gone_concat]
    exact Nat.le_add_right _ _
  · intro front slot x back _ p haccepts
    have hsame : p.capacity = p₀.capacity := by
      obtain ⟨-, -, hfold⟩ := foldl_accept_fields { p₀.afterAll events with inbox := [] } front
      exact hfold.trans hcapacity
    rw [accept_of_accepts haccepts, ← hsame, ← List.length_append]
    rfl

end Playout

namespace Loopback

/-- An unused receiver holds nothing, and its sizes are in order. -/
theorem IsUnused.holds {p : Playout} (hp : IsUnused p) :
    p.Holds [] 0 ∧ 0 < p.prebuffer ∧ p.prebuffer < p.capacity ∧ p.playing = false := by
  obtain ⟨config, hchannels, hplayout⟩ := hp
  obtain ⟨hpos, hlt, hstill⟩ := sizes_of_playout? hchannels hplayout
  have hidle := isIdle_of_playout? hplayout
  refine ⟨⟨hidle.queue, Nat.le_refl 0, ?_, fun _ => ?_⟩, hpos, hlt, hstill⟩
  · rw [hidle.queue]
    exact Nat.zero_le _
  · rw [hidle.queue]
    exact (Nat.zero_min _).symm

/-- A receiver of any configuration conserves what it accepts, in any run of packets that arrive,
frames that are read and slots that are taken down. And the receivers of the engine go through such
runs only: whatever is asked of the engine and whatever the machine does, a receiver is the one that
was opened after the events of its history, and what is read of it is what it plays next. -/
theorem queue_conserved :
    (∀ p₀, IsUnused p₀ → 0 < p₀.prebuffer ∧ p₀.prebuffer < p₀.capacity ∧
      ∀ events, p₀.Conserves events) ∧
    ∀ (machine : Machine) (happenings : List Happening),
      let start : Site := { machine }
      let site := start.afterAll happenings
      ∀ h q p, site.state.peers.get? h = some q → q.flow = .receiving p →
        ∃ p₀, IsUnused p₀ ∧ p = p₀.afterAll (history h happenings start []) ∧
          ∀ n frame, (engine (.read h n) site).1 = .ok frame →
            frame = ((p₀.afterAll (history h happenings start [] ++ site.arrivals h)).fill n).1 := by
  refine ⟨fun p₀ hunused => ?_, fun machine happenings => ?_⟩
  · obtain ⟨hholds, hpos, hlt, hstill⟩ := hunused.holds
    exact ⟨hpos, hlt, Playout.conserves hholds (Nat.le_of_lt hlt) hstill⟩
  · intro start site h q p hq hflow
    obtain ⟨p₀, hunused, hp⟩ :=
      (Site.HasHistory.start machine).afterAll happenings h q p hq hflow
    refine ⟨p₀, hunused, hp, fun n frame hread => ?_⟩
    rw [Playout.afterAll_append, ← hp]
    exact Site.frame_of_read hq hflow hread

/-- A run in which a packet of three samples comes to a receiver that has room for two. -/
def smallReceiver : List Happening := [
  .request (.contextOpen {}),
  .request (.peerOpen ⟨1⟩ (.receiver { frameEncoding := .new 1 .mono })),
  .request (.bind ⟨2⟩ ⟨0⟩ .audioSource ⟨some .rtp, "127.0.0.1", 0, ""⟩),
  .machine fun m => { m with network := { m.network with waiting := [
    (⟨0⟩, Packet.encode ⟨.source, 7, 0, [1, 2, 3]⟩)] } }]

/-- The oldest sample is dropped, and the others are played. -/
theorem queue_conserved_smallReceiver :
    let p₀ : Playout := { prebuffer := 1, capacity := 2 }
    let events : List Playout.Event := [.arrival ⟨0⟩ ⟨.source, 7, 0, [1, 2, 3]⟩, .read 4]
    let machine : Machine := { host := .selfContained, random := fun _ => 0 }
    let site := ({ machine } : Site).afterAll smallReceiver
    (IsUnused p₀ ∧ p₀.accepted events = [1, 2, 3] ∧ p₀.gone events = 3 ∧ p₀.Conserves events) ∧
      (engine (.read ⟨2⟩ 4) site).1 = .ok [2, 3, 0, 0] ∧
      ∃ p₁, IsUnused p₁ ∧ [2, 3, 0, 0] =
        ((p₁.afterAll
          (history ⟨2⟩ smallReceiver { machine } [] ++ site.arrivals ⟨2⟩)).fill 4).1 := by
  intro p₀ events machine site
  have hunused : IsUnused p₀ := ⟨{ frameEncoding := .new 1 .mono }, by decide, rfl⟩
  refine ⟨⟨hunused, by decide, by decide, (queue_conserved.1 p₀ hunused).2.2 events⟩, ?_⟩
  have hread : (engine (.read ⟨2⟩ 4) site).1 = .ok [2, 3, 0, 0] := by decide +kernel
  have hkind : (site.state.peers.get? ⟨2⟩).map PeerState.kind = some .receiver := by
    decide +kernel
  obtain ⟨q, hq, hkind⟩ := Option.map_eq_some_iff.mp hkind
  obtain ⟨p, hflow⟩ : ∃ p, q.flow = .receiving p := by
    rw [PeerState.kind] at hkind
    cases hflow : q.flow with
    | sending fec stream p =>
      rw [hflow] at hkind
      exact absurd hkind nofun
    | receiving p => exact ⟨p, rfl⟩
  obtain ⟨p₁, hunused₁, -, hframe⟩ :=
    queue_conserved.2 machine smallReceiver ⟨2⟩ q p hq hflow
  exact ⟨hread, p₁, hunused₁, hframe 4 _ hread⟩

end Loopback
end AudioLink
