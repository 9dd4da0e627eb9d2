import AudioLink.Proofs.Loopback.Census

/-
Journals of calls to loopback engines.

The calls that open and close contexts and peers are read off a journal: what has been opened is
there or has been closed, what has been closed does not come back, and every peer of a context has
been closed before the context. This holds whatever the engines are asked, and by whom, as long as
no engine has given so many handles that its counter comes round.
-/
set_option autoImplicit false

namespace AudioLink.Loopback

/-! ## Orderly journals -/

/-- How many handles an engine has given, by a journal. -/
def handlesIn (e : Nat) (journal : List (Exchange Nat)) : Nat :=
  journal.countP fun x => x.engine = e && x.gives

/-- The last exchange adds a handle if it gives one at this engine. -/
theorem handlesIn_concat (e : Nat) (journal : List (Exchange Nat)) (x : Exchange Nat) :
    handlesIn e (journal ++ [x]) =
      handlesIn e journal + if x.engine = e then x.gives.toNat else 0 := by
  rw [handlesIn, List.countP_append, List.countP_singleton, handlesIn]
  by_cases hx : x.engine = e
  · rw [decide_eq_true hx, Bool.true_and, if_pos hx]
    cases x.gives <;> rfl
  · rw [decide_eq_false hx, Bool.false_and, if_neg hx]
    rfl

/-- A call that has yielded a context, or has opened a peer on it. -/
inductive Uses (e : Nat) (h : ContextHandle) : Exchange Nat → Prop
  | opened (config : ContextConfig) : Uses e h ⟨e, .contextOpen config, .ok h⟩
  | joined (config : PeerConfig) (peer : PeerHandle) : Uses e h ⟨e, .peerOpen h config, .ok peer⟩

/-- What a journal says of the contexts and peers of an engine agrees with its census, and contexts
have been closed after their peers. -/
structure Orderly (e given : Nat) (c : Census) (journal : List (Exchange Nat)) : Prop where
  contextKept : ∀ h x, x ∈ journal → Uses e h x →
    c.contexts.get? h ≠ none ∨ ⟨e, .contextClose h, .ok ()⟩ ∈ journal
  /-- A context that has been closed does not come back. -/
  contextGone : ∀ h, ⟨e, .contextClose h, .ok ()⟩ ∈ journal →
    rank h ≤ given ∧ c.contexts.get? h = none
  peerKept : ∀ h config peer, ⟨e, .peerOpen h config, .ok peer⟩ ∈ journal →
    c.peers.get? peer = some h ∨ ⟨e, .peerClose peer, .ok ()⟩ ∈ journal
  order : ∀ h before after, journal = before ++ ⟨e, .contextClose h, .ok ()⟩ :: after →
    ∀ config peer, ⟨e, .peerOpen h config, .ok peer⟩ ∈ journal →
      ⟨e, .peerClose peer, .ok ()⟩ ∈ before

section Lists

variable {α : Type} {l before after : List α} {x y : α}

theorem mem_or_eq_of_mem_concat (h : y ∈ l ++ [x]) : y ∈ l ∨ y = x :=
  (List.mem_append.mp h).imp_right List.mem_singleton.mp

theorem mem_of_mem_concat (h : y ∈ l ++ [x]) (hne : y ≠ x) : y ∈ l :=
  (mem_or_eq_of_mem_concat h).resolve_right hne

/-- An entry of a list with one more entry is the last one, or stands in the list before. -/
theorem split_concat (h : l ++ [x] = before ++ y :: after) :
    x = y ∧ l = before ∨ ∃ after', l = before ++ y :: after' := by
  rcases List.eq_nil_or_concat after with rfl | ⟨after', z, rfl⟩
  · obtain ⟨hl, hx⟩ := List.append_inj' h rfl
    exact .inl ⟨List.singleton_inj.mp hx, hl⟩
  · rw [List.concat_eq_append, ← List.cons_append, ← List.append_assoc] at h
    exact .inr ⟨after', (List.append_inj' h rfl).1⟩

end Lists

namespace Orderly

variable {e given : Nat} {c c' : Census} {journal : List (Exchange Nat)}

/-- An empty journal is in order. -/
theorem start (e : Nat) : Orderly e 0 (State.census {}) [] where
  contextKept _ _ h := absurd h List.not_mem_nil
  contextGone _ h := absurd h List.not_mem_nil
  peerKept _ _ _ h := absurd h List.not_mem_nil
  order _ _ _ _ _ _ h := absurd h List.not_mem_nil

/-- A call that opens and closes nothing, or is made to another engine, is passed over. -/
theorem skip (ho : Orderly e given c journal) {x : Exchange Nat} (hx : x.engine = e → x.IsVoid) :
    Orderly e given c (journal ++ [x]) := by
  have hold {r : Request} {a : r.Response} (hr : r.call.opensOrCloses = true)
      (hmem : ⟨e, r, .ok a⟩ ∈ journal ++ [x]) : ⟨e, r, .ok a⟩ ∈ journal := by
    rcases mem_or_eq_of_mem_concat hmem with hmem | rfl
    · exact hmem
    · have hvoid := hx rfl r.call hr
      rw [Exchange.succeeds, decide_eq_true rfl] at hvoid
      exact absurd hvoid.symm Bool.false_ne_true
  refine ⟨fun h y hmem huses => ?_, fun h hmem => ho.contextGone h (hold rfl hmem),
    fun h config peer hmem => ?_, fun h before after hsplit config peer hmem => ?_⟩
  · have hmem : y ∈ journal := by
      cases huses with
      | opened config => exact hold rfl hmem
      | joined config peer => exact hold rfl hmem
    exact (ho.contextKept h y hmem huses).imp_right (List.mem_append_left _)
  · exact (ho.peerKept h config peer (hold rfl hmem)).imp_right (List.mem_append_left _)
  · rcases split_concat hsplit with ⟨rfl, -⟩ | ⟨after', hsplit⟩
    · exact absurd (hx rfl .contextClose rfl).symm Bool.false_ne_true
    · exact ho.order h before after' hsplit config peer (hold rfl hmem)

/-- The journal stays in order when a context is opened: its handle is new. -/
theorem contextOpened (ho : Orderly e given c journal) (hc : c.Consistent given)
    (hroom : given + 1 < UInt64.size) (config : ContextConfig) :
    Orderly e (given + 1)
      { c with nextId := c.nextId + 1, contexts := c.contexts.insert ⟨c.nextId⟩ 0 }
      (journal ++ [⟨e, .contextOpen config, .ok ⟨c.nextId⟩⟩]) where
  contextKept h x hmem huses := by
    rcases mem_or_eq_of_mem_concat hmem with hmem | rfl
    · exact (ho.contextKept h x hmem huses).imp (Table.get?_insert_ne_none · _ _)
        (List.mem_append_left _)
    · cases huses
      rw [Table.get?_insert_self]
      exact .inl nofun
  contextGone h hmem := by
    obtain ⟨hrank, hnone⟩ := ho.contextGone h (mem_of_mem_concat hmem nofun)
    have hh : h ≠ ⟨c.nextId⟩ := by
      rintro rfl
      have hnext : rank (⟨c.nextId⟩ : ContextHandle) = given + 1 := hc.rank_nextId hroom
      omega
    refine ⟨Nat.le_succ_of_le hrank, ?_⟩
    rw [Table.get?_insert_of_ne _ _ hh, hnone]
  peerKept h config' peer hmem :=
    (ho.peerKept h config' peer (mem_of_mem_concat hmem nofun)).imp_right (List.mem_append_left _)
  order h before after hsplit config' peer hmem := by
    rcases split_concat hsplit with ⟨heq, -⟩ | ⟨after', hsplit⟩
    · exact absurd heq nofun
    · exact ho.order h before after' hsplit config' peer (mem_of_mem_concat hmem nofun)

/-- The journal stays in order when a context is closed: no peer of it is left. -/
theorem contextClosed (ho : Orderly e given c journal) (hc : c.Consistent given)
    {h : ContextHandle} (hfree : c.contexts.get? h = some 0) :
    Orderly e given { c with contexts := c.contexts.erase h }
      (journal ++ [⟨e, .contextClose h, .ok ()⟩]) where
  contextKept h' x hmem huses := by
    by_cases hh : h' = h
    · rw [hh]
      exact .inr (List.mem_append_right _ List.mem_cons_self)
    · rw [Table.get?_erase_of_ne _ hh]
      rcases mem_or_eq_of_mem_concat hmem with hmem | rfl
      · exact (ho.contextKept h' x hmem huses).imp_right (List.mem_append_left _)
      · exact absurd huses nofun
  contextGone h' hmem := by
    by_cases hh : h' = h
    · rw [hh, Table.get?_erase_self]
      exact ⟨hc.contextIssued h (hfree ▸ nofun), rfl⟩
    · rw [Table.get?_erase_of_ne _ hh]
      rcases mem_or_eq_of_mem_concat hmem with hmem | heq
      · exact ho.contextGone h' hmem
      · cases heq
        exact absurd rfl hh
  peerKept h' config peer hmem := by
    exact (ho.peerKept h' config peer (mem_of_mem_concat hmem nofun)).imp_right
      (List.mem_append_left _)
  order h' before after hsplit config peer hmem := by
    have hmem : ⟨e, .peerOpen h' config, .ok peer⟩ ∈ journal := mem_of_mem_concat hmem nofun
    rcases split_concat hsplit with ⟨heq, rfl⟩ | ⟨after', hsplit⟩
    · -- The context goes now, so its peers have gone before.
      cases heq
      exact (ho.peerKept h config peer hmem).resolve_left (hc.owner_ne_of_free hfree)
    · exact ho.order h' before after' hsplit config peer hmem

/-- The journal stays in order when a peer is opened: its context is open. -/
theorem peerOpened (ho : Orderly e given c journal) (hc : c.Consistent given)
    (hroom : given + 1 < UInt64.size) {h : ContextHandle} {n : Nat}
    (hn : c.contexts.get? h = some n) (config : PeerConfig) :
    Orderly e (given + 1)
      { nextId := c.nextId + 1
        contexts := c.contexts.insert h (n + 1)
        peers := c.peers.insert ⟨c.nextId⟩ h }
      (journal ++ [⟨e, .peerOpen h config, .ok ⟨c.nextId⟩⟩]) where
  contextKept h' x hmem huses := by
    rcases mem_or_eq_of_mem_concat hmem with hmem | rfl
    · exact (ho.contextKept h' x hmem huses).imp (Table.get?_insert_ne_none · _ _)
        (List.mem_append_left _)
    · cases huses
      rw [Table.get?_insert_self]
      exact .inl nofun
  contextGone h' hmem := by
    obtain ⟨hrank, hnone⟩ := ho.contextGone h' (mem_of_mem_concat hmem nofun)
    have hh : h' ≠ h := by
      rintro rfl
      exact absurd (hn.symm.trans hnone) nofun
    refine ⟨Nat.le_succ_of_le hrank, ?_⟩
    rw [Table.get?_insert_of_ne _ _ hh, hnone]
  peerKept h' config' peer hmem := by
    rw [Table.get?_insert]
    rcases mem_or_eq_of_mem_concat hmem with hmem | heq
    · refine (ho.peerKept h' config' peer hmem).imp (fun hkept => ?_) (List.mem_append_left _)
      have hpeer : peer ≠ ⟨c.nextId⟩ := by
        rintro rfl
        exact absurd ((hc.fresh hroom).2.symm.trans hkept) nofun
      rw [if_neg hpeer, hkept]
    · cases heq
      exact .inl (if_pos rfl)
  order h' before after hsplit config' peer hmem := by
    rcases split_concat hsplit with ⟨heq, -⟩ | ⟨after', hsplit⟩
    · exact absurd heq nofun
    · rcases mem_or_eq_of_mem_concat hmem with hmem | heq
      · exact ho.order h' before after' hsplit config' peer hmem
      · -- No peer is opened on a context that has gone.
        cases heq
        have hgone := ho.contextGone h (hsplit ▸ List.mem_append_right _ List.mem_cons_self)
        exact absurd (hn.symm.trans hgone.2) nofun

/-- The journal stays in order when a peer is closed: it was open. -/
theorem peerClosed (ho : Orderly e given c journal) (hc : c.Consistent given) {h : PeerHandle}
    {owner : ContextHandle} (howner : c.peers.get? h = some owner) :
    Orderly e given
      { c with contexts := c.contexts.modify owner (· - 1), peers := c.peers.erase h }
      (journal ++ [⟨e, .peerClose h, .ok ()⟩]) := by
  obtain ⟨n, hn, hmodify⟩ := hc.modify_owner howner
  rw [hmodify]
  refine ⟨fun h' x hmem huses => ?_, fun h' hmem => ?_, fun h' config peer hmem => ?_,
    fun h' before after hsplit config peer hmem => ?_⟩
  · rcases mem_or_eq_of_mem_concat hmem with hmem | rfl
    · exact (ho.contextKept h' x hmem huses).imp (Table.get?_insert_ne_none · _ _)
        (List.mem_append_left _)
    · exact absurd huses nofun
  · obtain ⟨hrank, hnone⟩ := ho.contextGone h' (mem_of_mem_concat hmem nofun)
    have hh : h' ≠ owner := by
      rintro rfl
      exact absurd (hn.symm.trans hnone) nofun
    exact ⟨hrank, (Table.get?_insert_of_ne _ _ hh).trans hnone⟩
  · by_cases hpeer : peer = h
    · rw [hpeer]
      exact .inr (List.mem_append_right _ List.mem_cons_self)
    · rw [Table.get?_erase_of_ne _ hpeer]
      exact (ho.peerKept h' config peer (mem_of_mem_concat hmem nofun)).imp_right
        (List.mem_append_left _)
  · rcases split_concat hsplit with ⟨heq, -⟩ | ⟨after', hsplit⟩
    · exact absurd heq nofun
    · exact ho.order h' before after' hsplit config peer (mem_of_mem_concat hmem nofun)

/-- The journal stays orderly in every call. -/
theorem step (ho : Orderly e given c journal) (hc : c.Consistent given) {x : Exchange Nat}
    (hstep : Census.Step c c' e x) (hroom : given + x.gives.toNat < UInt64.size) :
    Orderly e (given + x.gives.toNat) c' (journal ++ [x]) := by
  cases hstep with
  | still hvoid hsame =>
    rw [hvoid.gives, hsame]
    exact ho.skip fun _ => hvoid
  | contextOpened config hcensus =>
    rw [hcensus]
    exact ho.contextOpened hc hroom config
  | contextClosed h hfree hcensus =>
    rw [hcensus]
    exact ho.contextClosed hc hfree
  | peerOpened h n config hn hcensus =>
    rw [hcensus]
    exact ho.peerOpened hc hroom hn config
  | peerClosed h owner howner hcensus =>
    rw [hcensus]
    exact ho.peerClosed hc howner

end Orderly

/-! ## Fleets with a journal -/

/-- Handles are counted at the engine that gave them. -/
theorem handlesIn_journaled (n e : Nat) (r : Request) (s : Journaled Nat Fleet) :
    handlesIn n (journaled Fleet.engine e r s).2.journal = handlesIn n s.journal +
      if e = n then (s.entry Fleet.engine e r).gives.toNat else 0 :=
  handlesIn_concat n s.journal _

/-- A longer journal has given no fewer handles. -/
theorem handlesIn_mono {journal journal' : List (Exchange Nat)} (h : journal <+: journal')
    (n : Nat) : handlesIn n journal ≤ handlesIn n journal' :=
  h.sublist.countP_le

/-- The engines of a fleet with a journal of the calls to them: every census is consistent, and the
journal is orderly. -/
structure Registered (s : Journaled Nat Fleet) : Prop where
  consistent : ∀ n, (s.inner.census n).Consistent (handlesIn n s.journal)
  orderly : ∀ n, Orderly n (handlesIn n s.journal) (s.inner.census n) s.journal

namespace Registered

variable {s : Journaled Nat Fleet}

/-- A fleet that nobody has asked anything yet. -/
theorem start (machine : Machine) : Registered { inner := { machine } } where
  consistent _ := ⟨rfl, nofun, nofun, nofun, nofun⟩
  orderly := Orderly.start

/-- Whatever the engines are asked, as long as no counter of handles comes round. -/
theorem asked (hs : Registered s) (e : Nat) (r : Request)
    (hroom : ∀ n, handlesIn n (journaled Fleet.engine e r s).2.journal < UInt64.size) :
    Registered (journaled Fleet.engine e r s).2 := by
  have hstep := Fleet.census_step e r s.inner
  have hgiven : handlesIn e (journaled Fleet.engine e r s).2.journal =
      handlesIn e s.journal + (s.entry Fleet.engine e r).gives.toNat := by
    rw [handlesIn_journaled, if_pos rfl]
  have hother (n : Nat) (hn : n ≠ e) : handlesIn n (journaled Fleet.engine e r s).2.journal =
      handlesIn n s.journal := by
    rw [handlesIn_journaled, if_neg (Ne.symm hn), Nat.add_zero]
  have hroom := hroom e
  rw [hgiven] at hroom
  have hcensus (n : Nat) (hn : n ≠ e) :
      (journaled Fleet.engine e r s).2.inner.census n = s.inner.census n :=
    Fleet.census_of_ne r s.inner hn
  refine ⟨fun n => ?_, fun n => ?_⟩
  · by_cases hn : n = e
    · rw [hn, hgiven]
      exact (hs.consistent e).step hstep hroom
    · rw [hother n hn, hcensus n hn]
      exact hs.consistent n
  · by_cases hn : n = e
    · rw [hn, hgiven]
      exact (hs.orderly e).step (hs.consistent e) hstep hroom
    · rw [hother n hn, hcensus n hn]
      exact (hs.orderly n).skip fun hx => absurd hx.symm hn

/-- Nothing happens to the contexts and peers when the machine changes. -/
theorem of_census (hs : Registered s) {fleet : Fleet}
    (hcensus : ∀ n, fleet.census n = s.inner.census n) :
    Registered { s with inner := fleet } where
  consistent n := (hcensus n).symm ▸ hs.consistent n
  orderly n := (hcensus n).symm ▸ hs.orderly n

end Registered
end AudioLink.Loopback
