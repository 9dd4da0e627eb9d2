import AudioLink.Proofs.Session.Callers

/-
What is closed stays closed.

A name that has been given is never given again, and an object that has lost its handle never gets
one back, whatever the engines answer. So an object that is closed or gone is retired for good and
makes no calls any more. That an object closes itself by at most one successful call in a run
follows, because such a call retires it.
-/
set_option autoImplicit false

namespace AudioLink

/-! ## Tables whose entries lose their handles -/

namespace Table

variable {κ α η : Type} [Ranked κ] {handle : α → Option η} {n : Nat} {t t' : Table κ α}

/-- What has a key below `n` has been in the table before, and has no handle now if it had none. -/
def Descends (handle : α → Option η) (n : Nat) (t t' : Table κ α) : Prop :=
  ∀ k a', rank k < n → t'.get? k = some a' →
    ∃ a, t.get? k = some a ∧ (handle a = none → handle a' = none)

theorem Descends.refl : Descends handle n t t := fun _ a' _ ha' => ⟨a', ha', id⟩

variable [DecidableEq κ] {k : κ}

/-- A new entry, under a new key, is no descendant of anything. -/
theorem Descends.insert_new (hk : n ≤ rank k) (a : α) : Descends handle n t (t.insert k a) := by
  intro j a' hj ha'
  rcases get?_insert_cases ha' with ⟨rfl, -⟩ | ⟨-, ha'⟩
  · omega
  · exact ⟨a', ha', id⟩

/-- An entry may lose its handle and gets none. -/
theorem Descends.insert {a b : α} (ha : t.get? k = some a) (hb : handle a = none → handle b = none) :
    Descends handle n t (t.insert k b) := by
  intro j a' hj ha'
  rcases get?_insert_cases ha' with ⟨rfl, rfl⟩ | ⟨-, ha'⟩
  · exact ⟨a, ha, hb⟩
  · exact ⟨a', ha', id⟩

omit [DecidableEq κ] in
theorem Descends.erase : Descends handle n t (t.erase k) := fun _ a' _ ha' =>
  ⟨a', (get?_of_get?_erase ha').2, id⟩

/-- An entry that keeps its handle may change otherwise. -/
theorem Descends.modify {f : α → α} (hf : ∀ a, handle (f a) = handle a) :
    Descends handle n t (t.modify k f) := by
  rw [Table.modify]
  cases ha : t.get? k with
  | none => exact .refl
  | some a =>
    refine .insert ha fun hnone => ?_
    rw [hf, hnone]

end Table

/-! ## What is shut stays shut -/

namespace Session

variable {ε σ : Type} {w w' : Session ε σ}

/-- A session has come from another in which every object that is there now and not new had a handle
if it has one now. -/
structure Descends (w w' : Session ε σ) : Prop where
  next : w.next ≤ w'.next
  contexts : w.contexts.Descends Context.handle w.next w'.contexts
  attachments : w.attachments.Descends Attachment.handle w.next w'.attachments

/-- A peer is shut if it is gone or has no handle. -/
theorem isShut_peer_iff {id : PeerId} : w.IsShut (.peer id) ↔
    ∀ a, w.attachments.get? id = some a → a.handle = none := by
  constructor
  · intro hshut a ha
    rw [get?_attachments] at ha
    obtain ⟨m, hm, rfl⟩ := Option.map_eq_some_iff.mp ha
    exact hshut m hm
  · intro hshut m hm
    exact hshut m.attachment (attachments_of_get? hm)

/-- What is shut stays shut in all that descends from its session. -/
theorem IsShut.of_descends {o : Caller} (hshut : w.IsShut o) (hold : o.index < w.next)
    (hdescends : Descends w w') : w'.IsShut o := by
  cases o with
  | context id =>
    intro c' hc'
    obtain ⟨c, hc, hhandle⟩ := hdescends.contexts id c' hold hc'
    exact hhandle (hshut c hc)
  | peer id =>
    rw [isShut_peer_iff] at hshut ⊢
    intro a' ha'
    obtain ⟨a, ha, hhandle⟩ := hdescends.attachments id a' hold ha'
    exact hhandle (hshut a ha)

end Session

namespace Program

variable {ε σ : Type} {engines : ε → Engine σ} {p p' : Program ε σ} {o : Caller}

/-- No change gives a handle back. -/
theorem Change.descends (hchange : Change engines p p') : p.session.Descends p'.session := by
  cases hchange with
  | quiet w hquiet =>
    obtain ⟨hcontexts, hattachments, hnext, -⟩ := hquiet
    refine ⟨Nat.le_of_eq hnext.symm, ?_, ?_⟩
    · rw [hcontexts]
      exact .refl
    · rw [hattachments]
      exact .refl
  | contextOpened e config h hanswer =>
    -- A new name is not below the next one, so it is not among those that are compared.
    have hnew : p.session.next ≤ rank (⟨p.session.next⟩ : ContextId) := Nat.le_refl _
    exact ⟨Nat.le_succ _, .insert_new hnew _, .refl⟩
  | cloned id c hc => exact ⟨Nat.le_refl _, .insert hc fun hnone => hnone, .refl⟩
  | cloneDropped id c hc hclones hholders =>
    exact ⟨Nat.le_refl _, .insert hc fun hnone => hnone, .refl⟩
  | contextDropped id c state hc hclones hholders hstate hclosed =>
    exact ⟨Nat.le_refl _, .erase, .refl⟩
  | contextClosed id c h hc hh hfree hanswer => exact ⟨Nat.le_refl _, .insert hc fun _ => rfl, .refl⟩
  | peerOpened id c h config peer w hc hh hanswer hcontexts hattachments hnext hstate =>
    refine ⟨hnext ▸ Nat.le_succ _, ?_, ?_⟩
    · rw [hcontexts]
      exact .insert hc fun hnone => hnone
    · have hnew : p.session.next ≤ rank (⟨p.session.next⟩ : PeerId) := Nat.le_refl _
      rw [hattachments]
      exact .insert_new hnew _
  | peerClosed id a h w ha hh hanswer hcontexts hattachments hnext hstate =>
    refine ⟨Nat.le_of_eq hnext.symm, ?_, ?_⟩
    · rw [hcontexts]
      exact .modify fun _ => rfl
    · rw [hattachments]
      exact .insert ha fun _ => rfl
  | peerDropped id a w ha hcontexts hattachments hnext hclosed hopen =>
    refine ⟨Nat.le_of_eq hnext.symm, ?_, ?_⟩
    · rw [hcontexts]
      exact .refl
    · rw [hattachments]
      exact .erase

/-- An object that was there once is closed or gone. -/
structure Retired (p : Program ε σ) (o : Caller) : Prop where
  old : o.index < p.session.next
  isShut : p.session.IsShut o

/-- No change brings back what has retired. -/
theorem Retired.change (hretired : p.Retired o) (hchange : Change engines p p') : p'.Retired o where
  old := Nat.lt_of_lt_of_le hretired.old hchange.descends.next
  isShut := hretired.isShut.of_descends hretired.old hchange.descends

/-- Numbers are not given twice along a chain. -/
theorem next_le_chain (hchain : Relation.ReflTransGen (Change engines) p p') :
    p.session.next ≤ p'.session.next := by
  induction hchain with
  | refl => exact Nat.le_refl _
  | tail _ hchange ih => exact Nat.le_trans ih hchange.descends.next

/-- No chain of changes brings back what has retired. -/
theorem Retired.chain (hretired : p.Retired o)
    (hchain : Relation.ReflTransGen (Change engines) p p') : p'.Retired o := by
  induction hchain with
  | refl => exact hretired
  | tail _ hchange ih => exact ih.change hchange

/-- No action brings back what has retired. -/
theorem Retired.after (hretired : p.Retired o) (haccounts : p.Accounts) (engines : ε → Engine σ)
    (action : Action ε σ) : (p.after engines action).Retired o := by
  cases action with
  | operation op => exact hretired.chain (haccounts.chain engines op)
  | world change =>
    refine ⟨hretired.old, hretired.isShut.of_descends hretired.old ?_⟩
    exact ⟨Nat.le_refl _, .refl, .refl⟩

/-- What is closed or gone is so after any run. -/
theorem Retired.afterAll (hretired : p.Retired o) (haccounts : p.Accounts) (engines : ε → Engine σ)
    (actions : List (Action ε σ)) : (p.afterAll engines actions).Retired o := by
  induction actions generalizing p with
  | nil => exact hretired
  | cons action actions ih =>
    exact ih (hretired.after haccounts engines action) (haccounts.after engines action)

/-! ## Calls of what is closed -/

/-- What is closed or gone makes no calls. -/
theorem Retired.caller_ne (hretired : p.Retired o) (engines : ε → Engine σ) (action : Action ε σ) :
    ∀ d ∈ p.deeds engines action, d.caller ≠ some o := by
  intro d hd hcaller
  have hmade := (does_after engines p action).made d hd
  rw [Session.Made, hcaller] at hmade
  exact hretired.isShut.not_carries hmade

/-- What has retired calls no engine in any run. -/
theorem Retired.caller_ne_run (hretired : p.Retired o) (haccounts : p.Accounts)
    (engines : ε → Engine σ) (actions : List (Action ε σ)) :
    ∀ d ∈ p.deedsIn engines actions, d.caller ≠ some o := by
  induction actions generalizing p with
  | nil => exact List.forall_mem_nil _
  | cons action actions ih =>
    intro d hd
    rw [deedsIn] at hd
    rcases List.mem_append.mp hd with hd | hd
    · exact hretired.caller_ne engines action d hd
    · exact ih (hretired.after haccounts engines action) (haccounts.after engines action) d hd

/-- The name of a peer that is there has been given. -/
theorem Accounts.index_lt_of_peer (haccounts : p.Accounts) {id : PeerId} {m : Member ε}
    (hm : p.session.peers.get? id = some m) : id.index < p.session.next := by
  refine Nat.lt_of_not_le fun hle => ?_
  have hnone := haccounts.unusedPeer id hle
  rw [Session.attachments_of_get? hm] at hnone
  exact nomatch hnone

/-- Whose calls are in the journal has had its number. -/
theorem Accounts.index_of_carries (haccounts : p.Accounts) {x : Exchange ε}
    (hcarries : p.session.Carries x o) : o.index < p.session.next := by
  cases o with
  | context id =>
    obtain ⟨c, h, hc, -⟩ := hcarries
    exact haccounts.index_lt hc
  | peer id =>
    obtain ⟨m, h, hm, -⟩ := hcarries
    exact haccounts.index_lt_of_peer hm

/-- An object that closes itself is closed or gone from then on. -/
theorem retired_of_closes (haccounts : p.Accounts) {action : Action ε σ} {d : Deed ε}
    (hd : d ∈ p.deeds engines action) (hcloses : d.closes o = true) :
    (p.after engines action).Retired o := by
  have hdoes := does_after engines p action
  refine ⟨?_, hdoes.shut d hd o hcloses⟩
  have hmade := hdoes.made d hd
  rw [Session.Made, (Deed.closes_iff.mp hcloses).1] at hmade
  -- Whoever has made a call was there, and names only ever increase.
  have hold := haccounts.index_of_carries hmade
  cases action with
  | world change => exact hold
  | operation op => exact Nat.lt_of_lt_of_le hold (next_le_chain (haccounts.chain engines op))

/-- In one action an object closes itself at most once. -/
theorem countP_closes_le (engines : ε → Engine σ) (p : Program ε σ) (action : Action ε σ)
    (o : Caller) : (p.deeds engines action).countP (Deed.closes o) ≤ 1 := by
  have honce := (does_after engines p action).once.filter (Deed.closes o)
  have hcaller : ∀ d ∈ (p.deeds engines action).filter (Deed.closes o), d.caller = some o := by
    intro d hd
    exact (Deed.closes_iff.mp (List.mem_filter.mp hd).2).1
  rw [List.countP_eq_length_filter]
  generalize (p.deeds engines action).filter (Deed.closes o) = ds at honce hcaller ⊢
  rcases ds with - | ⟨d, - | ⟨d', ds⟩⟩
  · exact Nat.zero_le 1
  · exact Nat.le_refl 1
  · -- Two of them would have different callers, but both have the same.
    have hne := (List.pairwise_cons.mp honce).1 d' (List.mem_cons_self ..)
    rw [hcaller d (by simp), hcaller d' (by simp)] at hne
    exact absurd rfl hne

/-- In a run an object closes itself at most once, and is closed or gone if it has. -/
theorem closes_once (haccounts : p.Accounts) (engines : ε → Engine σ) (actions : List (Action ε σ))
    (o : Caller) : (p.deedsIn engines actions).countP (Deed.closes o) ≤ 1 ∧
      ((∃ d ∈ p.deedsIn engines actions, d.closes o = true) →
        (p.afterAll engines actions).Retired o) := by
  induction actions generalizing p with
  | nil => exact ⟨Nat.zero_le 1, by rintro ⟨d, hd, -⟩; exact absurd hd List.not_mem_nil⟩
  | cons action actions ih =>
    obtain ⟨hcount, hretired⟩ := ih (haccounts.after engines action)
    rw [deedsIn, List.countP_append]
    by_cases hnow : ∃ d ∈ p.deeds engines action, d.closes o = true
    · -- It is shut by this action, so nothing of what follows is its doing.
      obtain ⟨d, hd, hcloses⟩ := hnow
      have hafter := retired_of_closes haccounts hd hcloses
      have hnone : ((p.after engines action).deedsIn engines actions).countP (Deed.closes o) = 0 := by
        refine List.countP_eq_zero.mpr fun d' hd' hcloses' => ?_
        have hcaller' := (Deed.closes_iff.mp hcloses').1
        exact hafter.caller_ne_run (haccounts.after engines action) engines actions d' hd' hcaller'
      have hle := countP_closes_le engines p action o
      refine ⟨by omega, fun _ => ?_⟩
      exact hafter.afterAll (haccounts.after engines action) engines actions
    · have hnone : (p.deeds engines action).countP (Deed.closes o) = 0 :=
        List.countP_eq_zero.mpr fun d hd hcloses => hnow ⟨d, hd, hcloses⟩
      refine ⟨by omega, ?_⟩
      rintro ⟨d, hd, hcloses⟩
      rcases List.mem_append.mp hd with hd | hd
      · exact absurd ⟨d, hd, hcloses⟩ hnow
      · exact hretired ⟨d, hd, hcloses⟩

end Program
end AudioLink
