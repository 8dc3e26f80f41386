import VolumeDrain.Proofs.Convergence
import VolumeDrain.Proofs.Operation

/-!
# Scaling up past a drain

A placeholder that a drain has left behind goes with the next reconciles once its ordinal is wanted:
each of them takes one action for its volume, and three are enough. This needs passes that see the
volume. While draining is off, while the specification is not valid, or after its volume was opted
out, nothing releases a placeholder.
-/
namespace VolumeDrain.Operator

open Drain Manifest Pool Script MemoryStore

/-- How many workers there are to be: as many as the pool says, or as the cluster has of an
autoscaled one. -/
def Desires (p : BufferPool) (n : Int32) (s : MemoryStore) : Prop :=
  if p.spec.autoscaled then s.replicas = .ok n else p.spec.replicas = n

/-- Users leave the pool as it is. -/
structure Retained (p p' : BufferPool) : Prop where
  name_eq : p'.name = p.name
  spec_eq : p'.spec = p.spec

/-- Between two reconciles workers come and go and deletions come to their end, and that is all. -/
structure Calm (p : BufferPool) (s s' : MemoryStore) : Prop extends Drift p s s' where
  replicas_eq : s'.replicas = s.replicas
  volume_eq : ∀ key v, s.volumes.get? key = some v → s'.volumes.get? key = some v
  job_eq : ∀ key job, s'.jobs.get? key = some job → p.Plays .drainer job.metadata.labelMap →
    s.jobs.get? key = some job ∧ job.metadata.isTerminating = false

/-- A number of reconciles, with calm after each of them, while the same number of workers is
wanted. -/
inductive Rounds (n : Int32) (p : BufferPool) (s : MemoryStore) :
    Nat → BufferPool → MemoryStore → Prop
  | none : Rounds n p s 0 p s
  | more {k : Nat} {p₁ p₂ : BufferPool} {s₁ s₂ s₃ : MemoryStore} (h : Rounds n p s k p₁ s₁)
      (hretained : Retained p₁ p₂) (hr : Reconciles p₂ s₁ s₂) (hn : Desires p₂ n s₂)
      (hcalm : Calm p₂ s₂ s₃) : Rounds n p s (k + 1) p₂ s₃

/-- Wanted ordinals whose volumes are listed are held for so many more actions at most. -/
def Nearing (p : BufferPool) (n : Int32) (r : Nat) (s : MemoryStore) : Prop :=
  ∀ (i : Nat) v x, (i : Int) < n.toInt → (s.slot p i).Held p i →
    s.volumes.get? (p.claimName i) = some v → Drainable p v → (s.slot p i).Shows p n i x →
    x.rank ≤ r

variable {p p' p₀ : BufferPool} {s s' s₀ s₁ s₂ s₃ : MemoryStore} {i k r : Nat} {n : Int32}

/-! ## Sights of wanted ordinals -/

theorem ordinal_le_of_lt (hi : (i : Int) < n.toInt) : i ≤ Text.maxOrdinal := by
  have hmax : n.toInt < 2 ^ 31 := n.toInt_lt
  have hbound : (i : Int) ≤ (Text.maxOrdinal : Int) := by
    rw [Text.maxOrdinal]
    omega
  exact_mod_cast hbound

theorem rank_le_three {x : Sight} (hx : x.inUse = true) : x.rank ≤ 3 := by
  rw [Sight.rank_of_inUse hx]
  have hmark : (if x.mark = .drained then 1 else 0) ≤ 1 := by split <;> omega
  have hrest : (if x.job.isSome then 2 else if x.placeholder then 1 else 0) ≤ 2 := by
    split
    · omega
    · split <;> omega
  omega

theorem action_ne_start {x : Sight} (hx : x.inUse = true) : x.action ≠ .start := by
  intro hstart
  have hw := x.warrants_action
  rw [hstart] at hw
  have hunused : x.inUse = false := hw.2.1
  rw [hx] at hunused
  cases hunused

theorem placeholder_of_after {x : Sight} (hx : x.inUse = true) (h : x.after.placeholder = true) :
    x.placeholder = true := by
  have hne := action_ne_start hx
  rw [Sight.after] at h
  cases haction : x.action with
  | start => exact absurd haction hne
  | finish | release =>
    rw [haction] at h
    cases h
  | none | reclaim | cancel | reportFailure =>
    rw [haction] at h
    exact h

/-! ## One round -/

theorem Retained.edited (h : Retained p p') : Edited p p' := by
  rw [Edited, BufferPool.turnedOn, BufferPool.turnedOn, h.name_eq, h.spec_eq]

theorem Edited.nearing (he : Edited p p') (h : Nearing p n r s) : Nearing p' n r s := by
  intro i v x hi hheld hv hdrainable hx
  have hname := he.claimName_eq i
  have hx' : (s.slot p i).Shows p n i x :=
    (he.iff (P := fun q => (s.slot q i).Shows q n i x) fun _ => shows_turnedOn).1 hx
  have hdrainable' : Drainable p v := ⟨he.plays.1 hdrainable.1, hdrainable.2⟩
  exact h i v x hi (he.held.1 hheld) (hname ▸ hv) hdrainable' hx'

/-- While draining is on, a reconcile that can be made makes a pass for the wanted number of
workers. -/
theorem Reconciled.pass_of_desires (hr : Reconciled p s₁ s₂) (happlies : Applies p)
    (hon : p.spec.drainEnabled = true) (hn : Desires p n s₂) :
    ∃ t out, Completes p { s₁ with replicas := .ok n } t out s₂ := by
  cases hr with
  | refused hnot => exact absurd happlies hnot
  | applied _ hoff _ =>
    rw [hon] at hoff
    cases hoff
  | @passed m t out _ _ _ hown hc =>
    have hm : m = n := by
      rw [Desires] at hn
      cases hauto : p.spec.autoscaled with
      | false =>
        rw [hauto] at hn
        exact (hown hauto).trans hn
      | true =>
        rw [hauto] at hn
        exact Except.ok.inj (hc.pass.replicas_eq.symm.trans hn)
    exact ⟨t, out, hm ▸ hc⟩

theorem wanes_of_calm (h : Accounted p s₂) (hcalm : Calm p s₂ s₃) {v : Claim}
    (hv : s₂.volumes.get? (p.claimName i) = some v) :
    Wanes p i (s₂.slot p i).settled (s₃.slot p i) where
  volume := (hcalm.volume_eq _ v hv).trans hv.symm
  job job hjob hdrains := by
    obtain ⟨hstored, halive⟩ := hcalm.job_eq _ job hjob hdrains.plays
    exact Option.filter_eq_some_iff.2 ⟨hstored, by rw [halive]; rfl⟩
  held hheld := held_settled_iff.2 (hcalm.held h hheld)

/-- A wanted ordinal that is still held after a round was held before it, and is one action nearer
to its release. -/
theorem Nearing.round (hnear : Nearing p n r s₁) (h : Accounted p s₁) (hp : p.WellNamed)
    (happlies : Applies p) (hon : p.spec.drainEnabled = true) (hr : Reconciled p s₁ s₂)
    (hn : Desires p n s₂) (hcalm : Calm p s₂ s₃) : Nearing p n (r - 1) s₃ := by
  intro i v y hi hheld hv hdrainable hy
  obtain ⟨t, out, hc⟩ := hr.pass_of_desires happlies hon hn
  have h₁ : Accounted p { s₁ with replicas := .ok n } := h.withReplicas _
  have h₂ : Accounted p s₂ := h.reconciled hp hr
  -- The volume of the ordinal is the one that the pass has listed.
  obtain ⟨w, hw, -⟩ := h₂.bound i (hcalm.held h₂ hheld)
  obtain rfl : v = w := Option.some.inj (hv.symm.trans (hcalm.volume_eq _ w hw))
  obtain ⟨old, hold, -, hlisted⟩ := hc.volume_before h₁.named hp hw
  have hlisted := hlisted.1 hdrainable
  have hname := h₁.named.name_eq _ _ hold
  have hx := h₁.named.shows_of_lt hp hname hold hi
  have hused := hx.inUse.2 (.inr hi)
  obtain ⟨u, -, hacted⟩ := hc.acted h₁.named hp rfl hold hlisted hx
    fun hstart => absurd hstart (action_ne_start hused)
  have htrails := hacted.trails hx (nextAction_eq_iff.1 rfl) (wanes_of_calm h₂ hcalm hw) hy
  have hrank := htrails.rank_le hused (hy.inUse.2 (.inr hi))
  have hshown := hy.placeholder.2 ⟨ordinal_le_of_lt hi, hheld⟩
  have hheld₁ := (hx.placeholder.1 (placeholder_of_after hused (htrails.placeholder hshown))).2
  have hbound := hnear i old _ hi hheld₁ hold hlisted hx
  exact Nat.le_trans hrank (Nat.sub_le_sub_right hbound 1)

/-! ## All rounds -/

theorem Rounds.retained (h : Rounds n p s k p' s') : Retained p p' := by
  induction h with
  | none => exact ⟨rfl, rfl⟩
  | more _ hretained _ _ _ ih =>
    exact ⟨hretained.name_eq.trans ih.name_eq, hretained.spec_eq.trans ih.spec_eq⟩

theorem Rounds.accounted (h : Rounds n p s k p' s') (hp : p.WellNamed) (hs : Accounted p s) :
    p'.WellNamed ∧ Accounted p' s' := by
  induction h with
  | none => exact ⟨hp, hs⟩
  | more _ hretained hr _ hcalm ih =>
    have hwell := hretained.edited.wellNamed.2 ih.1
    have hbefore := hretained.edited.accounted ih.2
    exact ⟨hwell, (hbefore.reconciled hwell hr.effect).drift hcalm.toDrift⟩

/-- A reconcile neither takes a listed volume away nor opts it out. -/
theorem Reconciled.stays_listed {key : String} {v : Claim} (hr : Reconciled p s s')
    (h : Accounted p s) (hp : p.WellNamed) (hv : s.volumes.get? key = some v)
    (hlisted : Drainable p v) : ∃ w, s'.volumes.get? key = some w ∧ Drainable p w := by
  cases hr with
  | refused => exact ⟨v, hv, hlisted⟩
  | applied => exact ⟨v, hv, hlisted⟩
  | @passed m _ _ _ _ _ _ hc =>
    have hnamed : Named p { s with replicas := .ok m } := (h.withReplicas _).named
    obtain ⟨w, hw, -⟩ := hc.volume_after hnamed hp hv hlisted.1
    obtain ⟨old, hold, -, hiff⟩ := hc.volume_before hnamed hp hw
    obtain rfl : v = old := Option.some.inj (hv.symm.trans hold)
    exact ⟨w, hw, hiff.2 hlisted⟩

theorem Rounds.stays_listed {key : String} {v : Claim} (h : Rounds n p s k p' s')
    (hp : p.WellNamed) (hs : Accounted p s) (hv : s.volumes.get? key = some v)
    (hlisted : Drainable p v) : ∃ w, s'.volumes.get? key = some w ∧ Drainable p' w := by
  induction h with
  | none => exact ⟨v, hv, hlisted⟩
  | more h hretained hr _ hcalm ih =>
    obtain ⟨w, hw, hlisted⟩ := ih
    obtain ⟨hwell, hbefore⟩ := h.accounted hp hs
    have hedited := hretained.edited
    obtain ⟨x, hx, hlisted⟩ := hr.effect.stays_listed (hedited.accounted hbefore)
      (hedited.wellNamed.2 hwell) hw ⟨hedited.plays.2 hlisted.1, hlisted.2⟩
    exact ⟨x, hcalm.volume_eq _ x hx, hlisted⟩

theorem Rounds.desires (h : Rounds n p s k p' s') (hk : 0 < k)
    (hown : p.spec.autoscaled = false) : p.spec.replicas = n := by
  cases h with
  | none => cases hk
  | more h hretained _ hn _ =>
    rw [Desires, hretained.spec_eq, h.retained.spec_eq, hown] at hn
    exact hn

theorem Rounds.nearing (h : Rounds n p s k p' s') (hp : p.WellNamed) (hs : Accounted p s)
    (happlies : Applies p.turnedOn) (hon : p.spec.drainEnabled = true)
    (hcount : ¬ p.spec.replicas < 0) : Nearing p' n (3 - k) s' := by
  induction h with
  | none =>
    intro i v x hi _ _ _ hx
    exact rank_le_three (hx.inUse.2 (.inr hi))
  | @more k p₁ p₂ s₁ s₂ s₃ h hretained hr hn hcalm ih =>
    obtain ⟨hwell, hbefore⟩ := h.accounted hp hs
    have hwell₂ := hretained.edited.wellNamed.2 hwell
    have hspec : p₂.spec = p.spec := hretained.spec_eq.trans h.retained.spec_eq
    have happlies₂ : Applies p₂ := by
      rw [← applies_turnedOn_iff (hspec ▸ hon) (hspec ▸ hcount), hretained.edited,
        h.retained.edited]
      exact happlies
    exact (hretained.edited.nearing ih).round (hretained.edited.accounted hbefore) hwell₂ happlies₂
      (hspec ▸ hon) hr.effect hn hcalm

/-- Once users and others leave the pool alone with draining on, three reconciles leave no
placeholder at a wanted ordinal that is not being deleted, but at those whose volumes are opted
out. -/
theorem scale_up_unblocked {key : String} {pod : Pod} (hp : p₀.WellNamed) (h₀ : Clear p₀ s₀)
    (hrun : Operates p₀ s₀ p s) (hon : p.spec.drainEnabled = true)
    (hcount : p.spec.autoscaled = true → ¬ p.spec.replicas < 0) (hrounds : Rounds n p s k p' s')
    (hk : 3 ≤ k) (hpod : s'.pods.get? key = some pod)
    (hrole : p'.Plays .placeholder pod.metadata.labelMap)
    (halive : pod.metadata.deletionTimestamp = none) (hname : nameOf pod = p'.placeholderName i)
    (hi : (i : Int) < n.toInt) :
    ∃ v, s'.volumes.get? (p'.claimName i) = some v ∧
      v.metadata.labelMap.get? optOutLabel = some "no" := by
  obtain ⟨hwell, hs⟩ := hrun.accounted hp h₀
  obtain ⟨hwell', hs'⟩ := hrounds.accounted hwell hs
  have hheld : (s'.slot p' i).Held p' i := by
    rw [← hs'.pod_name key pod hpod, hname] at hpod
    exact ⟨pod, hpod, ⟨hname, hrole⟩, halive⟩
  have hcount : ¬ p.spec.replicas < 0 := by
    intro hneg
    cases hauto : p.spec.autoscaled with
    | true => exact hcount hauto hneg
    | false =>
      -- Below a negative count there is no ordinal.
      rw [hrounds.desires (by omega) hauto, Int32.lt_iff_toInt_lt] at hneg
      have hzero : (0 : Int32).toInt = 0 := rfl
      omega
  have happlies : Applies p.turnedOn := by
    rw [← hrounds.retained.edited]
    exact hs'.applies i hheld
  obtain ⟨v, hv, hworker⟩ := hs'.bound i hheld
  refine ⟨v, hv, ?_⟩
  by_contra hlisted
  have hx := hs'.named.shows_of_lt hwell' (hs'.named.name_eq _ _ hv) hv hi
  have hrank := hrounds.nearing hwell hs happlies hon hcount i v _ hi hheld hv ⟨hworker, hlisted⟩ hx
  rw [Nat.sub_eq_zero_of_le hk, Nat.le_zero, Sight.rank_eq_zero_iff] at hrank
  have hshown := hx.placeholder.2 ⟨ordinal_le_of_lt hi, hheld⟩
  have hused := hx.inUse.2 (.inr hi)
  simp [hshown, hused] at hrank

/-! ## Ordinals that stay held -/

/-- No pass sees the volume of the ordinal. -/
def Unseen (p : BufferPool) (i : Nat) (s : MemoryStore) : Prop :=
  ¬ Applies p ∨ p.spec.drainEnabled = false ∨
    ∀ v, s.volumes.get? (p.claimName i) = some v → ¬ Drainable p v

/-- A reconcile, and the end of the deletions that are under way after it. -/
def settledRound (p : BufferPool) (s : MemoryStore) : MemoryStore :=
  (reconciled p s).finishDeletions

theorem calm_finishDeletions (h : Accounted p s) : Calm p s s.finishDeletions := by
  obtain ⟨hpods, hjobs⟩ := get?_finishDeletions s
  refine ⟨drift_of_fewer h h.volumes (fun _ v hv hplays => ⟨v, hv, hplays⟩) hpods hjobs, rfl,
    fun _ _ hv => hv, ?_⟩
  intro key job hjob _
  rw [MemoryStore.finishDeletions, KeyMap.get?_filter, Option.filter_eq_some_iff] at hjob
  exact ⟨hjob.1, by simpa using hjob.2⟩

theorem Reconciled.slot_eq (hr : Reconciled p s s') (h : Accounted p s) (hp : p.WellNamed)
    (hunseen : Unseen p i s) : s'.slot p i = s.slot p i := by
  cases hr with
  | refused => rfl
  | applied => rfl
  | @passed m _ _ _ happlies hon _ hc =>
    have hcounted : Accounted p { s with replicas := .ok m } := h.withReplicas _
    have hother : ∀ v, s.volumes.get? (p.claimName i) = some v → ¬ Drainable p v := by
      rcases hunseen with hnot | hoff | hother
      · exact absurd happlies hnot
      · rw [hon] at hoff
        cases hoff
      · exact hother
    have hsame := hc.slot_eq hcounted.named hp hother
    exact hsame

/-- A reconcile leaves the wanted number of workers as it was, if that is the pool's own number or
nothing is applied. -/
theorem Desires.reconciled (hn : Desires p n s) (hr : Reconciled p s s')
    (hfixed : p.spec.autoscaled = false ∨ ¬ Applies p) : Desires p n s' := by
  rcases hfixed with hown | hnot
  · rw [Desires, hown] at hn ⊢
    exact hn
  · cases hr with
    | refused => exact hn
    | applied happlies | passed happlies => exact absurd happlies hnot

theorem rounds_iterate (hp : p.WellNamed) (h : Accounted p s) (hn : Desires p n s)
    (hfixed : p.spec.autoscaled = false ∨ ¬ Applies p) (k : Nat) :
    Rounds n p s k p ((settledRound p)^[k] s) ∧ Desires p n ((settledRound p)^[k] s) := by
  induction k with
  | zero => exact ⟨.none, hn⟩
  | succ k ih =>
    obtain ⟨hrounds, hwanted⟩ := ih
    have hbefore := (hrounds.accounted hp h).2
    have hr := reconciles_reconciled p ((settledRound p)^[k] s)
    have hafter := hbefore.reconciled hp hr.effect
    have hwanted' := hwanted.reconciled hr.effect hfixed
    rw [Function.iterate_succ_apply']
    exact ⟨hrounds.more ⟨rfl, rfl⟩ hr hwanted' (calm_finishDeletions hafter), hwanted'⟩

theorem held_iterate (hp : p.WellNamed) (h : Accounted p s) (hn : Desires p n s)
    (hfixed : p.spec.autoscaled = false ∨ ¬ Applies p) (hunseen : Unseen p i s)
    (hheld : (s.slot p i).Held p i) (k : Nat) :
    (((settledRound p)^[k] s).slot p i).Held p i ∧ Unseen p i ((settledRound p)^[k] s) := by
  induction k with
  | zero => exact ⟨hheld, hunseen⟩
  | succ k ih =>
    obtain ⟨hheldBefore, hunseenBefore⟩ := ih
    have hbefore := ((rounds_iterate hp h hn hfixed k).1.accounted hp h).2
    have hr := reconciles_reconciled p ((settledRound p)^[k] s)
    have hsame := hr.effect.slot_eq hbefore hp hunseenBefore
    rw [Function.iterate_succ_apply']
    constructor
    · rw [settledRound, slot_finishDeletions, hsame]
      exact held_settled_iff.2 hheldBefore
    · have hvolume := congrArg Slot.volume hsame
      refine hunseenBefore.imp_right (Or.imp_right fun hother v hv => ?_)
      exact hother v (hvolume.symm.trans hv)

/-- Where no pass sees its volume, an ordinal stays held for good, wanted or not. -/
theorem unseen_stays_held (hp : p.WellNamed) (h : Accounted p s) (hn : Desires p n s)
    (hfixed : p.spec.autoscaled = false ∨ ¬ Applies p) (hunseen : Unseen p i s)
    (hheld : (s.slot p i).Held p i) (k : Nat) :
    ∃ s', Rounds n p s k p s' ∧ (s'.slot p i).Held p i :=
  ⟨_, (rounds_iterate hp h hn hfixed k).1, (held_iterate hp h hn hfixed hunseen hheld k).1⟩

/-! ## A pool that is scaled up -/

/-- The pool `logs` without workers, with draining on. -/
def logsDrained : BufferPool :=
  .ofSpec "logs" { replicas := 0, scaling := { drain := { enabled := true } } }

/-- The pool is to have a worker again. -/
def logsWanted : BufferPool := .ofSpec "logs" { scaling := { drain := { enabled := true } } }

/-- The pool as it is drained, but autoscaled. -/
def logsAutoscaled : BufferPool :=
  .ofSpec "logs" { replicas := 0, autoscaled := true, scaling := { drain := { enabled := true } } }

/-- The autoscaled pool with a replica count that is refused. -/
def logsRefused : BufferPool :=
  .ofSpec "logs" { replicas := -1, autoscaled := true, scaling := { drain := { enabled := true } } }

/-- A placeholder that is not being deleted is found under the ordinal's name. -/
def findsHeld (p : BufferPool) (i : Nat) (s : MemoryStore) : Bool :=
  (s.pods.get? (p.placeholderName i)).any fun pod =>
    nameOf pod == p.placeholderName i &&
      (Selector.read (p.selector .placeholder)).holds pod.metadata.labelMap &&
        pod.metadata.deletionTimestamp.isNone

theorem held_of_findsHeld (hp : p.WellNamed) (h : findsHeld p i s = true) :
    (s.slot p i).Held p i := by
  obtain ⟨pod, hpod, hfacts⟩ := Option.any_eq_true _ _ |>.1 h
  simp only [Bool.and_eq_true, beq_iff_eq, Option.isNone_iff_eq_none] at hfacts
  obtain ⟨⟨hname, hholds⟩, halive⟩ := hfacts
  exact ⟨pod, hpod, ⟨hname, (BufferPool.holds_selector_iff hp).1 hholds⟩, halive⟩

theorem clear_logsScaledDown (hname : p.claimName 0 = logsPool.claimName 0) :
    Clear p logsScaledDown where
  volumes := by
    refine KeyMap.forall_get?_ofList (l := [(logsPool.claimName 0, bareVolume logsPool 0)]) ?_
    exact List.forall_mem_singleton.2 ⟨rfl, fun _ => ⟨0, hname.symm⟩⟩
  pod_name _ _ hpod := nomatch hpod
  unreserved _ _ hpod := nomatch hpod
  jobs _ _ hjob := nomatch hjob

theorem findsHeld_logsDrained :
    findsHeld logsDrained 0 (reconciled logsDrained logsScaledDown) = true := by
  decide +kernel

theorem findsHeld_logsAutoscaled :
    findsHeld logsAutoscaled 0 (reconciled logsAutoscaled logsScaledDown) = true := by
  decide +kernel

/-- Once the drain has begun the ordinal is held, and its volume is listed as before. -/
theorem drains_logsScaledDown (hp : p.WellNamed) (hname : p.claimName 0 = logsPool.claimName 0)
    (hlisted : Drainable p (bareVolume logsPool 0))
    (hfinds : findsHeld p 0 (reconciled p logsScaledDown) = true) :
    ∃ s v, Operates p logsScaledDown p s ∧ Accounted p s ∧ (s.slot p 0).Held p 0 ∧
      s.volumes.get? (p.claimName (0 : Nat)) = some v ∧ Drainable p v := by
  have hbefore : Accounted p logsScaledDown := (clear_logsScaledDown hname).accounted
  have hr := reconciles_reconciled p logsScaledDown
  have hstored : logsScaledDown.volumes.get? (p.claimName (0 : Nat)) =
      some (bareVolume logsPool 0) := (KeyMap.get?_insert _ _ _ _).trans (if_pos hname)
  obtain ⟨v, hv, hstill⟩ := hr.effect.stays_listed hbefore hp hstored hlisted
  exact ⟨_, v, Operates.start.reconcile hr, hbefore.reconciled hp hr.effect,
    held_of_findsHeld hp hfinds, hv, hstill⟩

theorem drains_logsDrained :
    ∃ s v, Operates logsDrained logsScaledDown logsDrained s ∧ Accounted logsDrained s ∧
      (s.slot logsDrained 0).Held logsDrained 0 ∧
      s.volumes.get? (logsDrained.claimName (0 : Nat)) = some v ∧ Drainable logsDrained v :=
  drains_logsScaledDown (by decide) rfl (drainable_bareVolume logsDrained 0) findsHeld_logsDrained

/-- The volume is opted out after the drain has begun, and then a worker is wanted again. -/
theorem opted_out_logs :
    ∃ s, Operates logsDrained logsScaledDown logsWanted s ∧
      (s.slot logsWanted 0).Held logsWanted 0 ∧ Unseen logsWanted 0 s := by
  obtain ⟨s, v, hdrained, hs, hheld, hv, -⟩ := drains_logsDrained
  have hedited : Edited logsDrained logsWanted := rfl
  refine ⟨_, (hdrained.drift (drift_relabel hs hv (some "no"))).edit hedited,
    hedited.held.2 hheld, .inr (.inr ?_)⟩
  intro w hw hdrainable
  rw [hedited.claimName_eq, KeyMap.get?_insert, if_pos rfl] at hw
  obtain rfl := Option.some.inj hw
  exact hdrainable.2 ((KeyMap.get?_insert _ _ _ _).trans (if_pos rfl))

/-- Once the pool is to have its worker again, three reconciles free the ordinal. If the volume was
opted out before, it is still held. -/
theorem scale_up_unblocked_logs :
    (∃ s s', Operates logsDrained logsScaledDown logsWanted s ∧
      (s.slot logsWanted 0).Held logsWanted 0 ∧ Rounds 1 logsWanted s 3 logsWanted s' ∧
      ¬ (s'.slot logsWanted 0).Held logsWanted 0) ∧
    ∃ s s', Operates logsDrained logsScaledDown logsWanted s ∧
      Rounds 1 logsWanted s 3 logsWanted s' ∧ (s'.slot logsWanted 0).Held logsWanted 0 ∧
      ∃ v, s'.volumes.get? (logsWanted.claimName (0 : Nat)) = some v ∧
        v.metadata.labelMap.get? optOutLabel = some "no" := by
  have hp : logsDrained.WellNamed := by decide
  have hclear : Clear logsDrained logsScaledDown := clear_logsScaledDown rfl
  constructor
  · obtain ⟨s, v, hdrained, -, hheld, hv, hlisted⟩ := drains_logsDrained
    have hedited : Edited logsDrained logsWanted := rfl
    have hrun := hdrained.edit hedited
    obtain ⟨hwell, hs⟩ := hrun.accounted hp hclear
    obtain ⟨s', hrounds⟩ : ∃ s', Rounds 1 logsWanted s 3 logsWanted s' :=
      ⟨_, (rounds_iterate hwell hs rfl (.inl rfl) 3).1⟩
    refine ⟨s, s', hrun, hedited.held.2 hheld, hrounds, ?_⟩
    rintro ⟨pod, hpod, hholds⟩
    obtain ⟨w, hw, hopted⟩ := scale_up_unblocked hp hclear hrun rfl (by decide) hrounds
      (Nat.le_refl 3) hpod hholds.plays hholds.alive hholds.name_eq (by decide)
    obtain ⟨x, hx, hstill⟩ := hrounds.stays_listed hwell hs hv
      ⟨hedited.plays.2 hlisted.1, hlisted.2⟩
    obtain rfl : w = x := Option.some.inj (hw.symm.trans hx)
    exact hstill.2 hopted
  · obtain ⟨s, hrun, hheld, hunseen⟩ := opted_out_logs
    obtain ⟨hwell, hs⟩ := hrun.accounted hp hclear
    obtain ⟨s', hrounds, hheld'⟩ := unseen_stays_held hwell hs rfl (.inl rfl) hunseen hheld 3
    refine ⟨s, s', hrun, hrounds, hheld', ?_⟩
    obtain ⟨pod, hpod, hholds⟩ := hheld'
    exact scale_up_unblocked hp hclear hrun rfl (by decide) hrounds (Nat.le_refl 3) hpod
      hholds.plays hholds.alive hholds.name_eq (by decide)

/-- Passes that are turned off, a volume that is opted out and a specification that is refused each
leave the ordinal held, though a worker is wanted there, however many reconciles follow. -/
theorem leftover_blocks_scale_up :
    (∃ s, Operates logsDrained logsScaledDown logsPool s ∧
      ∀ k, ∃ s', Rounds 1 logsPool s k logsPool s' ∧ (s'.slot logsPool 0).Held logsPool 0) ∧
    (∃ s, Operates logsDrained logsScaledDown logsWanted s ∧
      ∀ k, ∃ s', Rounds 1 logsWanted s k logsWanted s' ∧
        (s'.slot logsWanted 0).Held logsWanted 0) ∧
    ∃ s, Operates logsAutoscaled logsScaledDown logsRefused s ∧
      ∀ k, ∃ s', Rounds 1 logsRefused s k logsRefused s' ∧
        (s'.slot logsRefused 0).Held logsRefused 0 := by
  have hp : logsDrained.WellNamed := by decide
  have hclear : Clear logsDrained logsScaledDown := clear_logsScaledDown rfl
  refine ⟨?_, ?_, ?_⟩
  · -- Draining is turned off.
    obtain ⟨s, -, hdrained, -, hheld, -, -⟩ := drains_logsDrained
    have hedited : Edited logsDrained logsPool := rfl
    have hrun := hdrained.edit hedited
    obtain ⟨hwell, hs⟩ := hrun.accounted hp hclear
    exact ⟨s, hrun, unseen_stays_held hwell hs rfl (.inl rfl) (.inr (.inl rfl))
      (hedited.held.2 hheld)⟩
  · -- The volume is opted out.
    obtain ⟨s, hrun, hheld, hunseen⟩ := opted_out_logs
    obtain ⟨hwell, hs⟩ := hrun.accounted hp hclear
    exact ⟨s, hrun, unseen_stays_held hwell hs rfl (.inl rfl) hunseen hheld⟩
  · -- The replica count is one that the specification may not have.
    have hpAuto : logsAutoscaled.WellNamed := by decide
    obtain ⟨s, -, hdrained, hs, hheld, -, -⟩ := drains_logsScaledDown hpAuto rfl
      (drainable_bareVolume logsAutoscaled 0) findsHeld_logsAutoscaled
    have hedited : Edited logsAutoscaled logsRefused := rfl
    have hrun := (hdrained.drift (drift_withReplicas hs (.ok 1))).edit hedited
    obtain ⟨hwell, hs'⟩ := hrun.accounted hpAuto (clear_logsScaledDown rfl)
    have hrefused : ¬ Applies logsRefused := fun happlies =>
      replicas_nonneg happlies.valid (by decide)
    exact ⟨_, hrun, unseen_stays_held hwell hs' rfl (.inr hrefused) (.inl hrefused)
      (hedited.held.2 hheld)⟩

end VolumeDrain.Operator
