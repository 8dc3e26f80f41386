import VolumeDrain.Proofs.Effect

/-!
# How sights follow one another

Seen from one pass to the next, an ordinal goes from sight to sight. Where no call fails and what
is being deleted comes to its end in between, the next sight is the one that the action was taken
for, or falls short of it where something was already on its way out. The rank of a sight counts the
actions still to come; a sight of rank zero asks for none.
-/
namespace VolumeDrain.Drain

open Manifest Script MemoryStore

namespace Sight

/-- The action for what is seen. -/
def action (x : Sight) : DrainAction := (VolumeState.of x).nextAction x

/-- What is to be seen once an action has been carried out. -/
def made (x : Sight) : DrainAction → Sight
  | .none | .reportFailure _ => x
  | .reclaim => { x with mark := .unmarked }
  | .start => { x with job := some .running, placeholder := true }
  | .cancel => { x with job := none }
  | .finish => { x with mark := .drained, job := none, placeholder := false }
  | .release => { x with placeholder := false }

/-- What the action for what is seen is taken for. -/
def after (x : Sight) : Sight := x.made x.action

/-- How many actions are still to come for the volume, if its use does not change. -/
def rank (x : Sight) : Nat :=
  if x.inUse then
    (if x.mark = .drained then 1 else 0) +
      if x.job.isSome then 2 else if x.placeholder then 1 else 0
  else
    match x.job with
    | some .succeeded => 1
    | some _ => 0
    | none => if x.mark = .drained ∧ x.placeholder = false then 0 else 1

/-- The second sight has the mark of the first, and no more of a job and a placeholder. -/
structure Trails (x y : Sight) : Prop where
  mark : y.mark = x.mark
  job : y.job = x.job ∨ y.job = none
  placeholder : y.placeholder = true → x.placeholder = true

variable {x y : Sight}

theorem inUse_made (x : Sight) (action : DrainAction) : (x.made action).inUse = x.inUse := by
  cases action <;> rfl

theorem warrants_action (x : Sight) : Warrants x x.action := nextAction_eq_iff.1 rfl

theorem rank_of_inUse (h : x.inUse = true) :
    x.rank = (if x.mark = .drained then 1 else 0) +
      if x.job.isSome then 2 else if x.placeholder then 1 else 0 :=
  if_pos h

theorem rank_le_one_of_unused (h : x.inUse = false) : x.rank ≤ 1 := by
  rw [rank, h]
  simp only [Bool.false_eq_true, if_false]
  split
  · exact Nat.le_refl 1
  · exact Nat.zero_le 1
  · split <;> omega

/-- No action leaves a volume that is in use both marked and with a job. -/
theorem Trails.rank_le_two (h : x.after.Trails y) (huse : y.inUse = true → x.inUse = true) :
    y.rank ≤ 2 := by
  cases hy : y.inUse with
  | false => exact Nat.le_succ_of_le (rank_le_one_of_unused hy)
  | true =>
    have hx := huse hy
    have hjob : y.mark = .drained → y.job = none := by
      intro hmark
      have hw := x.warrants_action
      rw [h.mark] at hmark
      refine h.job.elim (fun hjob => ?_) id
      rw [hjob]
      cases ha : x.action <;> simp_all [after, made, Warrants]
    rw [rank_of_inUse hy]
    by_cases hmark : y.mark = .drained
    · rw [if_pos hmark, hjob hmark]
      simp only [Option.isSome_none, Bool.false_eq_true, if_false]
      split <;> omega
    · rw [if_neg hmark]
      split
      · omega
      · split <;> omega

/-- In use, every sight is followed by one of lower rank, whatever goes by itself. -/
theorem Trails.rank_le (h : x.after.Trails y) (hx : x.inUse = true) (hy : y.inUse = true) :
    y.rank ≤ x.rank - 1 := by
  have hw := x.warrants_action
  obtain ⟨hmark, hjob, hplaceholder⟩ := h
  rw [rank_of_inUse hx, rank_of_inUse hy]
  cases ha : x.action with
  | none =>
    rw [ha] at hw
    rw [after, ha, made] at hmark hjob hplaceholder
    have hfree : x.job = none ∧ x.placeholder = false ∧ x.mark = .unmarked := by
      simpa [Warrants, hx] using hw
    simp_all
  | reclaim =>
    rw [ha] at hw
    rw [after, ha, made] at hmark hjob hplaceholder
    have hdrained : x.mark = .drained := hw.2
    rcases hjob with hjob | hjob <;> simp_all <;> grind
  | start =>
    -- Only unused volumes have their drain started.
    rw [ha] at hw
    rw [hw.2.1] at hx
    cases hx
  | cancel =>
    rw [ha] at hw
    rw [after, ha, made] at hmark hjob hplaceholder
    obtain ⟨-, hunmarked, progress, hprogress, -⟩ := hw
    have hnone : y.job = none := by simpa using hjob
    simp_all
    split <;> omega
  | finish =>
    rw [ha] at hw
    rw [after, ha, made] at hmark hjob hplaceholder
    have hsome : x.job = some .succeeded := hw.1
    simp_all
  | release =>
    rw [ha] at hw
    rw [after, ha, made] at hmark hjob hplaceholder
    obtain ⟨hnone, hheld, hiff⟩ := hw
    simp_all
  | reportFailure attempts =>
    rw [ha] at hw
    rw [hw.2] at hx
    cases hx

/-- The sight that an action was taken for has a lower rank, also if the volume is no longer in use
once its drain is finished. -/
theorem rank_after_le {inUse : Bool} (huse : inUse = x.inUse ∨
    (x.action = .finish ∧ (inUse = true → x.inUse = true))) :
    { x.after with inUse }.rank ≤ x.rank - 1 := by
  -- There are few sights, and each is followed by one of lower rank, or has rank zero.
  obtain ⟨mark, use, job, placeholder⟩ := x
  rcases job with _ | _ | _ | attempts <;> cases mark <;> cases placeholder <;> cases use <;>
    cases inUse <;> simp_all [after, made, action, VolumeState.of, VolumeState.nextAction, rank]

/-- What is seen of a volume for which nothing is left to do: in use it is unmarked and has neither
job nor placeholder; unused it is drained, or an unfinished job drains it. -/
theorem rank_eq_zero_iff : x.rank = 0 ↔
    (x.inUse = true ∧ x.mark = .unmarked ∧ x.job = none ∧ x.placeholder = false) ∨
      (x.inUse = false ∧ ((x.mark = .drained ∧ x.job = none ∧ x.placeholder = false) ∨
        ∃ progress, x.job = some progress ∧ progress ≠ .succeeded)) := by
  obtain ⟨mark, inUse, job, placeholder⟩ := x
  rcases job with _ | _ | _ | attempts <;> cases mark <;> cases placeholder <;> cases inUse <;>
    simp [rank]

theorem action_of_rank_eq_zero (h : x.rank = 0) :
    x.action = .none ∨ ∃ attempts, x.action = .reportFailure attempts := by
  obtain ⟨mark, inUse, job, placeholder⟩ := x
  rcases job with _ | _ | _ | attempts <;> cases mark <;> cases placeholder <;> cases inUse <;>
    simp_all [action, VolumeState.of, VolumeState.nextAction, rank]

end Sight

/-! ## Slots that come to rest -/

namespace Slot

/-- The ordinal once the deletions under way have come to their end. -/
def settled (σ : Slot) : Slot where
  volume := σ.volume
  pod := σ.pod.filter fun pod => !pod.metadata.isTerminating
  job := σ.job.filter fun job => !job.metadata.isTerminating

/-- Nothing of the ordinal is being deleted. -/
def Still (σ : Slot) : Prop := σ.settled = σ

end Slot

variable {p : BufferPool} {i : Nat} {n : Int32} {σ σ₁ σ' : Slot} {x y : Sight} {v : Claim}
  {u : List StoreExchange}

theorem filter_eq_none_of_ending {α : Type} [Resource α] {x : Option α} (h : Ending x) :
    x.filter (fun a => !(metadata a).isTerminating) = none := by
  cases x with
  | none => rfl
  | some a => simp [h a rfl]

theorem settled_pod_of_ending (h : Ending σ.pod) : σ.settled.pod = none :=
  filter_eq_none_of_ending h

theorem settled_job_of_ending (h : Ending σ.job) : σ.settled.job = none :=
  filter_eq_none_of_ending h

theorem settled_settled (σ : Slot) : σ.settled.Still := by
  simp [Slot.Still, Slot.settled, Option.filter_filter]

theorem pod_of_settled {pod : Pod} (h : σ.settled.pod = some pod) : σ.pod = some pod :=
  (Option.filter_eq_some_iff.1 h).1

theorem job_of_settled {job : Job} (h : σ.settled.job = some job) : σ.job = some job :=
  (Option.filter_eq_some_iff.1 h).1

theorem held_settled_iff : σ.settled.Held p i ↔ σ.Held p i := by
  constructor
  · rintro ⟨pod, hpod, hholds⟩
    exact ⟨pod, pod_of_settled hpod, hholds⟩
  · rintro ⟨pod, hpod, hholds⟩
    refine ⟨pod, Option.filter_eq_some_iff.2 ⟨hpod, ?_⟩, hholds⟩
    simp [ObjectMeta.isTerminating, hholds.alive]

theorem not_held_of_ending (h : Ending σ.pod) : ¬ σ.Held p i := by
  rintro ⟨pod, hpod, hholds⟩
  have hdying := h pod hpod
  change pod.metadata.isTerminating = true at hdying
  rw [ObjectMeta.isTerminating, hholds.alive] at hdying
  cases hdying

theorem not_worked_of_held (h : σ.Held p i) : ¬ σ.Worked p i := by
  rintro ⟨pod, hpod, hworks⟩
  obtain ⟨held, hheld, hholds⟩ := h
  rw [hpod] at hheld
  cases hheld
  exact not_works_of_reserves hholds.toReserves hworks

theorem held_congr (h : σ'.pod = σ.pod) : σ'.Held p i ↔ σ.Held p i := by
  rw [Slot.Held, h, Slot.Held]

theorem worked_congr (h : σ'.pod = σ.pod) : σ'.Worked p i ↔ σ.Worked p i := by
  rw [Slot.Worked, h, Slot.Worked]

theorem ofLabels_withLabel (v : Claim) (mark : DrainMark) :
    DrainMark.ofLabels (withLabel v statusLabel mark.labelValue?).metadata.labelMap = mark := by
  cases mark with
  | drained =>
    refine if_pos ?_
    exact (KeyMap.get?_insert _ _ _ _).trans (if_pos rfl)
  | unmarked =>
    refine if_neg ?_
    have herased : (withLabel v statusLabel none).metadata.labelMap.get? statusLabel = none :=
      (KeyMap.get?_erase _ _ _).trans (if_pos rfl)
    rw [DrainMark.labelValue?, herased]
    exact nofun

/-- An ordinal has one sight. -/
theorem Slot.Shows.unique (hx : σ.Shows p n i x) (hy : σ.Shows p n i y) : x = y := by
  obtain ⟨v, hv, hmark⟩ := hx.mark
  obtain ⟨w, hw, hmark'⟩ := hy.mark
  obtain rfl : v = w := Option.some.inj (hv.symm.trans hw)
  have hjob : x.job = y.job := by
    rcases hx.job with ⟨hnone, hjobless⟩ | ⟨job, hstored, hdrains, hsome⟩ <;>
      rcases hy.job with ⟨hnone', hjobless'⟩ | ⟨job', hstored', hdrains', hsome'⟩
    · rw [hnone, hnone']
    · exact absurd hdrains' (hjobless job' hstored')
    · exact absurd hdrains (hjobless' job hstored)
    · obtain rfl : job = job' := Option.some.inj (hstored.symm.trans hstored')
      rw [hsome, hsome']
  have huse : x.inUse = y.inUse := Bool.eq_iff_iff.2 (hx.inUse.trans hy.inUse.symm)
  have hheld : x.placeholder = y.placeholder :=
    Bool.eq_iff_iff.2 (hx.placeholder.trans hy.placeholder.symm)
  cases x
  cases y
  simp_all

/-- Since an ordinal was as it is said first, its volume has stayed as it was, and no drain job or
placeholder has come. -/
structure Wanes (p : BufferPool) (i : Nat) (σ σ' : Slot) : Prop where
  volume : σ'.volume = σ.volume
  job : ∀ job, σ'.job = some job → Drains p i job → σ.job = some job
  held : σ'.Held p i → σ.Held p i

theorem Wanes.refl (σ : Slot) : Wanes p i σ σ := ⟨rfl, fun _ hjob _ => hjob, id⟩

/-- After an action whose calls have not failed, and once the deletions have ended, the next sight
trails what the action was taken for. -/
theorem Acted.trails {n' : Int32} {action : DrainAction} (hx : σ.Shows p n i x)
    (hw : Warrants x action) (h : Acted p i σ u action σ₁) (hwanes : Wanes p i σ₁.settled σ')
    (hy : σ'.Shows p n' i y) : (x.made action).Trails y := by
  -- What the next sight shows, said of the slot that the action has left.
  have hmark : ∀ v, σ₁.volume = some v → y.mark = .ofLabels v.metadata.labelMap := by
    intro v hv
    obtain ⟨w, hw, hmark⟩ := hy.mark
    rw [hwanes.volume] at hw
    obtain rfl : v = w := Option.some.inj (hv.symm.trans hw)
    exact hmark
  have hjob : y.job = none ∨ ∃ job, σ₁.settled.job = some job ∧ Drains p i job ∧
      y.job = some (JobProgress.of job) := by
    rcases hy.job with ⟨hnone, -⟩ | ⟨job, hstored, hdrains, hsome⟩
    · exact .inl hnone
    · exact .inr ⟨job, hwanes.job job hstored hdrains, hdrains, hsome⟩
  have hheld : y.placeholder = true → i ≤ Text.maxOrdinal ∧ σ₁.Held p i := fun hy' =>
    (hy.placeholder.1 hy').imp_right fun hheld => held_settled_iff.1 (hwanes.held hheld)
  -- What an action has left alone shows as before, and what it has deleted is not seen again.
  have hsameMark : σ₁.volume = σ.volume → y.mark = x.mark := by
    intro hsame
    obtain ⟨v, hv, hxmark⟩ := hx.mark
    rw [hxmark, hmark v (hsame.trans hv)]
  have hsameJob : σ₁.job = σ.job → y.job = x.job ∨ y.job = none := by
    intro hsame
    rcases hjob with hnone | ⟨job, hstored, hdrains, hsome⟩
    · exact .inr hnone
    · have hold : σ.job = some job := hsame ▸ job_of_settled hstored
      rcases hx.job with ⟨-, hjobless⟩ | ⟨old, hstored', -, hsome'⟩
      · exact absurd hdrains (hjobless job hold)
      · obtain rfl : job = old := Option.some.inj (hold.symm.trans hstored')
        exact .inl (hsome.trans hsome'.symm)
  have hsamePod : σ₁.pod = σ.pod → y.placeholder = true → x.placeholder = true := fun hsame hy' =>
    hx.placeholder.2 ((hheld hy').imp_right (held_congr hsame).1)
  have hendsJob : Ending σ₁.job → y.job = none := by
    intro hending
    rcases hjob with hnone | ⟨job, hstored, -, -⟩
    · exact hnone
    · rw [settled_job_of_ending hending] at hstored
      cases hstored
  have hendsPod : Ending σ₁.pod → y.placeholder = true → False := fun hending hy' =>
    not_held_of_ending hending (hheld hy').2
  cases h with
  | idle => exact ⟨hsameMark rfl, hsameJob rfl, hsamePod rfl⟩
  | reportFailure attempts => exact ⟨hsameMark rfl, hsameJob rfl, hsamePod rfl⟩
  | reclaim _ =>
    exact ⟨(hmark _ rfl).trans (ofLabels_withLabel _ _), hsameJob rfl, hsamePod rfl⟩
  | yield _ _ _ =>
    have hnone : y.job = none := (hsameJob rfl).elim (fun h => h.trans hw.1) id
    exact ⟨hsameMark rfl, .inr hnone, fun _ => rfl⟩
  | @start _ job hvolume _ hstored _ hstatus _ =>
    refine ⟨hsameMark hvolume, ?_, fun _ => rfl⟩
    rcases hjob with hnone | ⟨new, hnew, -, hsome⟩
    · exact .inr hnone
    · obtain rfl : job = new := Option.some.inj (hstored.symm.trans (job_of_settled hnew))
      rw [hsome, JobProgress.of, hstatus]
      exact .inl rfl
  | cancel hvolume hpod hending => exact ⟨hsameMark hvolume, .inr (hendsJob hending), hsamePod hpod⟩
  | finish _ hvolume hpod hending =>
    exact ⟨(hmark _ hvolume).trans (ofLabels_withLabel _ _), .inr (hendsJob hending),
      fun hy' => (hendsPod hpod hy').elim⟩
  | release hvolume hsame _ hpod =>
    exact ⟨hsameMark hvolume, hsameJob hsame, fun hy' => (hendsPod hpod hy').elim⟩

/-- An action brings no worker to its ordinal. -/
theorem Acted.worked {action : DrainAction} (h : Acted p i σ u action σ₁)
    (hworked : σ₁.settled.Worked p i) : σ.Worked p i := by
  obtain ⟨pod, hpod, hworks⟩ := hworked
  have hstored := pod_of_settled hpod
  have hends : ¬ Ending σ₁.pod := fun hending => by
    rw [settled_pod_of_ending hending] at hpod
    cases hpod
  cases h with
  | idle | reportFailure | reclaim | yield => exact ⟨pod, hstored, hworks⟩
  | start _ hheld => exact absurd ⟨pod, hstored, hworks⟩ (not_worked_of_held hheld)
  | cancel _ hsame => exact ⟨pod, hsame ▸ hstored, hworks⟩
  | finish _ _ hpod _ => exact absurd hpod hends
  | release _ _ _ hpod => exact absurd hpod hends

/-- Where nothing was being deleted before an action, settling does not undo what it did. -/
theorem Acted.settled {action : DrainAction} (hstill : σ.Still) (h : Acted p i σ u action σ₁) :
    Acted p i σ u action σ₁.settled := by
  have hpods : σ₁.pod = σ.pod → σ₁.settled.pod = σ.pod := fun hsame => by
    rw [← congrArg Slot.pod hstill, Slot.settled, Slot.settled, hsame]
  have hjobs : σ₁.job = σ.job → σ₁.settled.job = σ.job := fun hsame => by
    rw [← congrArg Slot.job hstill, Slot.settled, Slot.settled, hsame]
  have hgone : ∀ {α : Type} [Resource α], Ending (none : Option α) := nofun
  cases h with
  | idle =>
    rw [hstill]
    exact .idle
  | reportFailure attempts =>
    rw [hstill]
    exact .reportFailure attempts
  | @reclaim v hv =>
    have hsettled : Slot.settled { σ with
        volume := some (withLabel v statusLabel DrainMark.unmarked.labelValue?) } =
        { σ with volume := some (withLabel v statusLabel DrainMark.unmarked.labelValue?) } :=
      Slot.ext rfl (hpods rfl) (hjobs rfl)
    rw [hsettled]
    exact .reclaim hv
  | yield hpod hdying hasked =>
    rw [hstill]
    exact .yield hpod hdying hasked
  | start hvolume hheld hjob hdrains hstatus halive =>
    refine .start hvolume (held_settled_iff.2 hheld) ?_ hdrains hstatus halive
    exact Option.filter_eq_some_iff.2 ⟨hjob, by simp [ObjectMeta.isTerminating, halive]⟩
  | cancel hvolume hpod hjob =>
    exact .cancel hvolume (hpods hpod) (settled_job_of_ending hjob ▸ hgone)
  | finish hv hvolume hpod hjob =>
    exact .finish hv hvolume (settled_pod_of_ending hpod ▸ hgone)
      (settled_job_of_ending hjob ▸ hgone)
  | release hvolume hjob hfades hpod =>
    refine .release hvolume (hjobs hjob) ?_ (settled_pod_of_ending hpod ▸ hgone)
    exact .inr (.inl (settled_pod_of_ending hpod))

theorem Slot.Shows.mark_of_volume (hx : σ.Shows p n i x) (h : σ'.volume = σ.volume) :
    ∃ v, σ'.volume = some v ∧ x.mark = .ofLabels v.metadata.labelMap :=
  hx.mark.imp fun _ hv => ⟨h.trans hv.1, hv.2⟩

theorem Slot.Shows.job_of_job (hx : σ.Shows p n i x) (h : σ'.job = σ.job) :
    (x.job = none ∧ σ'.Jobless p i) ∨
      ∃ job, σ'.job = some job ∧ Drains p i job ∧ x.job = some (JobProgress.of job) := by
  rw [Slot.Jobless, h]
  exact hx.job

/-- What fades from a placeholder is no worker. -/
theorem not_worked_of_fades (hheld : σ.Held p i) (h : Fades dyingPod σ.pod σ'.pod) :
    ¬ σ'.Worked p i := by
  rintro ⟨pod, hpod, hworks⟩
  rcases h with hsame | hnone | ⟨old, time, hold, hdying⟩
  · exact not_worked_of_held hheld ⟨pod, hsame ▸ hpod, hworks⟩
  · rw [hnone] at hpod
    cases hpod
  · obtain ⟨held, hstored, hholds⟩ := hheld
    obtain rfl : old = held := Option.some.inj (hold.symm.trans hstored)
    rw [hdying] at hpod
    obtain rfl := Option.some.inj hpod
    exact not_works_of_reserves hholds.toReserves.dying hworks

/-- An action that has come to its end shows what it was taken for. A finish may have removed a
worker with the placeholder's name. -/
theorem Acted.shows_made {action : DrainAction} (hx : σ.Shows p n i x) (hw : Warrants x action)
    (h : Acted p i σ u action σ₁) (hstarted : action = .start → σ₁.Held p i)
    (hgone : action = .cancel ∨ action = .finish → σ₁.job = none)
    (hremoved : action = .finish → σ₁.pod = none) :
    ∃ inUse, σ₁.Shows p n i { x.made action with inUse } ∧
      (inUse = x.inUse ∨ (action = .finish ∧ (inUse = true → x.inUse = true))) := by
  have hjobless : σ₁.job = none → σ₁.Jobless p i := fun hnone job hjob => by
    rw [hnone] at hjob
    cases hjob
  have hunused : ¬ σ.Worked p i → ¬ σ₁.Worked p i →
      (x.inUse = true ↔ σ₁.Worked p i ∨ (i : Int) < n.toInt) := fun hσ hσ₁ => by
    rw [hx.inUse, or_iff_right hσ, or_iff_right hσ₁]
  cases h with
  | idle => exact ⟨x.inUse, hx, .inl rfl⟩
  | reportFailure attempts => exact ⟨x.inUse, hx, .inl rfl⟩
  | @reclaim v hv =>
    have hmark := (ofLabels_withLabel v .unmarked).symm
    exact ⟨x.inUse, ⟨⟨_, rfl, hmark⟩, hx.inUse, hx.job, hx.placeholder⟩, .inl rfl⟩
  | yield hpod hdying _ =>
    have hending : Ending σ.pod := fun pod hstored => by
      rw [hpod] at hstored
      obtain rfl := Option.some.inj hstored
      exact hdying
    exact absurd (hstarted rfl) (not_held_of_ending hending)
  | @start _ job hvolume hheld hjob hdrains hstatus _ =>
    have hσ : ¬ σ.Worked p i := fun hworked => by
      have huse := hx.inUse.2 (.inl hworked)
      rw [hw.2.1] at huse
      cases huse
    have hrunning : JobProgress.of job = .running := by
      rw [JobProgress.of, hstatus]
      rfl
    refine ⟨x.inUse, ⟨hx.mark_of_volume hvolume, hunused hσ (not_worked_of_held hheld), ?_, ?_⟩,
      .inl rfl⟩
    · exact .inr ⟨job, hjob, hdrains, hrunning ▸ rfl⟩
    · exact iff_of_true rfl ⟨hdrains.ordinal_le, hheld⟩
  | cancel hvolume hpod _ =>
    have hnone := hgone (.inl rfl)
    refine ⟨x.inUse, ⟨hx.mark_of_volume hvolume, ?_, .inl ⟨rfl, hjobless hnone⟩, ?_⟩, .inl rfl⟩
    · exact hx.inUse.trans (or_congr_left (worked_congr hpod).symm)
    · exact hx.placeholder.trans (and_congr_right fun _ => (held_congr hpod).symm)
  | @finish _ v _ hvolume hpod _ =>
    have hnone := hgone (.inr rfl)
    have hfree := hremoved rfl
    have hworker : ¬ σ₁.Worked p i := by
      rintro ⟨pod, hstored, -⟩
      rw [hfree] at hstored
      cases hstored
    have huse : decide ((i : Int) < n.toInt) = true ↔ σ₁.Worked p i ∨ (i : Int) < n.toInt := by
      rw [or_iff_right hworker, decide_eq_true_iff]
    refine ⟨decide ((i : Int) < n.toInt), ⟨⟨_, hvolume, (ofLabels_withLabel v .drained).symm⟩, huse,
      .inl ⟨rfl, hjobless hnone⟩, ?_⟩, .inr ⟨rfl, fun hlt => ?_⟩⟩
    · exact iff_of_false Bool.false_ne_true fun hheld => not_held_of_ending hpod hheld.2
    · exact hx.inUse.2 (.inr (of_decide_eq_true hlt))
  | release hvolume hjob hfades hpod =>
    have hheld := (hx.placeholder.1 hw.2.1).2
    refine ⟨x.inUse, ⟨hx.mark_of_volume hvolume, ?_, hx.job_of_job hjob, ?_⟩, .inl rfl⟩
    · exact hunused (not_worked_of_held hheld) (not_worked_of_fades hheld hfades)
    · exact iff_of_false Bool.false_ne_true fun hheld => not_held_of_ending hpod hheld.2

end VolumeDrain.Drain
