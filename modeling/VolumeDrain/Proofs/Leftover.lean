import VolumeDrain.Proofs.Exclusion

/-!
# Jobs left behind

A finish marks the volume, asks for the placeholder to be absent and only then deletes the job.
When it is stopped before the last step, a succeeded job is left without its placeholder. No other
way leads to such a job: a drain job either has its placeholder beside it or was left behind by a
pass. The next pass over a left job finishes once more, and over a marked volume that is in use
again it takes the mark off before that.
-/
namespace VolumeDrain.Drain

open Manifest Script MemoryStore

variable {p : BufferPool} {i : Nat} {σ σ' : Slot} {s₀ s : MemoryStore} {passes : List PassRecord}
  {v : Claim} {job : Job} {n : Int32}

/-- The pass asked for the ordinal's placeholder to be absent, and a succeeded job was still there
after it. -/
def PassRecord.LeavesJob (p : BufferPool) (i : Nat) (r : PassRecord) : Prop :=
  (∃ pod reply, nameOf pod = p.placeholderName i ∧ ⟨.settlePod pod .absent, reply⟩ ∈ r.trace) ∧
    ∃ job, (r.after.slot p i).job = some job ∧ Drains p i job ∧ HasSucceeded job

/-- A drain job has a placeholder beside it, or was left behind. -/
def Covered (p : BufferPool) (i : Nat) (passes : List PassRecord) (σ : Slot) : Prop :=
  ∀ job, σ.job = some job → Drains p i job → σ.Held p i ∨ ∃ r ∈ passes, r.LeavesJob p i

/-- The ordinal has a worker and a succeeded job, and its volume is listed without the mark. -/
def Endangered (p : BufferPool) (s : MemoryStore) (i : Nat) : Prop :=
  (s.slot p i).Worked p i ∧
    (∃ job, (s.slot p i).job = some job ∧ Drains p i job ∧ HasSucceeded job) ∧
    ∃ n v, s.replicas = .ok n ∧ v ∈ (s.view p n).volumes ∧ nameOf v = p.claimName i ∧
      ¬ LabelledDrained v

theorem Covered.shift (h : Covered p i passes σ) (hshift : Shift p i σ σ') :
    Covered p i passes σ' := by
  intro job hjob hdrains
  obtain ⟨old, hold, hdrainsOld, -, hheld⟩ := hshift.of_job hjob hdrains
  exact (h old hold hdrainsOld).imp_left hheld

theorem Covered.pass {r : PassRecord} {u : List StoreExchange}
    (h : Covered p i passes (r.before.slot p i)) (hu : ∀ e ∈ u, e ∈ r.trace)
    (hturn : Turn p i (r.before.slot p i) u (r.after.slot p i)) :
    Covered p i (passes ++ [r]) (r.after.slot p i) := by
  intro job hjob hdrains
  rcases hturn.of_job hjob hdrains with ⟨-, hheld, -⟩ | ⟨old, hold, hdrainsOld, hiff, hpod⟩
  · exact .inl hheld
  · rcases hpod with hpod | ⟨hsucceeded, pod, reply, hname, hmem⟩
    · rcases h old hold hdrainsOld with hheld | ⟨q, hq, hleaves⟩
      · exact .inl (held_of_pod_eq hheld hpod)
      · exact .inr ⟨q, List.mem_append_left _ hq, hleaves⟩
    · exact .inr ⟨r, List.mem_append_right _ (List.mem_singleton_self r),
        ⟨pod, reply, hname, hu _ hmem⟩, job, hjob, hdrains, hiff.2 hsucceeded⟩

theorem covered_of_runs (hp : p.WellNamed) (h₀ : Fresh p s₀) (h : Runs p s₀ passes s) :
    Covered p i passes (s.slot p i) := by
  induction h with
  | start => exact fun job hjob hdrains => absurd hdrains (h₀.slot_jobless job hjob)
  | change _ hc ih => exact ih.shift (hc.shift i)
  | @pass passes s s' t hrun hpass ih =>
    obtain ⟨u, hsub, -, hturn⟩ := hpass.turn (hrun.tidy hp h₀.tidy) hp i
    exact Covered.pass (r := ⟨s, t, s'⟩) ih hsub hturn

/-! ## What the next pass does -/

theorem planFor_eq {σ : Snapshot} {action : DrainAction} (hw : Warrants (σ.sight p v) action) :
    planFor p σ v = plan p v (σ.jobOf? p (nameOf v)) action := by
  rw [planFor, actionFor, nextAction_eq_iff.2 hw]

theorem goesOn_mark {mark : DrainMark} {e : StoreExchange} (hquestion : e.question = .mark v mark)
    (hreply : ∃ s, e.reply = (carryOut e.question s).1) : e = ⟨.mark v mark, .ok ()⟩ := by
  obtain ⟨question, reply⟩ := e
  cases hquestion
  obtain ⟨s, hreply⟩ := hreply
  simp only at hreply
  rw [hreply, carryOut]
  split <;> rfl

/-- A volume with a succeeded job is marked and its placeholder removed, unless it is to be
reclaimed first. -/
theorem exists_finish (h : Tidy p s) (hp : p.WellNamed) (hreplicas : s.replicas = .ok n)
    (hv : v ∈ (s.view p n).volumes) (hname : nameOf v = p.claimName i)
    (hunmarked : ¬ LabelledDrained v) (hjob : (s.slot p i).job = some job)
    (hdrains : Drains p i job) (hsucceeded : HasSucceeded job) :
    ∃ u s', Pass p s ((s.view p n).reads p ++ u) s' ∧ (∃ r, ⟨.mark v .drained, r⟩ ∈ u) ∧
      ∃ pod r, nameOf pod = p.placeholderName i ∧ ⟨.settlePod pod .absent, r⟩ ∈ u := by
  obtain ⟨u, s', hpass, hreplies, hplans⟩ := exists_pass p hreplicas
  obtain ⟨w, hw, henacts⟩ := hplans v hv
  have hof : (s.view p n).jobOf? p (nameOf v) = some job := by
    rw [Snapshot.jobOf?_eq_some_iff, hname]
    exact (h.isJobOf_view_iff hp).2 ⟨hjob, hdrains⟩
  have hwarrants : Warrants ((s.view p n).sight p v) .finish := by
    refine ⟨?_, fun hboth => hunmarked (ofLabels_eq_drained_iff.1 hboth.2)⟩
    rw [Snapshot.sight, hof, Option.map_some, progress_eq_succeeded_iff.2 hsucceeded]
  obtain ⟨pod, hpod⟩ := exists_placeholderPod hname hdrains.ordinal_le
  rw [planFor_eq hwarrants, hof, plan, hpod] at henacts
  rcases henacts.of_cons with ⟨-, hleft⟩ | ⟨r, rest, rfl, hrest⟩
  · cases hleft
  · have hmark := goesOn_mark rfl (hreplies _ (hw _ List.mem_cons_self))
    cases hmark
    refine ⟨u, s', hpass, ⟨_, hw _ List.mem_cons_self⟩, ?_⟩
    rcases hrest with ⟨-, hstopped⟩ | ⟨-, hrest⟩
    · exact absurd ⟨(), rfl⟩ hstopped
    · rcases hrest.of_cons with ⟨-, hleft⟩ | ⟨r, rest, rfl, -⟩
      · cases hleft
      · exact ⟨pod, r, (holds_placeholderPod hname hpod).name_eq, hw _ (by simp)⟩

theorem exists_reclaim (hreplicas : s.replicas = .ok n) (hv : v ∈ (s.view p n).volumes)
    (hmarked : LabelledDrained v) (huses : (s.view p n).Uses p (nameOf v)) :
    ∃ t s', Pass p s t s' ∧ ⟨.mark v .unmarked, .ok ()⟩ ∈ t := by
  obtain ⟨u, s', hpass, hreplies, hplans⟩ := exists_pass p hreplicas
  obtain ⟨w, hw, henacts⟩ := hplans v hv
  have hwarrants : Warrants ((s.view p n).sight p v) .reclaim :=
    ⟨Snapshot.inUse_iff.2 huses, ofLabels_eq_drained_iff.2 hmarked⟩
  rw [planFor_eq hwarrants, plan] at henacts
  rcases henacts.of_cons with ⟨-, hleft⟩ | ⟨r, rest, rfl, -⟩
  · cases hleft
  · have hmark := goesOn_mark rfl (hreplies _ (hw _ List.mem_cons_self))
    refine ⟨_, s', hpass, List.mem_append_right _ ?_⟩
    rw [← hmark]
    exact hw _ List.mem_cons_self

/-- A pass that takes the mark off a volume does nothing else about its ordinal. -/
theorem Pass.slot_of_reclaim {s' : MemoryStore} {t : List StoreExchange} (h : Tidy p s)
    (hp : p.WellNamed) (hpass : Pass p s t s') (hname : nameOf v = p.claimName i)
    (hmem : ⟨.mark v .unmarked, .ok ()⟩ ∈ t) :
    (s.slot p i).volume = some v ∧
      s'.slot p i = { s.slot p i with volume := some (withLabel v statusLabel none) } ∧
      ∀ e ∈ t, Concerns p i e.question → e.question = .mark v .unmarked := by
  obtain ⟨u, -, hall, hturn⟩ := hpass.turn h hp i
  have hu := hall _ hmem hname
  cases hturn with
  | idle hnil _ => simp [hnil] at hu
  | reclaim hv _ hunmark hσ =>
    rw [hunmark, List.mem_singleton] at hu
    cases hu
    refine ⟨hv, ?_, fun e he hconcerns => ?_⟩
    · rcases hσ with ⟨-, hne⟩ | hσ
      · exact absurd rfl hne
      · exact hσ
    · have honly := hall e he hconcerns
      rw [hunmark, List.mem_singleton] at honly
      rw [honly]
  | start hkept _ _ _ _ _ => exact absurd hu (hkept _ _)
  | cancel hkept _ _ _ _ _ _ => exact absurd hu (hkept _ _)
  | finish hkept _ _ _ _ _ _ => exact absurd hu (hkept _ _)
  | release hkept _ _ _ _ => exact absurd hu (hkept _ _)

theorem listed_withoutMark {s' : MemoryStore} (m : Int32) (hp : p.WellNamed)
    (hv : v ∈ (s.view p n).volumes)
    (hslot : s'.slot p i = { σ with volume := some (withLabel v statusLabel none) }) :
    withLabel v statusLabel none ∈ (s'.view p m).volumes ∧
      ¬ LabelledDrained (withLabel v statusLabel none) := by
  obtain ⟨-, hplays, hoptOut⟩ := (mem_volumes_view_iff hp).1 hv
  have hstored : (s'.slot p i).volume = some (withLabel v statusLabel none) := by rw [hslot]
  refine ⟨(mem_volumes_view_iff hp).2 ⟨⟨_, hstored⟩, ?_, ?_⟩, ?_⟩
  · exact (plays_withLabel (.inl rfl)).2 hplays
  · change (v.metadata.labelMap.erase statusLabel).get? optOutLabel ≠ some "no"
    rw [KeyMap.get?_erase, if_neg (by decide)]
    exact hoptOut
  · change (v.metadata.labelMap.erase statusLabel).get? statusLabel ≠ some drainedText
    rw [KeyMap.get?_erase, if_pos rfl]
    exact nofun

theorem endangered_of_reclaim {n : Int32} {v : Claim} (h : Tidy p s) (hp : p.WellNamed)
    (hreplicas : s.replicas = .ok n) (hpass : Pass p s t s')
    (hmem : ⟨.mark v .unmarked, .ok ()⟩ ∈ t) (hv : v ∈ (s.view p n).volumes)
    (hname : nameOf v = p.claimName i) (hworked : (s.slot p i).Worked p i)
    (hjob : ∃ job, (s.slot p i).job = some job ∧ Drains p i job ∧ HasSucceeded job) :
    Endangered p s' i := by
  obtain ⟨-, hslot, -⟩ := hpass.slot_of_reclaim h hp hname hmem
  obtain ⟨hlisted, hunmarked⟩ := listed_withoutMark n hp hv hslot
  rw [Endangered, hslot]
  exact ⟨hworked, hjob, n, _, hpass.replicas_eq.trans hreplicas, hlisted, hname, hunmarked⟩

/-! ## A run that leaves a job behind -/

/-- A worker with no more than makes it one. -/
def bareWorker (p : BufferPool) (ordinal : Nat) : Pod where
  metadata := { name := some (p.placeholderName ordinal), labels := some (p.labels .worker) }
  spec := some
    { volumes := some
        [{ name := p.bufferVolumeName, claim := some { claimName := p.claimName ordinal } }] }

theorem works_bareWorker (p : BufferPool) (i : Nat) : Works p i (bareWorker p i) where
  name_eq := rfl
  plays := BufferPool.plays_labels
  binds := ⟨_, rfl, by simp [PodSpec.claimOf, PodSpec.volumeList]⟩

/-- The cluster with another replica count and one more worker. -/
def grown (p : BufferPool) (n : Int32) (i : Nat) (s : MemoryStore) : MemoryStore :=
  { s with
    replicas := .ok n
    pods := s.pods.insert (p.placeholderName i) (bareWorker p i) }

theorem volumes_view_grown {n' : Int32} :
    ((grown p n i s).view p n').volumes = (s.view p n').volumes := rfl

theorem jobs_view_grown {n' : Int32} :
    ((grown p n i s).view p n').jobs = (s.view p n').jobs := rfl

theorem replicas_grown : (grown p n i s).replicas = .ok n := rfl

theorem worked_grown : ((grown p n i s).slot p i).Worked p i :=
  ⟨_, (KeyMap.get?_insert _ _ _ _).trans (if_pos rfl), works_bareWorker p i⟩

theorem Runs.grown (h : Runs p s₀ passes s) (hi : (i : Int) < n.toInt)
    (hfree : s.pods.get? (p.placeholderName i) = none) :
    Runs p s₀ passes (grown p n i s) :=
  (h.change (.scale s (.ok n))).change (.startWorker rfl hi hfree (works_bareWorker p i))

/-- The pool with two volumes and one worker. -/
def logsShrunk : MemoryStore where
  volumes := .ofList
    [(logsPool.claimName 0, bareVolume logsPool 0), (logsPool.claimName 1, bareVolume logsPool 1)]
  pods := .ofList [(logsPool.placeholderName 0, bareWorker logsPool 0)]
  replicas := .ok 1

/-- A pass has started to drain the second volume. -/
def logsStarted : MemoryStore := (run answer (drainPass logsPool) logsShrunk).2.quiet

/-- The status of a job that has succeeded. -/
def succeededStatus : JobStatus where
  completionTime := some ⟨0⟩
  succeeded := some 1

/-- The drain job has succeeded. -/
def logsEmptied : MemoryStore :=
  (logsStarted.setJobStatus (logsPool.drainerName 1) succeededStatus).getD logsStarted

/-- A fault by which the next deletion of a job fails. -/
def deletionFault : StoreFault where
  kind := .deleteJob
  name := none
  times := 1
  effect := .fail (.client (.transport "connection reset"))

/-- A pass has marked the volume and removed the placeholder, and failed to delete the job. -/
def logsLeft : MemoryStore :=
  (run answer (drainPass logsPool) { logsEmptied with faults := [deletionFault] }).2.quiet

/-- The pool is scaled up again, and the second worker is there. -/
def logsGrown : MemoryStore := grown logsPool 2 1 logsLeft

theorem fresh_logsShrunk : Fresh logsPool logsShrunk := by
  refine fresh_ofList (fun e he => ?_) fun e he => ?_
  · simp only [List.mem_cons, List.not_mem_nil, or_false] at he
    rcases he with rfl | rfl
    · exact ⟨rfl, 0, rfl⟩
    · exact ⟨rfl, 1, rfl⟩
  · obtain rfl := List.mem_singleton.1 he
    exact ⟨0, rfl, works_bareWorker logsPool 0⟩

theorem unmarked_bareVolume (p : BufferPool) (i : Nat) : ¬ LabelledDrained (bareVolume p i) := by
  change (p.labels .worker).get? statusLabel ≠ some drainedText
  rw [get?_labels_of_free (.inl rfl)]
  exact nofun

theorem unmarked_logsShrunk :
    ∀ key v, logsShrunk.volumes.get? key = some v → ¬ LabelledDrained v := by
  rw [logsShrunk]
  refine KeyMap.forall_get?_ofList (P := fun _ v => ¬ LabelledDrained v) fun e he => ?_
  simp only [List.mem_cons, List.not_mem_nil, or_false] at he
  rcases he with rfl | rfl <;> exact unmarked_bareVolume logsPool _

theorem hasSucceeded_succeededStatus (job : Job) :
    HasSucceeded { job with status := some succeededStatus } :=
  ⟨succeededStatus, ⟨0⟩, 1, rfl, rfl, rfl, by decide⟩

/-- A job was started, and it is still there with its volume marked and its placeholder gone. -/
theorem logsLeft_facts :
    ((logsStarted.jobs.get? (logsPool.drainerName 1)).isSome &&
      (logsLeft.pods.get? (logsPool.placeholderName 1)).isNone &&
      (logsLeft.view logsPool 2).volumes.any (fun v =>
        nameOf v == logsPool.claimName (1 : Nat) &&
          v.metadata.labelMap.get? statusLabel == some drainedText) &&
      (logsLeft.view logsPool 2).jobs.any (fun job =>
        job.claimOf logsPool.bufferVolumeName == some (logsPool.claimName (1 : Nat)) &&
          JobProgress.of job = .succeeded)) = true := by
  decide +kernel

/-- How the pool comes to leave a job behind: a pass starts the drain, the job succeeds, and the
next pass stops short of deleting it. The name of the second worker is free after that. -/
structure LogsHistory : Prop where
  fresh : Fresh logsPool logsShrunk
  unmarked : ∀ key v, logsShrunk.volumes.get? key = some v → ¬ LabelledDrained v
  starts : ∃ t, Pass logsPool logsShrunk t logsStarted
  succeeds :
    logsStarted.setJobStatus (logsPool.drainerName 1) succeededStatus = some logsEmptied
  leaves : ∃ t, Pass logsPool logsEmptied t logsLeft
  frees : logsLeft.pods.get? (logsPool.placeholderName 1) = none

theorem logsHistory : LogsHistory := by
  have hfacts := logsLeft_facts
  simp only [Bool.and_eq_true, Option.isNone_iff_eq_none] at hfacts
  obtain ⟨⟨⟨hstarted, hfree⟩, -⟩, -⟩ := hfacts
  obtain ⟨job, hjob⟩ := Option.isSome_iff_exists.1 hstarted
  have hset : logsStarted.setJobStatus (logsPool.drainerName 1) succeededStatus =
      some logsEmptied := by
    simp only [logsEmptied, setJobStatus, hjob, Option.map_some, Option.getD_some]
  have hleft := pass_of_answer logsPool { logsEmptied with faults := [deletionFault] }
  rw [quiet_withFaults, quiet_of_setJobStatus (quiet_quiet _) hset] at hleft
  exact {
    fresh := fresh_logsShrunk
    unmarked := unmarked_logsShrunk
    starts := ⟨_, pass_of_answer logsPool logsShrunk⟩
    succeeds := hset
    leaves := ⟨_, hleft⟩
    frees := hfree }

theorem runs_logsGrown : ∃ passes, Runs logsPool logsShrunk passes logsGrown := by
  obtain ⟨t, hstart⟩ := logsHistory.starts
  obtain ⟨t', hleave⟩ := logsHistory.leaves
  have hempty := (Runs.start.pass hstart).change
    (.reportJob logsHistory.succeeds fun job _ _ => hasSucceeded_succeededStatus job)
  exact ⟨_, (hempty.pass hleave).grown (by decide) logsHistory.frees⟩

theorem tidy_logsGrown : Tidy logsPool logsGrown := by
  obtain ⟨passes, hrun⟩ := runs_logsGrown
  exact hrun.tidy wellNamed_logsPool fresh_logsShrunk.tidy

theorem logsGrown_leftover :
    (∃ v ∈ (logsGrown.view logsPool 2).volumes, nameOf v = logsPool.claimName (1 : Nat) ∧
      LabelledDrained v) ∧
    ∃ job, (logsGrown.slot logsPool 1).job = some job ∧ Drains logsPool 1 job ∧
      HasSucceeded job := by
  have hfacts := logsLeft_facts
  simp only [Bool.and_eq_true, List.any_eq_true, beq_iff_eq, decide_eq_true_eq] at hfacts
  obtain ⟨⟨-, v, hv, hname, hmarked⟩, job, hjob, hclaim, hprogress⟩ := hfacts
  rw [← volumes_view_grown (n := 2) (i := 1)] at hv
  rw [← jobs_view_grown (n := 2) (i := 1)] at hjob
  have htidy := tidy_logsGrown
  rw [logsGrown] at htidy ⊢
  obtain ⟨hstored, hdrains⟩ := htidy.drains_of_listed (n := 2) wellNamed_logsPool hjob hclaim
  rw [← slot_job] at hstored
  exact ⟨⟨v, hv, hname, hmarked⟩, job, hstored, hdrains, progress_eq_succeeded_iff.1 hprogress⟩

/-- The next pass over the grown pool takes the mark off the second volume, and its worker is
endangered. -/
theorem exists_reclaim_logsGrown :
    ∃ t s v, Pass logsPool logsGrown t s ∧ nameOf v = logsPool.claimName (1 : Nat) ∧
      ⟨.mark v .unmarked, .ok ()⟩ ∈ t ∧ Endangered logsPool s 1 := by
  obtain ⟨⟨v, hv, hname, hmarked⟩, hjob⟩ := logsGrown_leftover
  have huses : (logsGrown.view logsPool 2).Uses logsPool (nameOf v) := by
    rw [hname]
    exact (tidy_logsGrown.uses_view_iff wellNamed_logsPool).2 (.inr (by decide))
  obtain ⟨t, s, hpass, hmem⟩ := exists_reclaim replicas_grown hv hmarked huses
  exact ⟨t, s, v, hpass, hname, hmem, endangered_of_reclaim tidy_logsGrown wellNamed_logsPool
    replicas_grown hpass hmem hv hname worked_grown hjob⟩

end VolumeDrain.Drain
