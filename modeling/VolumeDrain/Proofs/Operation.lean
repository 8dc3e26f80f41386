import VolumeDrain.Proofs.Reconciliation

/-!
# Runs of reconciles

Between reconciles users change the settings of a pool, and the cluster goes on by itself. Whatever
they do, an ordinal is held only by a placeholder that a pass has made: its volume is there, though
it may have been opted out since, and the pool could be reconciled if draining were turned on.
-/
namespace VolumeDrain.BufferPool

/-- What is left of a pool if the settings that users change are put aside: the pool with draining
turned on and no workers. -/
def turnedOn (p : BufferPool) : BufferPool :=
  .ofSpec p.name
    { p.spec with
      replicas := 0
      disablePvc := false
      scaling := { p.spec.scaling with drain := { p.spec.scaling.drain with enabled := true } } }

end VolumeDrain.BufferPool

namespace VolumeDrain.Operator

open Drain Manifest Pool Script MemoryStore

/-- A user changes the replica count, turns draining on or off, or changes whether workers have
buffer volumes. The status of the pool and the rest of its metadata may change at any time. -/
def Edited (p p' : BufferPool) : Prop := p'.turnedOn = p.turnedOn

/-- What others than the operator do to the cluster. They make neither placeholders nor drain jobs
and take no volume away; volumes with the labels of workers have the names of ordinals. -/
structure Drift (p : BufferPool) (s s' : MemoryStore) : Prop where
  volumes : ∀ key v, s'.volumes.get? key = some v → ProperVolume p key v
  remain : ∀ key v, s.volumes.get? key = some v → p.Plays .worker v.metadata.labelMap →
    ∃ w, s'.volumes.get? key = some w ∧ p.Plays .worker w.metadata.labelMap
  pod_name : ∀ key pod, s'.pods.get? key = some pod → nameOf pod = key
  placeholder : ∀ key pod, s'.pods.get? key = some pod →
    p.Plays .placeholder pod.metadata.labelMap →
    ∃ old, s.pods.get? key = some old ∧ p.Plays .placeholder old.metadata.labelMap ∧
      (pod.metadata.deletionTimestamp = none → old.metadata.deletionTimestamp = none)
  job_name : ∀ key job, s'.jobs.get? key = some job → nameOf job = key
  drainer : ∀ key job, s'.jobs.get? key = some job → p.Plays .drainer job.metadata.labelMap →
    ∃ old, s.jobs.get? key = some old ∧ p.Plays .drainer old.metadata.labelMap ∧
      job.spec = old.spec

/-- The cluster has no placeholder, and drain jobs only under the names of ordinals. -/
structure Clear (p : BufferPool) (s : MemoryStore) : Prop where
  volumes : ∀ key v, s.volumes.get? key = some v → ProperVolume p key v
  pod_name : ∀ key pod, s.pods.get? key = some pod → nameOf pod = key
  unreserved : ∀ key pod, s.pods.get? key = some pod →
    ¬ p.Plays .placeholder pod.metadata.labelMap
  jobs : ∀ key job, s.jobs.get? key = some job → ProperJob p key job

/-- Reconciles of a pool, edits of it and changes of the cluster can lead from a pool and a cluster
to these. -/
inductive Operates (p₀ : BufferPool) (s₀ : MemoryStore) : BufferPool → MemoryStore → Prop
  | start : Operates p₀ s₀ p₀ s₀
  | reconcile {p : BufferPool} {s s' : MemoryStore} (h : Operates p₀ s₀ p s)
      (hr : Reconciles p s s') : Operates p₀ s₀ p s'
  | edit {p p' : BufferPool} {s : MemoryStore} (h : Operates p₀ s₀ p s) (he : Edited p p') :
      Operates p₀ s₀ p' s
  | drift {p : BufferPool} {s s' : MemoryStore} (h : Operates p₀ s₀ p s) (hd : Drift p s s') :
      Operates p₀ s₀ p s'

/-- Every placeholder is accounted for by a volume, and by a pool that a pass could be made for. -/
structure Accounted (p : BufferPool) (s : MemoryStore) : Prop where
  volumes : ∀ key v, s.volumes.get? key = some v → ProperVolume p key v
  pod_name : ∀ key pod, s.pods.get? key = some pod → nameOf pod = key
  placeholder : ∀ key pod, s.pods.get? key = some pod →
    p.Plays .placeholder pod.metadata.labelMap → ∃ i, Reserves p i pod
  jobs : ∀ key job, s.jobs.get? key = some job → ProperJob p key job
  bound : ∀ i, (s.slot p i).Held p i →
    ∃ v, s.volumes.get? (p.claimName i) = some v ∧ p.Plays .worker v.metadata.labelMap
  applies : ∀ i, (s.slot p i).Held p i → Applies p.turnedOn

variable {p p' p₀ : BufferPool} {s s' s₀ : MemoryStore} {i : Nat} {n : Int32} {pod : Pod}
  {job : Job}

/-! ## Settings put aside -/

theorem works_turnedOn : Works p.turnedOn i pod ↔ Works p i pod :=
  ⟨fun h => ⟨h.name_eq, h.plays, h.binds⟩, fun h => ⟨h.name_eq, h.plays, h.binds⟩⟩

theorem reserves_turnedOn : Reserves p.turnedOn i pod ↔ Reserves p i pod :=
  ⟨fun h => ⟨h.name_eq, h.plays⟩, fun h => ⟨h.name_eq, h.plays⟩⟩

theorem drains_turnedOn : Drains p.turnedOn i job ↔ Drains p i job :=
  ⟨fun h => ⟨h.name_eq, h.plays, h.binds, h.ordinal_le⟩,
    fun h => ⟨h.name_eq, h.plays, h.binds, h.ordinal_le⟩⟩

theorem held_turnedOn {σ : Slot} : σ.Held p.turnedOn i ↔ σ.Held p i := by
  constructor
  · rintro ⟨pod, hpod, hholds⟩
    exact ⟨pod, hpod, reserves_turnedOn.1 hholds.toReserves, hholds.alive⟩
  · rintro ⟨pod, hpod, hholds⟩
    exact ⟨pod, hpod, reserves_turnedOn.2 hholds.toReserves, hholds.alive⟩

theorem properVolume_turnedOn {key : String} {v : Claim} :
    ProperVolume p.turnedOn key v ↔ ProperVolume p key v :=
  ⟨fun h => ⟨h.name_eq, h.ordinal⟩, fun h => ⟨h.name_eq, h.ordinal⟩⟩

theorem properJob_turnedOn {key : String} : ProperJob p.turnedOn key job ↔ ProperJob p key job := by
  constructor
  · intro h
    exact ⟨h.name_eq, fun hplays => (h.drainer hplays).imp fun _ => drains_turnedOn.1⟩
  · intro h
    exact ⟨h.name_eq, fun hplays => (h.drainer hplays).imp fun _ => drains_turnedOn.2⟩

theorem shows_turnedOn {σ : Slot} {x : Sight} :
    σ.Shows p.turnedOn n i x ↔ σ.Shows p n i x := by
  have hworked : σ.Worked p.turnedOn i ↔ σ.Worked p i := by
    simp only [Slot.Worked, works_turnedOn]
  have hjob : ((x.job = none ∧ σ.Jobless p.turnedOn i) ∨ ∃ job, σ.job = some job ∧
      Drains p.turnedOn i job ∧ x.job = some (JobProgress.of job)) ↔
      ((x.job = none ∧ σ.Jobless p i) ∨ ∃ job, σ.job = some job ∧
        Drains p i job ∧ x.job = some (JobProgress.of job)) := by
    simp only [Slot.Jobless, drains_turnedOn]
  constructor
  · intro h
    exact ⟨h.mark, h.inUse.trans (or_congr_left hworked), hjob.1 h.job,
      h.placeholder.trans (and_congr_right' held_turnedOn)⟩
  · intro h
    exact ⟨h.mark, h.inUse.trans (or_congr_left hworked.symm), hjob.2 h.job,
      h.placeholder.trans (and_congr_right' held_turnedOn.symm)⟩

/-- What does not depend on the settings that users change does not change with them. -/
theorem Edited.iff {P : BufferPool → Prop} (he : Edited p p') (h : ∀ q, P q.turnedOn ↔ P q) :
    P p' ↔ P p := by
  rw [← h p', ← h p, he]

theorem Edited.wellNamed (he : Edited p p') : p'.WellNamed ↔ p.WellNamed :=
  he.iff fun _ => Iff.rfl

theorem Edited.held (he : Edited p p') : (s.slot p' i).Held p' i ↔ (s.slot p i).Held p i :=
  he.iff (P := fun q => (s.slot q i).Held q i) fun _ => held_turnedOn

theorem Edited.plays {role : Role} {labels : Labels} (he : Edited p p') :
    p'.Plays role labels ↔ p.Plays role labels :=
  he.iff (P := fun q => q.Plays role labels) fun _ => Iff.rfl

theorem Edited.claimName_eq (he : Edited p p') (i : Nat) : p'.claimName i = p.claimName i :=
  (he.iff (P := fun q => q.claimName i = p.claimName i) fun _ => Iff.rfl).2 rfl

theorem Edited.accounted (he : Edited p p') (h : Accounted p s) : Accounted p' s where
  volumes key v hv :=
    (he.iff (P := fun q => ProperVolume q key v) fun _ => properVolume_turnedOn).2
      (h.volumes key v hv)
  pod_name := h.pod_name
  placeholder key pod hpod hplays := by
    obtain ⟨i, hreserves⟩ := h.placeholder key pod hpod (he.plays.1 hplays)
    exact ⟨i, (he.iff (P := fun q => Reserves q i pod) fun _ => reserves_turnedOn).2 hreserves⟩
  jobs key job hjob :=
    (he.iff (P := fun q => ProperJob q key job) fun _ => properJob_turnedOn).2
      (h.jobs key job hjob)
  bound i hheld := by
    obtain ⟨v, hv, hplays⟩ := h.bound i (he.held.1 hheld)
    exact ⟨v, he.claimName_eq i ▸ hv, he.plays.2 hplays⟩
  applies i hheld := by
    rw [he]
    exact h.applies i (he.held.1 hheld)

/-! ## Reconciles -/

theorem Accounted.named (h : Accounted p s) : Named p s where
  name_eq key v hv := (h.volumes key v hv).name_eq
  listed key v hv hdrainable := (h.volumes key v hv).ordinal hdrainable.1
  pod_name := h.pod_name
  placeholder := h.placeholder
  jobs := h.jobs

theorem Accounted.withReplicas (h : Accounted p s) (replicas : Except OperatorError Int32) :
    Accounted p { s with replicas } :=
  ⟨h.volumes, h.pod_name, h.placeholder, h.jobs, h.bound, h.applies⟩

theorem workerPod_turnedOn (h : p.spec.disablePvc = false) :
    Worker.workerPod p.turnedOn = Worker.workerPod p := by
  have hcontainers : Worker.workerContainers p.turnedOn = Worker.workerContainers p := by
    rw [Worker.workerContainers, Worker.workerContainers, h]
    rfl
  rw [Worker.workerPod, Worker.workerBasePod, hcontainers]
  rfl

theorem exists_statefulSet_iff :
    (∃ set, Worker.statefulSet p = .ok set) ↔ ∃ pod, Worker.workerPod p = .ok pod := by
  rw [Worker.statefulSet]
  cases Worker.workerPod p with
  | error e =>
    constructor
    · rintro ⟨set, h⟩
      cases h
    · rintro ⟨pod, h⟩
      cases h
  | ok pod => exact iff_of_true ⟨_, rfl⟩ ⟨pod, rfl⟩

theorem isValid_turnedOn (hon : p.spec.drainEnabled = true) (hn : ¬ p.spec.replicas < 0) :
    p.turnedOn.spec.isValid = p.spec.isValid := by
  have henabled : p.spec.scaling.drain.enabled = true := (Bool.and_eq_true_iff.1 hon).1
  have hdrain : p.turnedOn.spec.drainFieldErrors = p.spec.drainFieldErrors := by
    rw [Spec.drainFieldErrors, Spec.drainFieldErrors, if_pos henabled]
    exact if_pos rfl
  have herrors : p.turnedOn.spec.errors = p.spec.errors := by
    rw [Spec.errors, Spec.errors, hdrain]
    simp only [decide_eq_false hn]
    rfl
  rw [Spec.isValid, herrors, Spec.isValid]

/-- With draining on, only a negative replica count can be in the way of a pool that could be
reconciled if users had put their settings aside. -/
theorem applies_turnedOn_iff (hon : p.spec.drainEnabled = true) (hn : ¬ p.spec.replicas < 0) :
    Applies p.turnedOn ↔ Applies p := by
  have hpvc : p.spec.disablePvc = false := by simpa using (Bool.and_eq_true_iff.1 hon).2
  constructor
  · rintro ⟨hvalid, hbuilds⟩
    rw [isValid_turnedOn hon hn] at hvalid
    rw [exists_statefulSet_iff, workerPod_turnedOn hpvc, ← exists_statefulSet_iff] at hbuilds
    exact ⟨hvalid, hbuilds⟩
  · rintro ⟨hvalid, hbuilds⟩
    rw [← isValid_turnedOn hon hn] at hvalid
    rw [exists_statefulSet_iff, ← workerPod_turnedOn hpvc, ← exists_statefulSet_iff] at hbuilds
    exact ⟨hvalid, hbuilds⟩

section

variable {t : List StoreExchange} {out : PassOutcome}

/-- An ordinal that is held after a pass was held before, or its volume was listed. -/
theorem bound_of_held (h : Accounted p s) (hp : p.WellNamed) (hc : Completes p s t out s')
    (hheld : (s'.slot p i).Held p i) :
    ∃ v, s.volumes.get? (p.claimName i) = some v ∧ p.Plays .worker v.metadata.labelMap := by
  by_cases hlisted : ∃ v, s.volumes.get? (p.claimName i) = some v ∧ Drainable p v
  · obtain ⟨v, hv, hdrainable⟩ := hlisted
    exact ⟨v, hv, hdrainable.1⟩
  · have hsame : s'.slot p i = s.slot p i :=
      hc.slot_eq h.named hp fun v hv hdrainable => hlisted ⟨v, hv, hdrainable⟩
    rw [hsame] at hheld
    exact h.bound i hheld

theorem Accounted.passed (h : Accounted p s) (hp : p.WellNamed) (hc : Completes p s t out s')
    (happlies : Applies p.turnedOn) : Accounted p s' := by
  -- The first four fields are kept by each call; the volumes that account for placeholders are a
  -- matter of the whole pass, as it makes placeholders only for listed ones.
  have hpods : ∀ key pod, s'.pods.get? key = some pod → nameOf pod = key ∧
      (p.Plays .placeholder pod.metadata.labelMap → ∃ i, Reserves p i pod) := by
    refine hc.kept h.named hp (I := fun s => ∀ key pod, s.pods.get? key = some pod →
      nameOf pod = key ∧ (p.Plays .placeholder pod.metadata.labelMap → ∃ i, Reserves p i pod)) ?_ ?_
    · intro σ v c s s' i r hv hjustified ha hI
      refine forall_pods_of_answers hI ?_ ?_ hjustified ha
      · rintro key pod time ⟨hname, hreserves⟩
        exact ⟨hname, fun hplays => (hreserves hplays).imp fun _ => Reserves.dying⟩
      · intro pod hpod
        have hholds := holds_placeholderPod hv hpod
        exact ⟨rfl, fun _ => ⟨i, hholds.toReserves⟩⟩
    · exact fun key pod hpod => ⟨h.pod_name key pod hpod, h.placeholder key pod hpod⟩
  refine ⟨?_, fun key pod hpod => (hpods key pod hpod).1,
    fun key pod hpod => (hpods key pod hpod).2, ?_, ?_, fun _ _ => happlies⟩
  · refine hc.kept h.named hp (I := fun s => ∀ key v, s.volumes.get? key = some v →
      ProperVolume p key v) ?_ h.volumes
    intro σ v c s s' i r hv hjustified ha hI
    refine forall_volumes_of_answers hI ?_ hjustified ha
    exact fun key v value hproper => hproper.withLabel value (.inl rfl)
  · refine hc.kept h.named hp (I := fun s => ∀ key job, s.jobs.get? key = some job →
      ProperJob p key job) ?_ h.jobs
    exact fun hv hjustified ha hI => properJob_of_answers hI hv hjustified ha
  · intro i hheld
    obtain ⟨v, hv, hplays⟩ := bound_of_held h hp hc hheld
    exact hc.volume_after h.named hp hv hplays

end

theorem Accounted.reconciled (h : Accounted p s) (hp : p.WellNamed) (hr : Reconciled p s s') :
    Accounted p s' := by
  cases hr with
  | refused => exact h
  | applied => exact h.withReplicas _
  | passed happlies hon _ hc =>
    have hn := replicas_nonneg happlies.valid
    exact (h.withReplicas _).passed hp hc ((applies_turnedOn_iff hon hn).2 happlies)

/-! ## Changes of the cluster -/

theorem Drift.held (hd : Drift p s s') (h : Accounted p s) (hheld : (s'.slot p i).Held p i) :
    (s.slot p i).Held p i := by
  obtain ⟨pod, hpod, hholds⟩ := hheld
  obtain ⟨old, hold, hplays, halive⟩ := hd.placeholder _ pod hpod hholds.plays
  have hname : nameOf old = p.placeholderName i := h.pod_name _ old hold
  exact ⟨old, hold, ⟨hname, hplays⟩, halive hholds.alive⟩

theorem claimOf_eq_of_spec {old : Job} {name : String} (h : job.spec = old.spec) :
    job.claimOf name = old.claimOf name := by
  rw [Job.claimOf, h, Job.claimOf]

theorem Accounted.drift (h : Accounted p s) (hd : Drift p s s') : Accounted p s' where
  volumes := hd.volumes
  pod_name := hd.pod_name
  placeholder key pod hpod hplays := by
    obtain ⟨old, hold, hplaysOld, -⟩ := hd.placeholder key pod hpod hplays
    obtain ⟨i, hreserves⟩ := h.placeholder key old hold hplaysOld
    have hname : nameOf pod = nameOf old :=
      (hd.pod_name key pod hpod).trans (h.pod_name key old hold).symm
    exact ⟨i, hname.trans hreserves.name_eq, hplays⟩
  jobs key job hjob := by
    refine ⟨hd.job_name key job hjob, fun hplays => ?_⟩
    obtain ⟨old, hold, hplaysOld, hspec⟩ := hd.drainer key job hjob hplays
    have hproper := h.jobs key old hold
    obtain ⟨i, hdrains⟩ := hproper.drainer hplaysOld
    have hname : nameOf job = nameOf old :=
      (hd.job_name key job hjob).trans hproper.name_eq.symm
    refine ⟨i, hname.trans hdrains.name_eq, hplays, ?_, hdrains.ordinal_le⟩
    rw [claimOf_eq_of_spec hspec]
    exact hdrains.binds
  bound i hheld := by
    obtain ⟨v, hv, hplays⟩ := h.bound i (hd.held h hheld)
    exact hd.remain _ v hv hplays
  applies i hheld := h.applies i (hd.held h hheld)

/-- With other volumes and fewer pods and jobs a cluster has changed as others may change it. -/
theorem drift_of_fewer (h : Accounted p s)
    (hvolumes : ∀ key v, s'.volumes.get? key = some v → ProperVolume p key v)
    (hremain : ∀ key v, s.volumes.get? key = some v → p.Plays .worker v.metadata.labelMap →
      ∃ w, s'.volumes.get? key = some w ∧ p.Plays .worker w.metadata.labelMap)
    (hpods : ∀ key pod, s'.pods.get? key = some pod → s.pods.get? key = some pod)
    (hjobs : ∀ key job, s'.jobs.get? key = some job → s.jobs.get? key = some job) :
    Drift p s s' where
  volumes := hvolumes
  remain := hremain
  pod_name key pod hpod := h.pod_name key pod (hpods key pod hpod)
  placeholder key pod hpod hplays := ⟨pod, hpods key pod hpod, hplays, id⟩
  job_name key job hjob := (h.jobs key job (hjobs key job hjob)).name_eq
  drainer key job hjob hplays := ⟨job, hjobs key job hjob, hplays, rfl⟩

/-- The number of workers changes. -/
theorem drift_withReplicas (h : Accounted p s) (replicas : Except OperatorError Int32) :
    Drift p s { s with replicas } :=
  drift_of_fewer h h.volumes (fun _ v hv hplays => ⟨v, hv, hplays⟩) (fun _ _ hpod => hpod)
    fun _ _ hjob => hjob

/-- A volume is opted out, or no longer so. -/
theorem drift_relabel (h : Accounted p s) {key : String} {v : Claim}
    (hv : s.volumes.get? key = some v) (value : Option String) :
    Drift p s { s with volumes := s.volumes.insert key (withLabel v optOutLabel value) } := by
  have hproper := (h.volumes key v hv).withLabel value (.inr rfl)
  refine drift_of_fewer h (KeyMap.forall_get?_insert h.volumes hproper) ?_ (fun _ _ hpod => hpod)
    fun _ _ hjob => hjob
  intro name w hw hplays
  rw [KeyMap.get?_insert]
  by_cases hname : name = key
  · subst hname
    obtain rfl : v = w := Option.some.inj (hv.symm.trans hw)
    exact ⟨_, if_pos rfl, (plays_withLabel (.inr rfl)).2 hplays⟩
  · exact ⟨w, (if_neg hname).trans hw, hplays⟩

/-! ## Whole runs -/

theorem Clear.accounted (h : Clear p s) : Accounted p s where
  volumes := h.volumes
  pod_name := h.pod_name
  placeholder key pod hpod hplays := absurd hplays (h.unreserved key pod hpod)
  jobs := h.jobs
  bound i hheld := by
    obtain ⟨pod, hpod, hholds⟩ := hheld
    exact absurd hholds.plays (h.unreserved _ pod hpod)
  applies i hheld := by
    obtain ⟨pod, hpod, hholds⟩ := hheld
    exact absurd hholds.plays (h.unreserved _ pod hpod)

/-- Whatever users and others do between reconciles, every placeholder stays accounted for. -/
theorem Operates.accounted (h : Operates p₀ s₀ p s) (hp : p₀.WellNamed) (h₀ : Clear p₀ s₀) :
    p.WellNamed ∧ Accounted p s := by
  induction h with
  | start => exact ⟨hp, h₀.accounted⟩
  | reconcile _ hr ih => exact ⟨ih.1, ih.2.reconciled ih.1 hr.effect⟩
  | edit _ he ih => exact ⟨he.wellNamed.2 ih.1, he.accounted ih.2⟩
  | drift _ hd ih => exact ⟨ih.1, ih.2.drift hd⟩

end VolumeDrain.Operator
