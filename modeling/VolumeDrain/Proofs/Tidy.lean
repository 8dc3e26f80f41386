import VolumeDrain.Proofs.Answers
import VolumeDrain.Proofs.Objects

/-!
# Tidy clusters

In a tidy cluster every object is stored under its name, the pool's objects have the names of
ordinals, and nothing else has these names. The calls of a pass leave a tidy cluster tidy. Of a
tidy cluster a pass sees what is there: a volume's worker, placeholder and job are the objects
under the names of its ordinal.
-/
namespace VolumeDrain.Drain

open Manifest Script MemoryStore

/-- A volume may be stored under a name. -/
structure ProperVolume (p : BufferPool) (key : String) (v : Claim) : Prop where
  name_eq : nameOf v = key
  ordinal : p.Plays .worker v.metadata.labelMap → ∃ i : Nat, key = p.claimName i

/-- A pod may be stored under a name. -/
structure ProperPod (p : BufferPool) (key : String) (pod : Pod) : Prop where
  name_eq : nameOf pod = key
  worker : p.Plays .worker pod.metadata.labelMap → ∃ i, Works p i pod
  placeholder : p.Plays .placeholder pod.metadata.labelMap → ∃ i, Reserves p i pod
  role : ∀ i, key = p.placeholderName i → Works p i pod ∨ Reserves p i pod

/-- A job may be stored under a name. -/
structure ProperJob (p : BufferPool) (key : String) (job : Job) : Prop where
  name_eq : nameOf job = key
  drainer : p.Plays .drainer job.metadata.labelMap → ∃ i, Drains p i job

/-- The cluster keeps the pool's objects under the names of their ordinals. -/
structure Tidy (p : BufferPool) (s : MemoryStore) : Prop where
  volumes : ∀ key v, s.volumes.get? key = some v → ProperVolume p key v
  pods : ∀ key pod, s.pods.get? key = some pod → ProperPod p key pod
  jobs : ∀ key job, s.jobs.get? key = some job → ProperJob p key job

variable {p : BufferPool} {s s' : MemoryStore} {key : String} {i : Nat} {v : Claim} {pod : Pod}
  {job : Job}

/-! ## Proper objects -/

theorem get?_labels_of_free {role : Role} (hkey : key = statusLabel ∨ key = optOutLabel) :
    (p.labels role).get? key = none := by
  rw [BufferPool.get?_labels]
  rcases hkey with rfl | rfl <;> rfl

/-- The labels that are set during a volume's life say nothing of its role. -/
theorem plays_withLabel {role : Role} {value : Option String}
    (hkey : key = statusLabel ∨ key = optOutLabel) :
    p.Plays role (withLabel v key value).metadata.labelMap ↔
      p.Plays role v.metadata.labelMap := by
  cases value with
  | none => exact BufferPool.plays_erase (get?_labels_of_free hkey)
  | some value => exact BufferPool.plays_insert (get?_labels_of_free hkey)

theorem ProperVolume.withLabel {name : String} (h : ProperVolume p name v) (value : Option String)
    (hkey : key = statusLabel ∨ key = optOutLabel) :
    ProperVolume p name (withLabel v key value) :=
  ⟨h.name_eq, fun hplays => h.ordinal ((plays_withLabel hkey).1 hplays)⟩

theorem Works.dying {time : Instant} (h : Works p i pod) : Works p i (dyingPod time pod) :=
  ⟨h.name_eq, h.plays, h.binds⟩

theorem Reserves.dying {time : Instant} (h : Reserves p i pod) :
    Reserves p i (dyingPod time pod) :=
  ⟨h.name_eq, h.plays⟩

theorem Drains.dying {time : Instant} (h : Drains p i job) : Drains p i (dyingJob time job) :=
  ⟨h.name_eq, h.plays, h.binds, h.ordinal_le⟩

theorem Drains.withStatus {status : Option JobStatus} (h : Drains p i job) :
    Drains p i { job with status } :=
  ⟨h.name_eq, h.plays, h.binds, h.ordinal_le⟩

theorem Works.proper (h : Works p i pod) : ProperPod p (p.placeholderName i) pod where
  name_eq := h.name_eq
  worker _ := ⟨i, h⟩
  placeholder hplays := nomatch h.plays.role_eq hplays
  role _ hj := .inl (p.placeholderName_inj.1 hj ▸ h)

theorem Reserves.proper (h : Reserves p i pod) : ProperPod p (p.placeholderName i) pod where
  name_eq := h.name_eq
  worker hplays := nomatch h.plays.role_eq hplays
  placeholder _ := ⟨i, h⟩
  role _ hj := .inr (p.placeholderName_inj.1 hj ▸ h)

theorem ProperPod.dying (h : ProperPod p key pod) (time : Instant) :
    ProperPod p key (dyingPod time pod) where
  name_eq := h.name_eq
  worker hplays := (h.worker hplays).imp fun _ => Works.dying
  placeholder hplays := (h.placeholder hplays).imp fun _ => Reserves.dying
  role j hj := (h.role j hj).imp Works.dying Reserves.dying

theorem Drains.proper (h : Drains p i job) : ProperJob p (p.drainerName i) job :=
  ⟨h.name_eq, fun _ => ⟨i, h⟩⟩

theorem ProperJob.dying (h : ProperJob p key job) (time : Instant) :
    ProperJob p key (dyingJob time job) :=
  ⟨h.name_eq, fun hplays => (h.drainer hplays).imp fun _ => Drains.dying⟩

theorem ProperJob.withStatus {status : Option JobStatus} (h : ProperJob p key job) :
    ProperJob p key { job with status } :=
  ⟨h.name_eq, fun hplays => (h.drainer hplays).imp fun _ => Drains.withStatus⟩

/-! ## Calls on a tidy cluster -/

/-- What holds of every stored pod holds after a call for a volume, if it outlasts a deletion and
holds of the volume's placeholder. -/
theorem forall_pods_of_answers {P : String → Pod → Prop} {s₀ : Snapshot} {c : StoreCall}
    {r : c.Reply} (h : ∀ key pod, s.pods.get? key = some pod → P key pod)
    (hdying : ∀ key pod time, P key pod → P key (dyingPod time pod))
    (hnew : ∀ pod, placeholderPod p v = .ok pod → P (nameOf pod) pod)
    (hc : Justified p s₀ v c) (ha : Answers c s r s') :
    ∀ key pod, s'.pods.get? key = some pod → P key pod := by
  cases c with
  | mark volume mark => rcases ha.of_mark with ⟨rfl, -⟩ | ⟨_, -, rfl⟩ <;> exact h
  | deleteJob job propagation =>
    rcases ha.of_deleteJob with rfl | rfl | ⟨_, -, rfl⟩ <;> exact h
  | settleJob job presence =>
    cases presence with
    | present => rcases ha.of_settleJob_present with rfl | ⟨-, rfl⟩ <;> exact h
    | absent => exact hc.elim
  | settlePod pod presence =>
    cases presence with
    | present =>
      rcases ha.of_settlePod_present with ⟨rfl, -⟩ | ⟨-, rfl⟩
      · exact h
      · exact KeyMap.forall_get?_insert h (hnew pod hc.1)
    | absent =>
      rcases ha.of_settlePod_absent with rfl | rfl | ⟨stored, hstored, rfl⟩
      · exact h
      · exact KeyMap.forall_get?_erase h
      · exact KeyMap.forall_get?_insert h (hdying _ _ s.now (h _ _ hstored))
  | _ => exact hc.elim

/-- What holds of every stored job holds after a call for a volume, if it outlasts a deletion and
holds of the volume's drain job. -/
theorem forall_jobs_of_answers {P : String → Job → Prop} {s₀ : Snapshot} {c : StoreCall}
    {r : c.Reply} (h : ∀ key job, s.jobs.get? key = some job → P key job)
    (hdying : ∀ key job time, P key job → P key (dyingJob time job))
    (hnew : ∀ job, drainerJob p v = .ok job → P (nameOf job) job)
    (hc : Justified p s₀ v c) (ha : Answers c s r s') :
    ∀ key job, s'.jobs.get? key = some job → P key job := by
  cases c with
  | mark volume mark => rcases ha.of_mark with ⟨rfl, -⟩ | ⟨_, -, rfl⟩ <;> exact h
  | deleteJob job propagation =>
    rcases ha.of_deleteJob with rfl | rfl | ⟨stored, hstored, rfl⟩
    · exact h
    · exact KeyMap.forall_get?_erase h
    · exact KeyMap.forall_get?_insert h (hdying _ _ s.now (h _ _ hstored))
  | settleJob job presence =>
    cases presence with
    | present =>
      rcases ha.of_settleJob_present with rfl | ⟨-, rfl⟩
      · exact h
      · exact KeyMap.forall_get?_insert h (hnew job hc.1)
    | absent => exact hc.elim
  | settlePod pod presence =>
    cases presence with
    | present => rcases ha.of_settlePod_present with ⟨rfl, -⟩ | ⟨-, rfl⟩ <;> exact h
    | absent => rcases ha.of_settlePod_absent with rfl | rfl | ⟨_, -, rfl⟩ <;> exact h
  | _ => exact hc.elim

/-- A call for a volume changes nothing of the volumes but a mark. -/
theorem volumes_of_answers {s₀ : Snapshot} {c : StoreCall} {r : c.Reply}
    (hc : Justified p s₀ v c) (ha : Answers c s r s') :
    s'.volumes = s.volumes ∨ ∃ name stored value, s.volumes.get? name = some stored ∧
      s'.volumes = s.volumes.insert name (withLabel stored statusLabel value) := by
  cases c with
  | mark volume mark =>
    rcases ha.of_mark with ⟨rfl, -⟩ | ⟨stored, hstored, rfl⟩
    · exact .inl rfl
    · exact .inr ⟨_, stored, mark.labelValue?, hstored, rfl⟩
  | deleteJob job propagation =>
    rcases ha.of_deleteJob with rfl | rfl | ⟨_, -, rfl⟩ <;> exact .inl rfl
  | settleJob job presence =>
    cases presence with
    | present => rcases ha.of_settleJob_present with rfl | ⟨-, rfl⟩ <;> exact .inl rfl
    | absent => exact hc.elim
  | settlePod pod presence =>
    cases presence with
    | present => rcases ha.of_settlePod_present with ⟨rfl, -⟩ | ⟨-, rfl⟩ <;> exact .inl rfl
    | absent => rcases ha.of_settlePod_absent with rfl | rfl | ⟨_, -, rfl⟩ <;> exact .inl rfl
  | _ => exact hc.elim

/-- What holds of every stored volume holds after a call for a volume, if it does not depend on the
mark. -/
theorem forall_volumes_of_answers {P : String → Claim → Prop} {s₀ : Snapshot} {c : StoreCall}
    {r : c.Reply} (h : ∀ key v, s.volumes.get? key = some v → P key v)
    (hmarked : ∀ key v value, P key v → P key (withLabel v statusLabel value))
    (hc : Justified p s₀ v c) (ha : Answers c s r s') :
    ∀ key v, s'.volumes.get? key = some v → P key v := by
  rcases volumes_of_answers hc ha with hsame | ⟨name, stored, value, hstored, hnew⟩
  · rw [hsame]
    exact h
  · rw [hnew]
    exact KeyMap.forall_get?_insert h (hmarked _ _ value (h _ _ hstored))

/-- A stored volume stays stored after a call for a volume, but for its mark. -/
theorem volume_outlasts_answers {P : Claim → Prop} {s₀ : Snapshot} {c : StoreCall} {r : c.Reply}
    (h : ∃ w, s.volumes.get? key = some w ∧ P w)
    (hmarked : ∀ w value, P w → P (withLabel w statusLabel value))
    (hc : Justified p s₀ v c) (ha : Answers c s r s') :
    ∃ w, s'.volumes.get? key = some w ∧ P w := by
  obtain ⟨w, hw, hP⟩ := h
  rcases volumes_of_answers hc ha with hsame | ⟨name, stored, value, hstored, hnew⟩
  · exact ⟨w, hsame ▸ hw, hP⟩
  · rw [hnew, KeyMap.get?_insert]
    by_cases hkey : key = name
    · subst hkey
      obtain rfl : w = stored := Option.some.inj (hw.symm.trans hstored)
      exact ⟨_, if_pos rfl, hmarked w value hP⟩
    · exact ⟨w, (if_neg hkey).trans hw, hP⟩

theorem properPod_of_answers {s₀ : Snapshot} {c : StoreCall} {r : c.Reply}
    (h : ∀ key pod, s.pods.get? key = some pod → ProperPod p key pod)
    (hv : nameOf v = p.claimName i) (hc : Justified p s₀ v c) (ha : Answers c s r s') :
    ∀ key pod, s'.pods.get? key = some pod → ProperPod p key pod := by
  refine forall_pods_of_answers h (fun key pod time hproper => hproper.dying time) ?_ hc ha
  intro pod hpod
  have hholds := holds_placeholderPod hv hpod
  exact hholds.name_eq ▸ hholds.toReserves.proper

theorem properJob_of_answers {s₀ : Snapshot} {c : StoreCall} {r : c.Reply}
    (h : ∀ key job, s.jobs.get? key = some job → ProperJob p key job)
    (hv : nameOf v = p.claimName i) (hc : Justified p s₀ v c) (ha : Answers c s r s') :
    ∀ key job, s'.jobs.get? key = some job → ProperJob p key job := by
  refine forall_jobs_of_answers h (fun key job time hproper => hproper.dying time) ?_ hc ha
  intro job hjob
  have hdrains := drains_drainerJob hv hjob
  exact hdrains.name_eq ▸ hdrains.proper

/-- A call made for a volume of an ordinal leaves the cluster tidy. -/
theorem Tidy.of_answers {s₀ : Snapshot} {c : StoreCall} {r : c.Reply} (h : Tidy p s)
    (hv : nameOf v = p.claimName i) (hc : Justified p s₀ v c) (ha : Answers c s r s') :
    Tidy p s' where
  volumes := forall_volumes_of_answers h.volumes
    (fun _ _ value hproper => hproper.withLabel value (.inl rfl)) hc ha
  pods := properPod_of_answers h.pods hv hc ha
  jobs := properJob_of_answers h.jobs hv hc ha

/-! ## What is seen of a tidy cluster -/

section

variable {n : Int32}

/-- A volume is in use if its ordinal has a worker or is one the pool is to have. -/
theorem Tidy.uses_view_iff (h : Tidy p s) (hp : p.WellNamed) :
    (s.view p n).Uses p (p.claimName i) ↔
      (∃ pod, s.pods.get? (p.placeholderName i) = some pod ∧ Works p i pod) ∨
        (i : Int) < n.toInt := by
  refine or_congr ⟨?_, ?_⟩ ⟨?_, ?_⟩
  · rintro ⟨pod, hpod, spec, hspec, hclaim⟩
    obtain ⟨⟨key, hkey⟩, hholds⟩ := mem_selected_iff.1 hpod
    have hproper := h.pods key pod hkey
    obtain ⟨j, hworks⟩ := hproper.worker ((BufferPool.holds_selector_iff hp).1 hholds)
    obtain ⟨spec', hspec', hclaim'⟩ := hworks.binds
    obtain rfl : spec = spec' := Option.some.inj (hspec.symm.trans hspec')
    obtain rfl : i = j := p.claimName_inj.1 (Option.some.inj (hclaim.symm.trans hclaim'))
    refine ⟨pod, ?_, hworks⟩
    rwa [← hworks.name_eq, hproper.name_eq]
  · rintro ⟨pod, hpod, hworks⟩
    obtain ⟨spec, hspec, hclaim⟩ := hworks.binds
    refine ⟨pod, ?_, spec, hspec, hclaim⟩
    exact mem_selected_iff.2 ⟨⟨_, hpod⟩, (BufferPool.holds_selector_iff hp).2 hworks.plays⟩
  · rintro ⟨ordinal, h0, hlt, hname⟩
    have hordinal : (ordinal.toNat : Int) = ordinal := Int.toNat_of_nonneg h0
    rw [← hordinal] at hname hlt
    rw [p.claimName_inj.1 hname]
    exact hlt
  · intro hlt
    exact ⟨i, Int.natCast_nonneg i, hlt, rfl⟩

theorem Tidy.drains_of_listed (h : Tidy p s) (hp : p.WellNamed) (hjob : job ∈ (s.view p n).jobs)
    (hclaim : job.claimOf p.bufferVolumeName = some (p.claimName i)) :
    s.jobs.get? (p.drainerName i) = some job ∧ Drains p i job := by
  obtain ⟨⟨key, hkey⟩, hholds⟩ := mem_selected_iff.1 hjob
  have hproper := h.jobs key job hkey
  obtain ⟨j, hdrains⟩ := hproper.drainer ((BufferPool.holds_selector_iff hp).1 hholds)
  obtain rfl : i = j := p.claimName_inj.1 (Option.some.inj (hclaim.symm.trans hdrains.binds))
  refine ⟨?_, hdrains⟩
  rwa [← hdrains.name_eq, hproper.name_eq]

theorem listed_of_drains (hp : p.WellNamed) (hjob : s.jobs.get? key = some job)
    (hdrains : Drains p i job) : job ∈ (s.view p n).jobs :=
  mem_selected_iff.2 ⟨⟨_, hjob⟩, (BufferPool.holds_selector_iff hp).2 hdrains.plays⟩

theorem Tidy.hasNoJob_view_iff (h : Tidy p s) (hp : p.WellNamed) :
    (s.view p n).HasNoJob p (p.claimName i) ↔
      ∀ job, s.jobs.get? (p.drainerName i) = some job → ¬ Drains p i job := by
  constructor
  · intro hnone job hjob hdrains
    exact hnone job (listed_of_drains hp hjob hdrains) hdrains.binds
  · intro hnone job hjob hclaim
    obtain ⟨hstored, hdrains⟩ := h.drains_of_listed hp hjob hclaim
    exact hnone job hstored hdrains

theorem Tidy.isJobOf_view_iff (h : Tidy p s) (hp : p.WellNamed) :
    (s.view p n).IsJobOf p (p.claimName i) job ↔
      s.jobs.get? (p.drainerName i) = some job ∧ Drains p i job := by
  have hof : ∀ job, (s.view p n).IsJobOf p (p.claimName i) job →
      s.jobs.get? (p.drainerName i) = some job ∧ Drains p i job := by
    rintro job ⟨before, after, hjobs, hclaim, -⟩
    refine h.drains_of_listed (n := n) hp ?_ hclaim
    rw [hjobs]
    exact List.mem_append_right _ List.mem_cons_self
  refine ⟨hof job, fun ⟨hjob, hdrains⟩ => ?_⟩
  cases hfound : (s.view p n).jobOf? p (p.claimName i) with
  | none =>
    have hnone := Snapshot.jobOf?_eq_none_iff.1 hfound
    exact absurd hdrains.binds (hnone job (listed_of_drains hp hjob hdrains))
  | some found =>
    have hisJob := Snapshot.jobOf?_eq_some_iff.1 hfound
    obtain rfl : job = found := Option.some.inj (hjob.symm.trans (hof found hisJob).1)
    exact hisJob

theorem holdsOrdinalOf_view_iff (hp : p.WellNamed)
    (hname : ∀ key pod, s.pods.get? key = some pod → nameOf pod = key)
    (hrole : ∀ key pod, s.pods.get? key = some pod → p.Plays .placeholder pod.metadata.labelMap →
      ∃ i, Reserves p i pod) :
    (s.view p n).HoldsOrdinalOf (p.claimName i) ↔
      i ≤ Text.maxOrdinal ∧
        ∃ pod, s.pods.get? (p.placeholderName i) = some pod ∧ Holds p i pod := by
  rw [Snapshot.HoldsOrdinalOf, p.trailingOrdinal?_claimName]
  constructor
  · rintro ⟨ordinal, hordinal, pod, hpod, halive, htrailing⟩
    by_cases hi : i ≤ Text.maxOrdinal
    · rw [if_pos hi] at hordinal
      cases hordinal
      obtain ⟨⟨key, hkey⟩, hholds⟩ := mem_selected_iff.1 hpod
      obtain ⟨j, hreserves⟩ := hrole key pod hkey ((BufferPool.holds_selector_iff hp).1 hholds)
      rw [hreserves.name_eq, p.trailingOrdinal?_placeholderName] at htrailing
      obtain rfl : j = i := by
        by_cases hj : j ≤ Text.maxOrdinal
        · rw [if_pos hj] at htrailing
          exact Option.some.inj htrailing
        · rw [if_neg hj] at htrailing
          cases htrailing
      refine ⟨hi, pod, ?_, hreserves, halive⟩
      rwa [← hreserves.name_eq, hname key pod hkey]
    · rw [if_neg hi] at hordinal
      cases hordinal
  · rintro ⟨hi, pod, hpod, hholds⟩
    refine ⟨i, if_pos hi, pod, ?_, hholds.alive, ?_⟩
    · exact mem_selected_iff.2 ⟨⟨_, hpod⟩, (BufferPool.holds_selector_iff hp).2 hholds.plays⟩
    · rw [hholds.name_eq, p.trailingOrdinal?_placeholderName, if_pos hi]

theorem Tidy.holdsOrdinalOf_view_iff (h : Tidy p s) (hp : p.WellNamed) :
    (s.view p n).HoldsOrdinalOf (p.claimName i) ↔
      i ≤ Text.maxOrdinal ∧
        ∃ pod, s.pods.get? (p.placeholderName i) = some pod ∧ Holds p i pod :=
  Drain.holdsOrdinalOf_view_iff hp (fun key pod hpod => (h.pods key pod hpod).name_eq)
    fun key pod hpod => (h.pods key pod hpod).placeholder

theorem mem_volumes_view_iff (hp : p.WellNamed) :
    v ∈ (s.view p n).volumes ↔ (∃ key, s.volumes.get? key = some v) ∧
      p.Plays .worker v.metadata.labelMap ∧
        v.metadata.labelMap.get? optOutLabel ≠ some "no" := by
  refine mem_selected_iff.trans (and_congr_right fun _ => ?_)
  exact BufferPool.holds_drainableSelector_iff hp

end

end VolumeDrain.Drain
