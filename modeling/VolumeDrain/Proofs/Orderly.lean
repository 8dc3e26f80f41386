import VolumeDrain.Proofs.Pass

/-!
# What a pass sees of an ordinal

In an orderly cluster the listed volumes have the names of ordinals, and so have the pods and jobs
of the pool; of volumes that are not listed nothing is said. The sight of a listed volume is then a
matter of the objects under the names of its ordinal, and of these alone. Where workers may mount
what they like, this still holds of the ordinals that the pool is to have.
-/
namespace VolumeDrain.Drain

open Manifest Script MemoryStore

/-- The volume is one that passes list: it has the labels of workers and is not opted out. -/
def Drainable (p : BufferPool) (v : Claim) : Prop :=
  p.Plays .worker v.metadata.labelMap ∧ v.metadata.labelMap.get? optOutLabel ≠ some "no"

/-- The cluster keeps listed volumes, placeholders and drain jobs under the names of ordinals. -/
structure Named (p : BufferPool) (s : MemoryStore) : Prop where
  name_eq : ∀ key v, s.volumes.get? key = some v → nameOf v = key
  listed : ∀ key v, s.volumes.get? key = some v → Drainable p v → ∃ i : Nat, key = p.claimName i
  pod_name : ∀ key pod, s.pods.get? key = some pod → nameOf pod = key
  placeholder : ∀ key pod, s.pods.get? key = some pod →
    p.Plays .placeholder pod.metadata.labelMap → ∃ i, Reserves p i pod
  jobs : ∀ key job, s.jobs.get? key = some job → ProperJob p key job

/-- Beside that, the pool's names of pods are those of placeholders and of workers, each of which
binds the volume of its ordinal. -/
structure Orderly (p : BufferPool) (s : MemoryStore) : Prop extends Named p s where
  worker : ∀ key pod, s.pods.get? key = some pod → p.Plays .worker pod.metadata.labelMap →
    ∃ i, Works p i pod
  role : ∀ key pod, s.pods.get? key = some pod → ∀ i, key = p.placeholderName i →
    Works p i pod ∨ Reserves p i pod

/-- Beside that, the names of drain jobs are those of drain jobs alone. -/
structure Owned (p : BufferPool) (s : MemoryStore) : Prop extends Orderly p s where
  drainer : ∀ key job, s.jobs.get? key = some job → ∀ i, key = p.drainerName i → Drains p i job

variable {p : BufferPool} {s s' : MemoryStore} {i : Nat} {v : Claim} {n : Int32}
  {t : List StoreExchange}

theorem Orderly.pods (h : Orderly p s) {key : String} {pod : Pod}
    (hpod : s.pods.get? key = some pod) : ProperPod p key pod where
  name_eq := h.pod_name key pod hpod
  worker := h.worker key pod hpod
  placeholder := h.placeholder key pod hpod
  role := h.role key pod hpod

theorem Orderly.of_proper (hname : ∀ key v, s.volumes.get? key = some v → nameOf v = key)
    (hlisted : ∀ key v, s.volumes.get? key = some v → Drainable p v →
      ∃ i : Nat, key = p.claimName i)
    (hpods : ∀ key pod, s.pods.get? key = some pod → ProperPod p key pod)
    (hjobs : ∀ key job, s.jobs.get? key = some job → ProperJob p key job) : Orderly p s where
  name_eq := hname
  listed := hlisted
  pod_name key pod hpod := (hpods key pod hpod).name_eq
  placeholder key pod hpod := (hpods key pod hpod).placeholder
  jobs := hjobs
  worker key pod hpod := (hpods key pod hpod).worker
  role key pod hpod := (hpods key pod hpod).role

theorem Tidy.orderly (h : Tidy p s) : Orderly p s :=
  .of_proper (fun key v hv => (h.volumes key v hv).name_eq)
    (fun key v hv hlisted => (h.volumes key v hv).ordinal hlisted.1) h.pods h.jobs

/-- With fewer pods and jobs a cluster stays orderly. -/
theorem Owned.of_fewer (h : Owned p s) (hvolumes : s'.volumes = s.volumes)
    (hpods : ∀ key pod, s'.pods.get? key = some pod → s.pods.get? key = some pod)
    (hjobs : ∀ key job, s'.jobs.get? key = some job → s.jobs.get? key = some job) :
    Owned p s' where
  toOrderly := .of_proper (hvolumes ▸ h.name_eq) (hvolumes ▸ h.listed)
    (fun key pod hpod => h.pods (hpods key pod hpod))
    (fun key job hjob => h.jobs key job (hjobs key job hjob))
  drainer key job hjob := h.drainer key job (hjobs key job hjob)

/-- The jobs alone are those of a tidy cluster. -/
theorem Named.bare (h : Named p s) : Tidy p { s with volumes := ∅, pods := ∅ } where
  volumes _ _ hv := nomatch hv
  pods _ _ hpod := nomatch hpod
  jobs := h.jobs

/-- Without its volumes an orderly cluster is tidy. -/
theorem Orderly.withoutVolumes (h : Orderly p s) : Tidy p { s with volumes := ∅ } where
  volumes _ _ hv := nomatch hv
  pods _ _ hpod := h.pods hpod
  jobs := h.jobs

theorem drainable_withLabel {value : Option String} :
    Drainable p (withLabel v statusLabel value) ↔ Drainable p v := by
  have hopt : (withLabel v statusLabel value).metadata.labelMap.get? optOutLabel =
      v.metadata.labelMap.get? optOutLabel := by
    cases value with
    | none => exact (KeyMap.get?_erase _ _ _).trans (if_neg (by decide))
    | some value => exact (KeyMap.get?_insert _ _ _ _).trans (if_neg (by decide))
  rw [Drainable, Drainable, plays_withLabel (.inl rfl), hopt]

theorem drainable_bareVolume (p : BufferPool) (i : Nat) : Drainable p (bareVolume p i) := by
  refine ⟨BufferPool.plays_labels, ?_⟩
  change (p.labels .worker).get? optOutLabel ≠ some "no"
  simp [BufferPool.get?_labels, optOutLabel]

/-! ## Calls on an orderly cluster -/

theorem Orderly.of_answers {σ : Snapshot} {c : StoreCall} {r : c.Reply} (h : Orderly p s)
    (hv : nameOf v = p.claimName i) (hc : Justified p σ v c) (ha : Answers c s r s') :
    Orderly p s' := by
  refine .of_proper ?_ ?_ ?_ (properJob_of_answers h.jobs hv hc ha)
  · exact forall_volumes_of_answers h.name_eq (fun _ _ _ hname => hname) hc ha
  · refine forall_volumes_of_answers
      (P := fun key v => Drainable p v → ∃ i : Nat, key = p.claimName i) h.listed ?_ hc ha
    intro key v value hlisted hdrainable
    exact hlisted (drainable_withLabel.1 hdrainable)
  · exact properPod_of_answers (fun _ _ hpod => h.pods hpod) hv hc ha

theorem Owned.of_answers {σ : Snapshot} {c : StoreCall} {r : c.Reply} (h : Owned p s)
    (hv : nameOf v = p.claimName i) (hc : Justified p σ v c) (ha : Answers c s r s') :
    Owned p s' where
  toOrderly := h.toOrderly.of_answers hv hc ha
  drainer := by
    refine forall_jobs_of_answers (P := fun key job => ∀ i, key = p.drainerName i → Drains p i job)
      h.drainer (fun _ _ _ hdrains i hi => (hdrains i hi).dying) ?_ hc ha
    intro job hjob j hj
    have hdrains := drains_drainerJob hv hjob
    rw [hdrains.name_eq, p.drainerName_inj] at hj
    exact hj ▸ hdrains

/-- What every call for one of these volumes preserves is preserved by all of them. -/
theorem kept_of_follows {I : MemoryStore → Prop} {σ : Snapshot} {volumes : List Claim}
    (step : ∀ {v c s s'} {r : c.Reply}, v ∈ volumes → Justified p σ v c → Answers c s r s' →
      I s → I s')
    (hf : Follows Answers t s s') (ht : ∀ e ∈ t, ∃ v ∈ volumes, Justified p σ v e.question)
    (h : I s) : I s' := by
  induction t generalizing s with
  | nil => exact hf ▸ h
  | cons e t ih =>
    obtain ⟨mid, he, hrest⟩ := hf
    obtain ⟨v, hv, hjustified⟩ := ht e List.mem_cons_self
    exact ih hrest (fun e' he' => ht e' (List.mem_cons_of_mem _ he')) (step hv hjustified he h)

/-! ## Listed volumes -/

theorem mem_volumes_view_iff_drainable (hp : p.WellNamed) :
    v ∈ (s.view p n).volumes ↔ (∃ key, s.volumes.get? key = some v) ∧ Drainable p v :=
  mem_volumes_view_iff hp

theorem Named.name_of_listed (h : Named p s) (hp : p.WellNamed)
    (hv : v ∈ (s.view p n).volumes) :
    ∃ i : Nat, nameOf v = p.claimName i ∧ s.volumes.get? (p.claimName i) = some v := by
  obtain ⟨⟨key, hkey⟩, hdrainable⟩ := (mem_volumes_view_iff_drainable hp).1 hv
  have hname := h.name_eq key v hkey
  obtain ⟨i, rfl⟩ := h.listed key v hkey hdrainable
  exact ⟨i, hname, hkey⟩

/-- The names of listed volumes are those under which drainable volumes are stored. -/
theorem Named.exists_listed_iff (h : Named p s) (hp : p.WellNamed) {name : String} :
    (∃ v ∈ (s.view p n).volumes, nameOf v = name) ↔ ∃ i : Nat, name = p.claimName i ∧
      ∃ v, s.volumes.get? (p.claimName i) = some v ∧ Drainable p v := by
  constructor
  · rintro ⟨v, hv, rfl⟩
    obtain ⟨i, hname, hstored⟩ := h.name_of_listed hp hv
    exact ⟨i, hname, v, hstored, ((mem_volumes_view_iff_drainable hp).1 hv).2⟩
  · rintro ⟨i, rfl, v, hstored, hdrainable⟩
    exact ⟨v, (mem_volumes_view_iff_drainable hp).2 ⟨⟨_, hstored⟩, hdrainable⟩,
      h.name_eq _ _ hstored⟩

theorem Named.listed_distinct (h : Named p s) :
    (s.view p n).volumes.Pairwise fun v w => nameOf v ≠ nameOf w :=
  Drain.listed_distinct h.name_eq

theorem Named.isJobOf_view_iff {job : Job} (h : Named p s) (hp : p.WellNamed) :
    (s.view p n).IsJobOf p (p.claimName i) job ↔
      s.jobs.get? (p.drainerName i) = some job ∧ Drains p i job :=
  h.bare.isJobOf_view_iff (n := n) hp

/-- The calls that are made for a volume are about its ordinal alone. -/
theorem Named.ordinal_eq {c : StoreCall} {j : Nat} (h : Named p s) (hp : p.WellNamed)
    (hv : nameOf v = p.claimName j) (hc : Justified p (s.view p n) v c) (hi : Concerns p i c) :
    i = j :=
  Justified.ordinal_eq (fun _ hjob => ((h.isJobOf_view_iff hp).1 hjob).2) hv hc hi

/-! ## Sights -/

/-- The objects of an ordinal look like this to a pass, where the pool is to have a number of
workers. -/
structure Slot.Shows (p : BufferPool) (n : Int32) (i : Nat) (σ : Slot) (x : Sight) : Prop where
  mark : ∃ v, σ.volume = some v ∧ x.mark = .ofLabels v.metadata.labelMap
  inUse : x.inUse = true ↔ σ.Worked p i ∨ (i : Int) < n.toInt
  job : (x.job = none ∧ σ.Jobless p i) ∨
    ∃ job, σ.job = some job ∧ Drains p i job ∧ x.job = some (JobProgress.of job)
  placeholder : x.placeholder = true ↔ i ≤ Text.maxOrdinal ∧ σ.Held p i

theorem Named.jobOf?_view (h : Named p s) (hp : p.WellNamed) :
    ((s.view p n).jobOf? p (p.claimName i) = none ∧ (s.slot p i).Jobless p i) ∨
      ∃ job, (s.view p n).jobOf? p (p.claimName i) = some job ∧ (s.slot p i).job = some job ∧
        Drains p i job := by
  cases hjob : (s.view p n).jobOf? p (p.claimName i) with
  | none =>
    have hnoJob := Snapshot.jobOf?_eq_none_iff.1 hjob
    exact .inl ⟨rfl, (h.bare.hasNoJob_view_iff (n := n) hp).1 hnoJob⟩
  | some job =>
    have hisJob := (h.isJobOf_view_iff hp).1 (Snapshot.jobOf?_eq_some_iff.1 hjob)
    exact .inr ⟨job, rfl, hisJob⟩

/-- A pass sees the objects of a listed volume's ordinal, if it sees whether it is in use. -/
theorem Named.shows_of_uses (h : Named p s) (hp : p.WellNamed) (hv : nameOf v = p.claimName i)
    (hstored : s.volumes.get? (p.claimName i) = some v)
    (huse : (s.view p n).Uses p (p.claimName i) ↔ (s.slot p i).Worked p i ∨ (i : Int) < n.toInt) :
    (s.slot p i).Shows p n i ((s.view p n).sight p v) where
  mark := ⟨v, hstored, rfl⟩
  inUse := by
    change (s.view p n).inUse p (nameOf v) = true ↔ _
    rw [Snapshot.inUse_iff, hv]
    exact huse
  job := by
    change ((s.view p n).jobOf? p (nameOf v)).map JobProgress.of = none ∧ _ ∨
      ∃ job, _ ∧ _ ∧ ((s.view p n).jobOf? p (nameOf v)).map JobProgress.of = _
    rw [hv]
    rcases h.jobOf?_view (n := n) hp with ⟨hjob, hjobless⟩ | ⟨job, hjob, hstored, hdrains⟩
    · exact .inl ⟨by rw [hjob]; rfl, hjobless⟩
    · exact .inr ⟨job, hstored, hdrains, by rw [hjob]; rfl⟩
  placeholder := by
    refine Snapshot.holdsOrdinalOf_iff.trans ?_
    rw [hv]
    exact holdsOrdinalOf_view_iff (n := n) hp h.pod_name h.placeholder

theorem Orderly.shows (h : Orderly p s) (hp : p.WellNamed) (hv : nameOf v = p.claimName i)
    (hstored : s.volumes.get? (p.claimName i) = some v) :
    (s.slot p i).Shows p n i ((s.view p n).sight p v) :=
  h.shows_of_uses hp hv hstored (h.withoutVolumes.uses_view_iff hp)

/-- Whatever the workers mount, the ordinals that the pool is to have are in use. -/
theorem Named.shows_of_lt (h : Named p s) (hp : p.WellNamed) (hv : nameOf v = p.claimName i)
    (hstored : s.volumes.get? (p.claimName i) = some v) (hi : (i : Int) < n.toInt) :
    (s.slot p i).Shows p n i ((s.view p n).sight p v) := by
  have huses : (s.view p n).Uses p (p.claimName i) :=
    .inr ⟨i, Int.natCast_nonneg i, hi, rfl⟩
  exact h.shows_of_uses hp hv hstored (iff_of_true huses (.inr hi))

end VolumeDrain.Drain
