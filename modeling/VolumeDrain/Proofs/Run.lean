import VolumeDrain.Proofs.Pass

/-!
# Runs of a cluster

Between passes the cluster goes on by itself: the replica count changes, workers come and go, jobs
make progress, deletions come to their end, and people change labels. A run is any order of such
changes and of passes. It keeps a record of its passes, since what a pass left undone shows in
later ones. Fresh clusters have no drain job and no placeholder to begin with.
-/
namespace VolumeDrain.Drain

open Manifest Script MemoryStore

variable {p : BufferPool} {i j : Nat}

/-- Something other than the operator changes the cluster. -/
inductive Change (p : BufferPool) : MemoryStore → MemoryStore → Prop
  | scale (s : MemoryStore) (replicas : Except OperatorError Int32) :
      Change p s { s with replicas }
  /-- A worker is made for an ordinal below the replica count whose name is free. -/
  | startWorker {s : MemoryStore} {n : Int32} {i : Nat} {pod : Pod}
      (hreplicas : s.replicas = .ok n) (hi : (i : Int) < n.toInt)
      (hfree : s.pods.get? (p.placeholderName i) = none) (hworks : Works p i pod) :
      Change p s { s with pods := s.pods.insert (p.placeholderName i) pod }
  | stopWorker {s : MemoryStore} {i : Nat} {pod : Pod} {time : Instant}
      (hpod : s.pods.get? (p.placeholderName i) = some pod) (hworks : Works p i pod) :
      Change p s { s with pods := s.pods.insert (p.placeholderName i) (dyingPod time pod) }
  | removeWorker {s : MemoryStore} {i : Nat} {pod : Pod}
      (hpod : s.pods.get? (p.placeholderName i) = some pod) (hworks : Works p i pod) :
      Change p s { s with pods := s.pods.erase (p.placeholderName i) }
  | endPodDeletion {s : MemoryStore} {key : String} {pod : Pod}
      (hpod : s.pods.get? key = some pod) (hdying : pod.metadata.isTerminating) :
      Change p s { s with pods := s.pods.erase key }
  | endJobDeletion {s : MemoryStore} {key : String} {job : Job}
      (hjob : s.jobs.get? key = some job) (hdying : job.metadata.isTerminating) :
      Change p s { s with jobs := s.jobs.erase key }
  /-- A job reports a status; one that has succeeded stays so. -/
  | reportJob {s s' : MemoryStore} {key : String} {status : JobStatus}
      (h : s.setJobStatus key status = some s')
      (hsucceeded : ∀ job, s.jobs.get? key = some job → HasSucceeded job →
        HasSucceeded { job with status := some status }) : Change p s s'
  /-- Anyone may mark a volume or opt it out, and undo both. -/
  | relabel {s s' : MemoryStore} {volume key : String} {value : Option String}
      (hkey : key = statusLabel ∨ key = optOutLabel) (h : s.setLabel volume key value = some s') :
      Change p s s'
  /-- An ordinal without a volume is given one. -/
  | provision {s : MemoryStore} {i : Nat} {v : Claim}
      (hfree : s.volumes.get? (p.claimName i) = none) (hname : nameOf v = p.claimName i) :
      Change p s { s with volumes := s.volumes.insert (p.claimName i) v }

/-- What a change of the cluster makes of the pod and the job of an ordinal. -/
inductive Shift (p : BufferPool) (i : Nat) (σ σ' : Slot) : Prop
  | none (hpod : σ'.pod = σ.pod) (hjob : σ'.job = σ.job)
  | workerStarts (hfree : σ.pod = .none) (hjob : σ'.job = σ.job)
  | podFades {pod : Pod} (hpod : σ.pod = some pod) (hfree : ¬ Holds p i pod)
      (hjob : σ'.job = σ.job)
  | jobReports {job : Job} {status : JobStatus} (hjob : σ.job = some job)
      (hjob' : σ'.job = some { job with status := some status })
      (hsucceeded : HasSucceeded job → HasSucceeded { job with status := some status })
      (hpod : σ'.pod = σ.pod)
  | jobGoes (hjob : σ'.job = .none)

theorem Change.tidy {s s' : MemoryStore} (h : Tidy p s) (hc : Change p s s') : Tidy p s' := by
  cases hc with
  | scale replicas => exact ⟨h.volumes, h.pods, h.jobs⟩
  | startWorker _ _ _ hworks =>
    exact { h with pods := KeyMap.forall_get?_insert h.pods hworks.proper }
  | stopWorker hpod _ =>
    exact { h with pods := KeyMap.forall_get?_insert h.pods ((h.pods _ _ hpod).dying _) }
  | removeWorker _ _ => exact { h with pods := KeyMap.forall_get?_erase h.pods }
  | endPodDeletion _ _ => exact { h with pods := KeyMap.forall_get?_erase h.pods }
  | endJobDeletion _ _ => exact { h with jobs := KeyMap.forall_get?_erase h.jobs }
  | reportJob hset _ =>
    obtain ⟨job, hjob, rfl⟩ := Option.map_eq_some_iff.1 hset
    exact { h with jobs := KeyMap.forall_get?_insert h.jobs (h.jobs _ _ hjob).withStatus }
  | @relabel _ volume key value hkey hset =>
    obtain ⟨v, hv, rfl⟩ := Option.map_eq_some_iff.1 hset
    have hproper := (h.volumes _ _ hv).withLabel value hkey
    exact { h with volumes := KeyMap.forall_get?_insert h.volumes hproper }
  | provision _ hname =>
    exact { h with volumes := KeyMap.forall_get?_insert h.volumes ⟨hname, fun _ => ⟨_, rfl⟩⟩ }

theorem Change.shift {s s' : MemoryStore} (hc : Change p s s') (i : Nat) :
    Shift p i (s.slot p i) (s'.slot p i) := by
  cases hc with
  | scale replicas => exact .none rfl rfl
  | @startWorker n j pod _ _ hfree _ =>
    by_cases hij : i = j
    · subst hij
      exact .workerStarts hfree rfl
    · exact .none (by simp [slot, KeyMap.get?_insert, p.placeholderName_inj, hij]) rfl
  | @stopWorker j pod time hpod hworks =>
    by_cases hij : i = j
    · subst hij
      exact .podFades hpod (fun hholds => not_works_of_reserves hholds.toReserves hworks) rfl
    · exact .none (by simp [slot, KeyMap.get?_insert, p.placeholderName_inj, hij]) rfl
  | @removeWorker j pod hpod hworks =>
    by_cases hij : i = j
    · subst hij
      exact .podFades hpod (fun hholds => not_works_of_reserves hholds.toReserves hworks) rfl
    · exact .none (by simp [slot, KeyMap.get?_erase, p.placeholderName_inj, hij]) rfl
  | @endPodDeletion key pod hpod hdying =>
    by_cases hkey : p.placeholderName i = key
    · subst hkey
      refine .podFades hpod (fun hholds => ?_) rfl
      rw [ObjectMeta.isTerminating, hholds.alive] at hdying
      cases hdying
    · exact .none (by simp [slot, KeyMap.get?_erase, hkey]) rfl
  | @endJobDeletion key job _ _ =>
    by_cases hkey : p.drainerName i = key
    · exact .jobGoes (by simp [slot, KeyMap.get?_erase, hkey])
    · exact .none rfl (by simp [slot, KeyMap.get?_erase, hkey])
  | @reportJob _ key status hset hsucceeded =>
    obtain ⟨job, hjob, rfl⟩ := Option.map_eq_some_iff.1 hset
    by_cases hkey : p.drainerName i = key
    · subst hkey
      exact .jobReports hjob (by simp [slot, KeyMap.get?_insert]) (hsucceeded job hjob) rfl
    · exact .none rfl (by simp [slot, KeyMap.get?_insert, hkey])
  | relabel _ hset =>
    obtain ⟨v, -, rfl⟩ := Option.map_eq_some_iff.1 hset
    exact .none rfl rfl
  | provision _ _ => exact .none rfl rfl

/-- A pass of a run: what it exchanged, and the cluster before and after it. -/
structure PassRecord where
  before : MemoryStore
  trace : List StoreExchange
  after : MemoryStore

/-- From a cluster a run with these passes can come to this state. -/
inductive Runs (p : BufferPool) (s₀ : MemoryStore) : List PassRecord → MemoryStore → Prop
  | start : Runs p s₀ [] s₀
  | change {passes : List PassRecord} {s s' : MemoryStore} (h : Runs p s₀ passes s)
      (hc : Change p s s') : Runs p s₀ passes s'
  | pass {passes : List PassRecord} {s s' : MemoryStore} {t : List StoreExchange}
      (h : Runs p s₀ passes s) (hpass : Pass p s t s') : Runs p s₀ (passes ++ [⟨s, t, s'⟩]) s'

/-- The cluster is tidy and has no drain job and no placeholder. -/
structure Fresh (p : BufferPool) (s : MemoryStore) : Prop where
  tidy : Tidy p s
  jobless : ∀ key job, s.jobs.get? key = some job → ¬ p.Plays .drainer job.metadata.labelMap
  unreserved : ∀ key pod, s.pods.get? key = some pod →
    ¬ p.Plays .placeholder pod.metadata.labelMap

theorem fresh_ofList {volumes : List (String × Claim)} {workers : List (String × Pod)}
    {replicas : Except OperatorError Int32}
    (hvolumes : ∀ e ∈ volumes, nameOf e.2 = e.1 ∧ ∃ i : Nat, e.1 = p.claimName i)
    (hworkers : ∀ e ∈ workers, ∃ i, e.1 = p.placeholderName i ∧ Works p i e.2) :
    Fresh p { volumes := .ofList volumes, pods := .ofList workers, replicas } := by
  have hempty : ∀ key job, (∅ : KeyMap Job).get? key ≠ some job := fun key job h => nomatch h
  have hpods : ∀ key pod, (KeyMap.ofList workers).get? key = some pod →
      ∃ i, key = p.placeholderName i ∧ Works p i pod :=
    KeyMap.forall_get?_ofList (P := fun key pod => ∃ i, key = p.placeholderName i ∧ Works p i pod)
      hworkers
  refine ⟨⟨?_, ?_, ?_⟩, ?_, ?_⟩
  · exact KeyMap.forall_get?_ofList fun e he => ⟨(hvolumes e he).1, fun _ => (hvolumes e he).2⟩
  · intro key pod hpod
    obtain ⟨i, rfl, hworks⟩ := hpods key pod hpod
    exact hworks.proper
  · exact fun key job hjob => absurd hjob (hempty key job)
  · exact fun key job hjob => absurd hjob (hempty key job)
  · intro key pod hpod hplays
    obtain ⟨i, -, hworks⟩ := hpods key pod hpod
    exact nomatch hplays.role_eq hworks.plays

variable {s₀ s : MemoryStore} {passes : List PassRecord}

theorem Runs.tidy (hp : p.WellNamed) (h₀ : Tidy p s₀) (h : Runs p s₀ passes s) : Tidy p s := by
  induction h with
  | start => exact h₀
  | change _ hc ih => exact hc.tidy ih
  | pass _ hpass ih => exact hpass.tidy ih hp

theorem Fresh.slot_jobless (h : Fresh p s) : (s.slot p i).Jobless p i :=
  fun job hjob hdrains => h.jobless _ job hjob hdrains.plays

/-! ## Where a drain job comes from -/

theorem drains_of_dying {job : Job} {time : Instant} (h : Drains p i (dyingJob time job)) :
    Drains p i job :=
  ⟨h.name_eq, h.plays, h.binds, h.ordinal_le⟩

theorem drains_of_withStatus {job : Job} {status : Option JobStatus}
    (h : Drains p i { job with status }) : Drains p i job :=
  ⟨h.name_eq, h.plays, h.binds, h.ordinal_le⟩

theorem Fades.of_some {x : Option Job} {job' : Job} (h : Fades dyingJob x (some job'))
    (hdrains : Drains p i job') :
    ∃ job, x = some job ∧ Drains p i job ∧ (HasSucceeded job' ↔ HasSucceeded job) := by
  rcases h with h | h | ⟨job, time, hjob, h⟩
  · exact ⟨job', h.symm, hdrains, Iff.rfl⟩
  · cases h
  · cases h
    exact ⟨job, hjob, drains_of_dying hdrains, Iff.rfl⟩

theorem held_of_pod_eq {σ σ' : Slot} (h : σ.Held p i) (hpod : σ'.pod = σ.pod) : σ'.Held p i := by
  obtain ⟨pod, hσ, hholds⟩ := h
  exact ⟨pod, hpod.trans hσ, hholds⟩

/-- Changes of the cluster make no drain job and take no placeholder away from one. -/
theorem Shift.of_job {σ σ' : Slot} {job : Job} (hshift : Shift p i σ σ') (hjob : σ'.job = some job)
    (hdrains : Drains p i job) :
    ∃ old, σ.job = some old ∧ Drains p i old ∧ (HasSucceeded old → HasSucceeded job) ∧
      (σ.Held p i → σ'.Held p i) := by
  cases hshift with
  | none hpod hsame =>
    exact ⟨job, hsame ▸ hjob, hdrains, id, fun hheld => held_of_pod_eq hheld hpod⟩
  | workerStarts hfree hsame =>
    refine ⟨job, hsame ▸ hjob, hdrains, id, ?_⟩
    rintro ⟨pod, hpod, -⟩
    rw [hfree] at hpod
    cases hpod
  | podFades hpod hfree hsame =>
    refine ⟨job, hsame ▸ hjob, hdrains, id, ?_⟩
    rintro ⟨held, hheld, hholds⟩
    rw [hpod] at hheld
    cases hheld
    exact absurd hholds hfree
  | jobReports hold hnew hsucceeded hpod =>
    rw [hnew] at hjob
    cases hjob
    exact ⟨_, hold, drains_of_withStatus hdrains, hsucceeded,
      fun hheld => held_of_pod_eq hheld hpod⟩
  | jobGoes hgone =>
    rw [hgone] at hjob
    cases hjob

/-- After a turn a drain job is a new one beside its placeholder, or it was there before. Its pod
is then the same unless the job has succeeded and the placeholder was asked to be absent. -/
theorem Turn.of_job {σ σ' : Slot} {u : List StoreExchange} {job : Job} (hturn : Turn p i σ u σ')
    (hjob : σ'.job = some job) (hdrains : Drains p i job) :
    (σ.job = none ∧ σ'.Held p i ∧
        ∃ new r, nameOf new = p.drainerName i ∧ ⟨.settleJob new .present, r⟩ ∈ u) ∨
      ∃ old, σ.job = some old ∧ Drains p i old ∧ (HasSucceeded job ↔ HasSucceeded old) ∧
        (σ'.pod = σ.pod ∨ (HasSucceeded old ∧
          ∃ pod r, nameOf pod = p.placeholderName i ∧ ⟨.settlePod pod .absent, r⟩ ∈ u)) := by
  cases hturn with
  | idle _ hσ =>
    rw [hσ] at hjob ⊢
    exact .inr ⟨job, hjob, hdrains, Iff.rfl, .inl rfl⟩
  | reclaim _ _ _ hσ =>
    rcases hσ with ⟨rfl, -⟩ | rfl
    · exact .inr ⟨job, hjob, hdrains, Iff.rfl, .inl rfl⟩
    · exact .inr ⟨job, hjob, hdrains, Iff.rfl, .inl rfl⟩
  | start _ _ hjobless _ _ hmade =>
    rcases hmade with hsame | ⟨hnone, hheld, new, r, -, hnew, hmem⟩
    · exact absurd hdrains (hjobless job (hsame ▸ hjob))
    · exact .inl ⟨hnone, hheld, new, r, hnew.name_eq, hmem⟩
  | cancel _ _ _ _ _ hpod hfades =>
    rw [hjob] at hfades
    obtain ⟨old, hold, hdrainsOld, hiff⟩ := hfades.of_some hdrains
    exact .inr ⟨old, hold, hdrainsOld, hiff, .inl hpod⟩
  | finish _ hstored _ hsucceeded _ hfades hasked =>
    rw [hjob] at hfades
    obtain ⟨old, hold, hdrainsOld, hiff⟩ := hfades.of_some hdrains
    obtain rfl := Option.some.inj (hstored.symm.trans hold)
    exact .inr ⟨_, hold, hdrainsOld, hiff, hasked.imp And.left fun h => ⟨hsucceeded, h⟩⟩
  | release _ hjobless _ hsame _ => exact absurd hdrains (hjobless job (hsame ▸ hjob))

end VolumeDrain.Drain
