import VolumeDrain.Proofs.Completion
import VolumeDrain.Proofs.Members

/-!
# What is made is what is seen

Where all that a cluster holds was made for pools with names of their own, the snapshot of one pool
shows what was made for it, and nothing that was made for another pool or to play another role. The
labels that objects are made with say so, and the selectors of a pool read back as its labels; what
is bound or held is then read off claims and names, which are those that were given.
-/
namespace VolumeDrain.Drain

open Manifest Script MemoryStore

/-- No two of the pools share a name, as in one namespace. -/
def NamedApart (pools : List BufferPool) : Prop :=
  ∀ p ∈ pools, ∀ q ∈ pools, p.name = q.name → p = q

/-- Everything in the cluster was made for these pools. -/
structure MadeFor (pools : List BufferPool) (s : MemoryStore) : Prop where
  volumes : ∀ v ∈ s.volumes.values, ∃ q ∈ pools, ∃ i, VolumeOf q i v
  pods : ∀ pod ∈ s.pods.values, ∃ q ∈ pools, ∃ role, PodOf q pod role
  jobs : ∀ job ∈ s.jobs.values, ∃ q ∈ pools, ∃ v, DrainJobOf q v job

/-- The volume is taken out of draining. -/
def OptedOut (v : Claim) : Prop := v.metadata.labelMap.get? optOutLabel = some "no"

/-- The cluster has a placeholder of the pool for the ordinal that is not being deleted. -/
def MemoryStore.Reserved (s : MemoryStore) (p : BufferPool) (i : Nat) : Prop :=
  ∃ pod ∈ s.pods.values, PlaceholderOf p i pod ∧ pod.metadata.deletionTimestamp = none

/-- The snapshot shows of the pool exactly what was made for it. -/
structure Recognises (pools : List BufferPool) (p : BufferPool) (s : MemoryStore) (n : Int32)
    (σ : Snapshot) : Prop where
  listed : ∀ v, v ∈ σ.volumes ↔ v ∈ s.volumes.values ∧ (∃ i, VolumeOf p i v) ∧ ¬ OptedOut v
  /-- In use are the volumes of the pool's workers and those of ordinals below the replica count. -/
  inUse : ∀ name, σ.inUse p name = true ↔
    (∃ pod ∈ s.pods.values, ∃ i, WorkerOf p i pod ∧ workerClaim? p i = some name) ∨
      ∃ i : Nat, (i : Int) < n.toInt ∧ name = p.claimName i
  hasJob : ∀ v, (σ.jobOf? p (nameOf v)).isSome = true ↔ ∃ job ∈ s.jobs.values, DrainJobOf p v job
  job : ∀ v job, σ.jobOf? p (nameOf v) = some job → job ∈ s.jobs.values ∧ DrainJobOf p v job
  held : ∀ i, i ∈ σ.heldOrdinals ↔ s.Reserved p i
  /-- A pod that was made for the pool was not made for another one, or to play another role. -/
  apart : ∀ pod role, PodOf p pod role → ∀ q ∈ pools, ∀ role', PodOf q pod role' →
    q = p ∧ role' = role
  /-- The volume of an ordinal is seen in use if the ordinal has its worker, or is to have it. -/
  used : p.spec.disablePvc = false → ∀ v i, VolumeOf p i v → ((σ.sight p v).inUse = true ↔
    (∃ pod ∈ s.pods.values, WorkerOf p i pod) ∨ (i : Int) < n.toInt)
  placeholder : ∀ v i, VolumeOf p i v → ((σ.sight p v).placeholder = true ↔ s.Reserved p i)

variable {pools : List BufferPool} {p q : BufferPool} {s : MemoryStore} {n : Int32} {i : Nat}
  {v : Claim} {pod : Pod} {job : Job} {role role' : Role} {labels : Labels}

/-! ## Labels -/

/-- Labels are those of one pool and one role at most. -/
theorem eq_of_plays (hnames : NamedApart pools) (hp : p ∈ pools) (hq : q ∈ pools)
    (h : p.Plays role labels) (h' : q.Plays role' labels) : q = p ∧ role' = role := by
  obtain rfl := hnames q hq p hp (h'.name_eq h)
  exact ⟨rfl, h'.role_eq h⟩

theorem PodOf.plays (h : PodOf p pod role) : p.Plays role pod.metadata.labelMap := by
  cases h with
  | worker h => exact h.plays
  | drainer h => exact h.plays
  | placeholder h => exact h.plays

/-- The jobs that bind a volume are those that were built to drain it. -/
theorem drainJobOf_of_claimOf {w : Claim} (hof : DrainJobOf p w job)
    (hclaim : job.claimOf p.bufferVolumeName = some (nameOf v)) : DrainJobOf p v job := by
  rw [hof.claimOf_eq] at hclaim
  rwa [DrainJobOf, drainerJob_congr (Option.some.inj hclaim)] at hof

section Made

variable (hnames : NamedApart pools) (hp : p ∈ pools) (hplain : PlainText p.name)
  (hmade : MadeFor pools s)

include hnames hp hplain hmade

/-! ## What is listed -/

theorem mem_volumes_iff_made : v ∈ (s.view p n).volumes ↔
    v ∈ s.volumes.values ∧ (∃ i, VolumeOf p i v) ∧ ¬ OptedOut v := by
  refine mem_selected_iff.trans ?_
  rw [← KeyMap.mem_values_iff, BufferPool.holds_drainableSelector_iff_of_plain hplain]
  refine and_congr_right fun hv => and_congr_left fun _ => ⟨fun hplays => ?_, ?_⟩
  · obtain ⟨q, hq, i, hof⟩ := hmade.volumes v hv
    obtain ⟨rfl, -⟩ := eq_of_plays hnames hp hq hplays hof.plays
    exact ⟨i, hof⟩
  · rintro ⟨i, hof⟩
    exact hof.plays

theorem mem_pods_iff_made :
    pod ∈ selected s.pods (p.selector role) ↔ pod ∈ s.pods.values ∧ PodOf p pod role := by
  rw [mem_selected_iff, ← KeyMap.mem_values_iff, BufferPool.holds_selector_iff_of_plain hplain]
  refine and_congr_right fun hpod => ⟨fun hplays => ?_, fun hof => hof.plays⟩
  obtain ⟨q, hq, role', hof⟩ := hmade.pods pod hpod
  obtain ⟨rfl, rfl⟩ := eq_of_plays hnames hp hq hplays hof.plays
  exact hof

theorem mem_workers_iff_made :
    pod ∈ (s.view p n).workers ↔ pod ∈ s.pods.values ∧ ∃ i, WorkerOf p i pod := by
  refine (mem_pods_iff_made hnames hp hplain hmade).trans (and_congr_right fun _ => ⟨?_, ?_⟩)
  · rintro (⟨hof⟩ | _ | _)
    exact ⟨_, hof⟩
  · rintro ⟨i, hof⟩
    exact .worker hof

theorem mem_placeholders_iff_made :
    pod ∈ (s.view p n).placeholders ↔ pod ∈ s.pods.values ∧ ∃ i, PlaceholderOf p i pod := by
  refine (mem_pods_iff_made hnames hp hplain hmade).trans (and_congr_right fun _ => ⟨?_, ?_⟩)
  · rintro (_ | _ | ⟨hof⟩)
    exact ⟨_, hof⟩
  · rintro ⟨i, hof⟩
    exact .placeholder hof

theorem mem_jobs_iff_made :
    job ∈ (s.view p n).jobs ↔ job ∈ s.jobs.values ∧ ∃ v, DrainJobOf p v job := by
  refine mem_selected_iff.trans ?_
  rw [← KeyMap.mem_values_iff, BufferPool.holds_selector_iff_of_plain hplain]
  refine and_congr_right fun hjob => ⟨fun hplays => ?_, ?_⟩
  · obtain ⟨q, hq, v, hof⟩ := hmade.jobs job hjob
    obtain ⟨rfl, -⟩ := eq_of_plays hnames hp hq hplays hof.plays
    exact ⟨v, hof⟩
  · rintro ⟨v, hof⟩
    exact hof.plays

/-! ## What is read off -/

theorem inUse_iff_made {name : String} : (s.view p n).inUse p name = true ↔
    (∃ pod ∈ s.pods.values, ∃ i, WorkerOf p i pod ∧ workerClaim? p i = some name) ∨
      ∃ i : Nat, (i : Int) < n.toInt ∧ name = p.claimName i := by
  refine Snapshot.inUse_iff.trans (or_congr ⟨?_, ?_⟩ ⟨?_, ?_⟩)
  · rintro ⟨pod, hpod, spec, hspec, hclaim⟩
    obtain ⟨hstored, i, hof⟩ := (mem_workers_iff_made hnames hp hplain hmade).1 hpod
    refine ⟨pod, hstored, i, hof, ?_⟩
    rw [← hof.claimOf_eq, hspec]
    exact hclaim
  · rintro ⟨pod, hstored, i, hof, hclaim⟩
    rw [← hof.claimOf_eq] at hclaim
    obtain ⟨spec, hspec, hclaim⟩ := Option.bind_eq_some_iff.1 hclaim
    have hlisted := (mem_workers_iff_made (n := n) hnames hp hplain hmade).2 ⟨hstored, i, hof⟩
    exact ⟨pod, hlisted, spec, hspec, hclaim⟩
  · rintro ⟨ordinal, h0, hlt, rfl⟩
    obtain ⟨i, rfl⟩ := Int.eq_ofNat_of_zero_le h0
    exact ⟨i, hlt, rfl⟩
  · rintro ⟨i, hlt, rfl⟩
    exact ⟨i, Int.natCast_nonneg i, hlt, rfl⟩

theorem job_of_made (hjob : (s.view p n).jobOf? p (nameOf v) = some job) :
    job ∈ s.jobs.values ∧ DrainJobOf p v job := by
  obtain ⟨before, after, hjobs, hclaim, -⟩ := Snapshot.jobOf?_eq_some_iff.1 hjob
  have hlisted : job ∈ (s.view p n).jobs := by
    rw [hjobs]
    exact List.mem_append_right _ List.mem_cons_self
  obtain ⟨hstored, w, hof⟩ := (mem_jobs_iff_made hnames hp hplain hmade).1 hlisted
  exact ⟨hstored, drainJobOf_of_claimOf hof hclaim⟩

theorem hasJob_iff_made : ((s.view p n).jobOf? p (nameOf v)).isSome = true ↔
    ∃ job ∈ s.jobs.values, DrainJobOf p v job := by
  constructor
  · intro hsome
    obtain ⟨job, hjob⟩ := Option.isSome_iff_exists.1 hsome
    exact ⟨job, job_of_made hnames hp hplain hmade hjob⟩
  · rintro ⟨job, hstored, hof⟩
    rw [Option.isSome_iff_ne_none]
    intro hnone
    have hlisted := (mem_jobs_iff_made (n := n) hnames hp hplain hmade).2 ⟨hstored, v, hof⟩
    exact Snapshot.jobOf?_eq_none_iff.1 hnone job hlisted hof.claimOf_eq

theorem held_iff_made : i ∈ (s.view p n).heldOrdinals ↔ s.Reserved p i := by
  rw [Snapshot.heldOrdinals, List.mem_filterMap]
  constructor
  · rintro ⟨pod, hpod, hordinal⟩
    obtain ⟨hlisted, halive⟩ := List.mem_filter.1 hpod
    obtain ⟨hstored, j, hof⟩ := (mem_placeholders_iff_made hnames hp hplain hmade).1 hlisted
    obtain rfl := Option.some.inj (hordinal.symm.trans hof.trailingOrdinal_eq)
    exact ⟨pod, hstored, hof, by simpa [ObjectMeta.isTerminating] using halive⟩
  · rintro ⟨pod, hstored, hof, halive⟩
    have hlisted := (mem_placeholders_iff_made (n := n) hnames hp hplain hmade).2 ⟨hstored, i, hof⟩
    exact ⟨pod, List.mem_filter.2 ⟨hlisted, by simp [ObjectMeta.isTerminating, halive]⟩,
      hof.trailingOrdinal_eq⟩

/-- A volume's sight looks for the ordinal at the end of the volume's name. -/
theorem placeholder_iff_made (hv : VolumeOf p i v) :
    ((s.view p n).sight p v).placeholder = true ↔ s.Reserved p i := by
  rw [← held_iff_made (n := n) hnames hp hplain hmade]
  change (Text.trailingOrdinal? (nameOf v)).any (fun o => (s.view p n).heldOrdinals.contains o) =
    true ↔ _
  rw [hv.name_eq, p.trailingOrdinal?_claimName]
  by_cases hi : i ≤ Text.maxOrdinal
  · simp [hi]
  · -- No placeholder can be built for an ordinal that cannot be read.
    refine iff_of_false (by simp [hi]) fun hheld => hi ?_
    obtain ⟨pod, -, hof, -⟩ := (held_iff_made hnames hp hplain hmade).1 hheld
    exact Text.le_of_trailingOrdinal? hof.trailingOrdinal_eq

theorem used_iff_made (hpvc : p.spec.disablePvc = false) (hv : VolumeOf p i v) :
    ((s.view p n).sight p v).inUse = true ↔
      (∃ pod ∈ s.pods.values, WorkerOf p i pod) ∨ (i : Int) < n.toInt := by
  have hclaim : ∀ j, workerClaim? p j = some (p.claimName i) ↔ j = i := fun j => by
    rw [workerClaim?, hpvc, if_neg Bool.false_ne_true, Option.some_inj, p.claimName_inj]
  change (s.view p n).inUse p (nameOf v) = true ↔ _
  rw [inUse_iff_made hnames hp hplain hmade, hv.name_eq]
  refine or_congr ⟨?_, ?_⟩ ⟨?_, fun hlt => ⟨i, hlt, rfl⟩⟩
  · rintro ⟨pod, hstored, j, hof, hj⟩
    exact ⟨pod, hstored, (hclaim j).1 hj ▸ hof⟩
  · rintro ⟨pod, hstored, hof⟩
    exact ⟨pod, hstored, i, hof, (hclaim i).2 rfl⟩
  · rintro ⟨j, hlt, hname⟩
    exact p.claimName_inj.1 hname ▸ hlt

theorem recognises_view : Recognises pools p s n (s.view p n) where
  listed _ := mem_volumes_iff_made hnames hp hplain hmade
  inUse _ := inUse_iff_made hnames hp hplain hmade
  hasJob _ := hasJob_iff_made hnames hp hplain hmade
  job _ _ := job_of_made hnames hp hplain hmade
  held _ := held_iff_made hnames hp hplain hmade
  apart _ _ hof _ hq _ hother := eq_of_plays hnames hp hq hof.plays hother.plays
  used hpvc _ _ := used_iff_made hnames hp hplain hmade hpvc
  placeholder _ _ := placeholder_iff_made hnames hp hplain hmade

end Made

/-! ## Snapshots that are taken -/

/-- Where no call fails, the snapshot taken is what the store is seen as. -/
theorem run_takeSnapshot_of_faultless (hfaults : s.faults = []) (hn : s.replicas = .ok n) :
    (run answer (takeSnapshot p).run s).1 = .ok (s.view p n) := by
  have hfollows := (follows_transcript_of (I := fun s => s.faults = []) (f := quiet)
    succeeds_answer (takeSnapshot p).run hfaults).1
  exact taken_of_follows (s := s.quiet) (exchanges_transcript answer (takeSnapshot p).run s)
    hfollows hn

/-- What is made for a pool is exactly what its snapshot shows, in a cluster where everything was
made for pools of different names. -/
theorem snapshot_recognises (hnames : NamedApart pools) (hp : p ∈ pools)
    (hplain : PlainText p.name) (hmade : MadeFor pools s) (hfaults : s.faults = [])
    (hn : s.replicas = .ok n) :
    ∃ σ, (run answer (takeSnapshot p).run s).1 = .ok σ ∧ Recognises pools p s n σ :=
  ⟨_, run_takeSnapshot_of_faultless hfaults hn, recognises_view hnames hp hplain hmade⟩

/-- A pool whose buffer volume has the name of a volume that its pods have anyway. -/
def outputPool : BufferPool :=
  .ofSpec "output"
    { bufferStorage := { claimName := "logs" }, logRotate := some { path := "/var/log/output" } }

/-- A cluster in which the first ordinal of this pool has its worker, the second is being drained,
and the third is opted out; another pool has a worker. -/
def twoPools (set others : StatefulSet) (job : Job) (placeholder : Pod) : MemoryStore where
  volumes := .ofList
    [(outputPool.claimName 0, bareVolume outputPool 0),
     (outputPool.claimName 1, bareVolume outputPool 1),
     (outputPool.claimName 2, withLabel (bareVolume outputPool 2) optOutLabel (some "no")),
     (logsPool.claimName 0, bareVolume logsPool 0)]
  pods := .ofList
    [(outputPool.placeholderName 0, set.member 0), (outputPool.placeholderName 1, placeholder),
     (outputPool.drainerName 1, job.member), (logsPool.placeholderName 0, others.member 0)]
  jobs := .ofList [(outputPool.drainerName 1, job)]
  replicas := .ok 1

theorem forall_values_ofList {α : Type} {P : α → Prop} {l : List (String × α)}
    (h : ∀ e ∈ l, P e.2) : ∀ a ∈ (KeyMap.ofList l).values, P a := by
  intro a ha
  obtain ⟨key, hkey⟩ := KeyMap.mem_values_iff.1 ha
  exact KeyMap.forall_get?_ofList (P := fun _ => P) h key a hkey

theorem volumeOf_bareVolume (p : BufferPool) (i : Nat) : VolumeOf p i (bareVolume p i) :=
  ⟨(nameOf_memberClaim p i).symm, fun _ _ => id⟩

theorem volumeOf_optedOut (p : BufferPool) (i : Nat) :
    VolumeOf p i (withLabel (bareVolume p i) optOutLabel (some "no")) :=
  ⟨(nameOf_memberClaim p i).symm,
    show p.Plays .worker _ from (plays_withLabel (.inr rfl)).2 BufferPool.plays_labels⟩

theorem workerOf_member {set : StatefulSet} (h : Worker.statefulSet p = .ok set) (i : Nat) :
    WorkerOf p i (set.member i) :=
  ⟨set, h, rfl, .refl _⟩

theorem madeFor_twoPools {set others : StatefulSet} {job : Job} {placeholder : Pod}
    (hset : Worker.statefulSet outputPool = .ok set)
    (hothers : Worker.statefulSet logsPool = .ok others)
    (hjob : drainerJob outputPool (bareVolume outputPool 1) = .ok job)
    (hplaceholder : placeholderPod outputPool (bareVolume outputPool 1) = .ok placeholder) :
    MadeFor [outputPool, logsPool] (twoPools set others job placeholder) := by
  have houtput : outputPool ∈ [outputPool, logsPool] := List.mem_cons_self
  have hlogs : logsPool ∈ [outputPool, logsPool] := List.mem_cons_of_mem _ List.mem_cons_self
  have hdrains : DrainJobOf outputPool (bareVolume outputPool 1) job :=
    ⟨job, hjob, .refl _, .refl _⟩
  have hholds : PlaceholderOf outputPool 1 placeholder :=
    ⟨_, placeholder, (claimOrdinal_eq_ok_iff (p := outputPool) rfl).2 ⟨rfl, by decide⟩,
      hplaceholder, rfl, .refl _⟩
  refine ⟨forall_values_ofList ?_, forall_values_ofList ?_, forall_values_ofList ?_⟩
  · simp only [List.forall_mem_cons]
    exact ⟨⟨_, houtput, 0, volumeOf_bareVolume _ 0⟩, ⟨_, houtput, 1, volumeOf_bareVolume _ 1⟩,
      ⟨_, houtput, 2, volumeOf_optedOut _ 2⟩, ⟨_, hlogs, 0, volumeOf_bareVolume _ 0⟩,
      List.forall_mem_nil _⟩
  · simp only [List.forall_mem_cons]
    exact ⟨⟨_, houtput, _, .worker (workerOf_member hset 0)⟩, ⟨_, houtput, _, .placeholder hholds⟩,
      ⟨_, houtput, _, .drainer ⟨job, hdrains, .refl _⟩⟩,
      ⟨_, hlogs, _, .worker (workerOf_member hothers 0)⟩, List.forall_mem_nil _⟩
  · simp only [List.forall_mem_cons]
    exact ⟨⟨_, houtput, _, hdrains⟩, List.forall_mem_nil _⟩

theorem snapshot_recognises_output : ∃ set others job placeholder σ,
    MadeFor [outputPool, logsPool] (twoPools set others job placeholder) ∧
      (run answer (takeSnapshot outputPool).run (twoPools set others job placeholder)).1 = .ok σ ∧
      Recognises [outputPool, logsPool] outputPool (twoPools set others job placeholder) 1 σ := by
  obtain ⟨set, hset⟩ := ok_of_isSome
    (by decide +kernel : (Worker.statefulSet outputPool).toOption.isSome = true)
  obtain ⟨others, hothers⟩ := ok_of_isSome
    (by decide +kernel : (Worker.statefulSet logsPool).toOption.isSome = true)
  obtain ⟨job, hjob⟩ := ok_of_isSome
    (by decide +kernel : (drainerJob outputPool (bareVolume outputPool 1)).toOption.isSome = true)
  obtain ⟨placeholder, hplaceholder⟩ := exists_placeholderPod (p := outputPool)
    (v := bareVolume outputPool 1) (i := 1) rfl (by decide)
  have hnames : NamedApart [outputPool, logsPool] := by
    intro p hp q hq hname
    simp only [List.mem_cons, List.not_mem_nil, or_false] at hp hq
    rcases hp with rfl | rfl <;> rcases hq with rfl | rfl
    · rfl
    · exact absurd hname (by decide)
    · exact absurd hname (by decide)
    · rfl
  have hmade := madeFor_twoPools hset hothers hjob hplaceholder
  obtain ⟨σ, hσ, hrecognises⟩ :=
    snapshot_recognises hnames List.mem_cons_self (by decide) hmade rfl rfl
  exact ⟨set, others, job, placeholder, σ, hmade, hσ, hrecognises⟩

end VolumeDrain.Drain
