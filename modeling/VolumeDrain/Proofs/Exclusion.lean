import VolumeDrain.Proofs.Run

/-!
# Workers and drain jobs exclude each other

While a drain job that has not succeeded exists, a placeholder that is not being deleted has the
name of the ordinal's worker, so no worker of the ordinal can exist beside the job. This holds
after every step of every run that starts fresh, wherever passes fail or are cut off.
-/
namespace VolumeDrain.Drain

open Manifest Script MemoryStore

variable {p : BufferPool} {i : Nat} {σ σ' : Slot}

/-- An unfinished drain job has a placeholder beside it. -/
def Guarded (p : BufferPool) (i : Nat) (σ : Slot) : Prop :=
  ∀ job, σ.job = some job → Drains p i job → ¬ HasSucceeded job → σ.Held p i

theorem Guarded.shift (h : Guarded p i σ) (hshift : Shift p i σ σ') : Guarded p i σ' := by
  intro job hjob hdrains hunfinished
  obtain ⟨old, hold, hdrainsOld, hsucceeded, hheld⟩ := hshift.of_job hjob hdrains
  exact hheld (h old hold hdrainsOld fun hs => hunfinished (hsucceeded hs))

theorem Guarded.turn {u : List StoreExchange} (h : Guarded p i σ) (hturn : Turn p i σ u σ') :
    Guarded p i σ' := by
  intro job hjob hdrains hunfinished
  rcases hturn.of_job hjob hdrains with ⟨-, hheld, -⟩ | ⟨old, hold, hdrainsOld, hiff, hpod⟩
  · exact hheld
  · have hunfinishedOld : ¬ HasSucceeded old := fun hs => hunfinished (hiff.2 hs)
    rcases hpod with hpod | ⟨hsucceeded, -⟩
    · exact held_of_pod_eq (h old hold hdrainsOld hunfinishedOld) hpod
    · exact absurd hsucceeded hunfinishedOld

theorem guarded_of_runs {s₀ s : MemoryStore} {passes : List PassRecord} (hp : p.WellNamed)
    (h₀ : Fresh p s₀) (h : Runs p s₀ passes s) : Guarded p i (s.slot p i) := by
  induction h with
  | start => exact fun job hjob hdrains => absurd hdrains (h₀.slot_jobless job hjob)
  | change _ hc ih => exact ih.shift (hc.shift i)
  | pass hrun hpass ih =>
    obtain ⟨u, -, -, hturn⟩ := hpass.turn (hrun.tidy hp h₀.tidy) hp i
    exact ih.turn hturn

/-- While a drain job of a volume has not succeeded, a placeholder holds the volume's ordinal, and
no worker has the ordinal's name or binds the volume. -/
theorem worker_drainer_exclusion {s₀ s : MemoryStore} {passes : List PassRecord} {key : String}
    {job : Job} (hp : p.WellNamed) (h₀ : Fresh p s₀) (hrun : Runs p s₀ passes s)
    (hjob : s.jobs.get? key = some job) (hrole : p.Plays .drainer job.metadata.labelMap)
    (hbinds : job.claimOf p.bufferVolumeName = some (p.claimName i))
    (hunfinished : ¬ HasSucceeded job) :
    (∃ pod, s.pods.get? (p.placeholderName i) = some pod ∧
        p.Plays .placeholder pod.metadata.labelMap ∧ pod.metadata.deletionTimestamp = none) ∧
      ∀ key pod, s.pods.get? key = some pod → p.Plays .worker pod.metadata.labelMap →
        nameOf pod ≠ p.placeholderName i ∧
          ∀ spec, pod.spec = some spec →
            spec.claimOf p.bufferVolumeName ≠ some (p.claimName i) := by
  have htidy := hrun.tidy hp h₀.tidy
  have hproper := htidy.jobs key job hjob
  obtain ⟨j, hdrains⟩ := hproper.drainer hrole
  obtain rfl : i = j := p.claimName_inj.1 (Option.some.inj (hbinds.symm.trans hdrains.binds))
  rw [← hproper.name_eq, hdrains.name_eq] at hjob
  obtain ⟨held, hheld, hholds⟩ := guarded_of_runs hp h₀ hrun job hjob hdrains hunfinished
  refine ⟨⟨held, hheld, hholds.plays, hholds.alive⟩, fun key pod hpod hworker => ?_⟩
  have hpodProper := htidy.pods key pod hpod
  obtain ⟨j, hworks⟩ := hpodProper.worker hworker
  have hne : i ≠ j := by
    rintro rfl
    rw [← hpodProper.name_eq, hworks.name_eq] at hpod
    obtain rfl := Option.some.inj (hpod.symm.trans hheld)
    exact not_works_of_reserves hholds.toReserves hworks
  refine ⟨fun hname => ?_, fun spec hspec hclaim => ?_⟩
  · rw [hworks.name_eq] at hname
    exact hne (p.placeholderName_inj.1 hname).symm
  · obtain ⟨spec', hspec', hclaim'⟩ := hworks.binds
    rw [hspec] at hspec'
    cases hspec'
    exact hne (p.claimName_inj.1 (Option.some.inj (hclaim.symm.trans hclaim')))

theorem wellNamed_logsPool : logsPool.WellNamed := by decide

theorem fresh_logsScaledDown : Fresh logsPool logsScaledDown := by
  change Fresh logsPool
    { volumes := .ofList [(logsPool.claimName 0, bareVolume logsPool 0)], pods := .ofList [] }
  refine fresh_ofList (fun e he => ?_) fun e he => absurd he List.not_mem_nil
  obtain rfl := List.mem_singleton.1 he
  exact ⟨rfl, 0, rfl⟩

/-- The pool scaled down, while its volume is drained. -/
def logsDraining : MemoryStore := (run answer (drainPass logsPool) logsScaledDown).2.quiet

theorem logsDraining_job :
    (logsDraining.jobs.get? (logsPool.drainerName 0)).any (fun job =>
      (Selector.read (logsPool.selector .drainer)).holds job.metadata.labelMap &&
        job.claimOf logsPool.bufferVolumeName == some (logsPool.claimName 0) &&
          job.status.isNone) = true := by
  decide +kernel

theorem worker_drainer_exclusion_logs :
    ∃ job, logsDraining.jobs.get? (logsPool.drainerName 0) = some job ∧ ¬ HasSucceeded job ∧
      (∃ pod, logsDraining.pods.get? (logsPool.placeholderName 0) = some pod ∧
        logsPool.Plays .placeholder pod.metadata.labelMap ∧
          pod.metadata.deletionTimestamp = none) ∧
      ∀ key pod, logsDraining.pods.get? key = some pod →
        logsPool.Plays .worker pod.metadata.labelMap →
          nameOf pod ≠ logsPool.placeholderName 0 ∧
            ∀ spec, pod.spec = some spec →
              spec.claimOf logsPool.bufferVolumeName ≠ some (logsPool.claimName 0) := by
  obtain ⟨job, hjob, hfacts⟩ := Option.any_eq_true _ _ |>.1 logsDraining_job
  simp only [Bool.and_eq_true, beq_iff_eq, Option.isNone_iff_eq_none] at hfacts
  obtain ⟨⟨hholds, hbinds⟩, hstatus⟩ := hfacts
  have hunfinished : ¬ HasSucceeded job := by
    rintro ⟨status, -, -, hsome, -⟩
    rw [hstatus] at hsome
    cases hsome
  have hrun : Runs logsPool logsScaledDown [⟨_, _, logsDraining⟩] logsDraining :=
    Runs.start.pass (pass_of_answer logsPool logsScaledDown)
  exact ⟨job, hjob, hunfinished, worker_drainer_exclusion wellNamed_logsPool fresh_logsScaledDown
    hrun hjob ((BufferPool.holds_selector_iff wellNamed_logsPool).1 hholds) hbinds hunfinished⟩

end VolumeDrain.Drain
