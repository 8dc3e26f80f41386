import VolumeDrain.Drain.MemoryStore
import VolumeDrain.Proofs.Plan

/-!
# Why a pass makes a call

The conditions of a pass are said here of the lists that its reads returned: which worker pods,
jobs and placeholders were listed, and which labels a volume carries. Each action follows from its
condition and from no other, and so every call that a pass makes for a volume is justified by what
was listed, whatever the calls before it were answered.
-/
namespace VolumeDrain.Drain

open Manifest Script

/-! ## What was listed -/

/-- The volume carries the label of a drained volume. -/
def LabelledDrained (volume : Claim) : Prop :=
  volume.metadata.labelMap.get? statusLabel = some drainedText

/-- The job has completed with at least one success. -/
def HasSucceeded (job : Job) : Prop :=
  ∃ status time successes, job.status = some status ∧ status.completionTime = some time ∧
    status.succeeded = some successes ∧ 0 < successes

namespace Snapshot

/-- A listed worker pod binds the volume of this name to its buffer volume, or the name belongs to
an ordinal below the replica count. -/
def Uses (s : Snapshot) (p : BufferPool) (volume : String) : Prop :=
  (∃ pod ∈ s.workers, ∃ spec, pod.spec = some spec ∧
    spec.claimOf p.bufferVolumeName = some volume) ∨
  ∃ ordinal : Int, 0 ≤ ordinal ∧ ordinal < s.replicas.toInt ∧ volume = p.claimName ordinal

/-- The job is the last listed one that binds the volume of this name to its buffer volume. -/
def IsJobOf (s : Snapshot) (p : BufferPool) (volume : String) (job : Job) : Prop :=
  ∃ before after, s.jobs = before ++ job :: after ∧
    job.claimOf p.bufferVolumeName = some volume ∧
    ∀ later ∈ after, later.claimOf p.bufferVolumeName ≠ some volume

/-- No listed job binds the volume of this name to its buffer volume. -/
def HasNoJob (s : Snapshot) (p : BufferPool) (volume : String) : Prop :=
  ∀ job ∈ s.jobs, job.claimOf p.bufferVolumeName ≠ some volume

/-- A placeholder that is not being deleted is listed for the ordinal of this name. -/
def HoldsOrdinalOf (s : Snapshot) (volume : String) : Prop :=
  ∃ ordinal, Text.trailingOrdinal? volume = some ordinal ∧
    ∃ pod ∈ s.placeholders, pod.metadata.deletionTimestamp = none ∧
      Text.trailingOrdinal? (nameOf pod) = some ordinal

variable {s : Snapshot} {p : BufferPool} {volume : String}

theorem inUse_iff : s.inUse p volume = true ↔ s.Uses p volume := by
  have hworker : (s.claimsInUse p).contains volume = true ↔
      ∃ pod ∈ s.workers, ∃ spec, pod.spec = some spec ∧
        spec.claimOf p.bufferVolumeName = some volume := by
    simp [claimsInUse, List.mem_filterMap, Option.bind_eq_some_iff]
  have hreserved : (s.reservedClaims p).contains volume = true ↔
      ∃ ordinal : Int, 0 ≤ ordinal ∧ ordinal < s.replicas.toInt ∧
        volume = p.claimName ordinal := by
    simp only [reservedClaims, List.contains_eq_mem, decide_eq_true_eq, List.mem_map,
      List.mem_range]
    constructor
    · rintro ⟨n, hn, rfl⟩
      exact ⟨n, by omega, by omega, rfl⟩
    · rintro ⟨i, h0, hi, rfl⟩
      exact ⟨i.toNat, by omega, by rw [Int.toNat_of_nonneg h0]⟩
  rw [inUse, Bool.or_eq_true, hworker, hreserved, Uses]

theorem jobOf?_eq_none_iff : s.jobOf? p volume = none ↔ s.HasNoJob p volume := by
  simp [jobOf?, HasNoJob]

theorem jobOf?_eq_some_iff {job : Job} :
    s.jobOf? p volume = some job ↔ s.IsJobOf p volume job := by
  rw [jobOf?, List.find?_eq_some_iff_append, IsJobOf]
  constructor
  · rintro ⟨hjob, after, before, hjobs, hafter⟩
    refine ⟨before.reverse, after.reverse, ?_, by simpa using hjob, ?_⟩
    · rw [← List.reverse_reverse s.jobs, hjobs]
      simp
    · intro later hlater
      simpa using hafter later (List.mem_reverse.1 hlater)
  · rintro ⟨before, after, hjobs, hjob, hafter⟩
    refine ⟨by simpa using hjob, after.reverse, before.reverse, by simp [hjobs], ?_⟩
    intro later hlater
    simpa using hafter later (List.mem_reverse.1 hlater)

theorem holdsOrdinalOf_iff :
    (Text.trailingOrdinal? volume).any (fun o => s.heldOrdinals.contains o) = true ↔
      s.HoldsOrdinalOf volume := by
  simp only [Option.any_eq_true, HoldsOrdinalOf, heldOrdinals, List.contains_eq_mem,
    decide_eq_true_eq, List.mem_filterMap, List.mem_filter, ObjectMeta.isTerminating,
    Bool.not_eq_true', Option.isSome_eq_false_iff, Option.isNone_iff_eq_none, and_assoc]

end Snapshot

theorem ofLabels_eq_drained_iff {volume : Claim} :
    DrainMark.ofLabels volume.metadata.labelMap = .drained ↔ LabelledDrained volume := by
  rw [DrainMark.ofLabels, LabelledDrained]
  split <;> simp_all

theorem progress_eq_succeeded_iff {job : Job} :
    JobProgress.of job = .succeeded ↔ HasSucceeded job := by
  have hother : ∀ failures : Int32,
      (if 0 < failures then JobProgress.failed failures else .running) ≠ .succeeded := by
    intro failures
    split <;> simp
  rw [JobProgress.of, JobProgress.ofStatus, HasSucceeded]
  cases hs : job.status with
  | none => simp
  | some status =>
    cases hc : status.completionTime with
    | none => simp [hc, hother]
    | some time =>
      cases hn : status.succeeded with
      | none => simp [hc, hn, hother]
      | some successes =>
        by_cases h : 0 < successes
        · simp [hc, hn, h]
        · simp [hc, hn, h, hother]

/-! ## What follows -/

/-- The condition of each action, of what is seen of a volume. -/
def Warrants (sight : Sight) : DrainAction → Prop
  | .none =>
    (sight.job = none ∧ sight.placeholder = false ∧ (sight.inUse = true ↔ sight.mark = .unmarked)) ∨
      (sight.job = some .running ∧ sight.inUse = false)
  | .reclaim => sight.inUse = true ∧ sight.mark = .drained
  | .start => sight.job = none ∧ sight.inUse = false ∧ sight.mark = .unmarked
  | .cancel =>
    sight.inUse = true ∧ sight.mark = .unmarked ∧
      ∃ progress, sight.job = some progress ∧ progress ≠ .succeeded
  | .finish => sight.job = some .succeeded ∧ ¬ (sight.inUse = true ∧ sight.mark = .drained)
  | .release =>
    sight.job = none ∧ sight.placeholder = true ∧ (sight.inUse = true ↔ sight.mark = .unmarked)
  | .reportFailure attempts => sight.job = some (.failed attempts) ∧ sight.inUse = false

/-- An action is taken exactly on its condition. -/
theorem nextAction_eq_iff {sight : Sight} {action : DrainAction} :
    (VolumeState.of sight).nextAction sight = action ↔ Warrants sight action := by
  obtain ⟨mark, inUse, job, placeholder⟩ := sight
  rcases job with _ | _ | _ | attempts <;> cases mark <;> cases inUse <;> cases placeholder <;>
    cases action <;> simp [VolumeState.of, VolumeState.nextAction, Warrants]

/-- The job is the volume's and has succeeded, and the volume is not one that is drained and in use,
which is reclaimed first. -/
def Snapshot.IsFinishedBy (s : Snapshot) (p : BufferPool) (v : Claim) (job : Job) : Prop :=
  s.IsJobOf p (nameOf v) job ∧ HasSucceeded job ∧ ¬ (LabelledDrained v ∧ s.Uses p (nameOf v))

/-- The condition of a call for a volume, said of what was listed. The reads are no calls for a
volume, and a job is never asked to be absent. -/
def Justified (p : BufferPool) (s : Snapshot) (v : Claim) : StoreCall → Prop
  | .mark volume .drained => volume = v ∧ ∃ job, s.IsFinishedBy p v job
  | .mark volume .unmarked => volume = v ∧ LabelledDrained v ∧ s.Uses p (nameOf v)
  | .deleteJob job .background => s.IsFinishedBy p v job
  | .deleteJob job .foreground =>
    s.IsJobOf p (nameOf v) job ∧ ¬ HasSucceeded job ∧ job.metadata.deletionTimestamp = none ∧
      s.Uses p (nameOf v) ∧ ¬ LabelledDrained v
  | .settleJob job .present =>
    drainerJob p v = .ok job ∧ ¬ LabelledDrained v ∧ ¬ s.Uses p (nameOf v) ∧ s.HasNoJob p (nameOf v)
  | .settlePod pod .present =>
    placeholderPod p v = .ok pod ∧ ¬ LabelledDrained v ∧ ¬ s.Uses p (nameOf v) ∧
      s.HasNoJob p (nameOf v)
  | .settlePod pod .absent =>
    placeholderPod p v = .ok pod ∧
      ((∃ job, s.IsFinishedBy p v job) ∨
        (s.HasNoJob p (nameOf v) ∧ s.HoldsOrdinalOf (nameOf v) ∧
          (s.Uses p (nameOf v) ↔ ¬ LabelledDrained v)))
  | _ => False

section

variable {p : BufferPool} {s : Snapshot} {v : Claim}

theorem sight_unmarked_iff : (s.sight p v).mark = .unmarked ↔ ¬ LabelledDrained v := by
  rw [← ofLabels_eq_drained_iff]
  cases h : DrainMark.ofLabels v.metadata.labelMap <;> simp [Snapshot.sight, h]

theorem sight_job_eq_succeeded (h : (s.sight p v).job = some .succeeded) :
    ∃ job, s.jobOf? p (nameOf v) = some job ∧ s.IsJobOf p (nameOf v) job ∧ HasSucceeded job := by
  obtain ⟨job, hjob, hsucc⟩ := Option.map_eq_some_iff.1 h
  exact ⟨job, hjob, Snapshot.jobOf?_eq_some_iff.1 hjob, progress_eq_succeeded_iff.1 hsucc⟩

theorem justified_of_mem_planFor {c : StoreCall} (h : c ∈ planFor p s v) : Justified p s v c := by
  have hw : Warrants (s.sight p v) (actionFor p s v) := nextAction_eq_iff.1 rfl
  rw [planFor] at h
  cases ha : actionFor p s v with
  | none => simp [ha, plan] at h
  | reportFailure attempts => simp [ha, plan] at h
  | reclaim =>
    rw [ha] at hw h
    obtain ⟨huse, hmark⟩ := hw
    obtain rfl : c = .mark v .unmarked := by simpa [plan] using h
    exact ⟨rfl, ofLabels_eq_drained_iff.1 hmark, Snapshot.inUse_iff.1 huse⟩
  | finish =>
    rw [ha] at hw h
    obtain ⟨job, hjob, hof, hsucc⟩ := sight_job_eq_succeeded hw.1
    have hfinished : s.IsFinishedBy p v job := ⟨hof, hsucc, fun hboth =>
      hw.2 ⟨Snapshot.inUse_iff.2 hboth.2, ofLabels_eq_drained_iff.2 hboth.1⟩⟩
    rw [hjob, plan] at h
    rcases List.mem_cons.1 h with rfl | h
    · exact ⟨rfl, job, hfinished⟩
    · cases hp : placeholderPod p v with
      | error e => simp [hp] at h
      | ok placeholder =>
        simp only [hp, List.mem_cons, List.not_mem_nil, or_false] at h
        rcases h with rfl | rfl
        · exact ⟨hp, .inl ⟨job, hfinished⟩⟩
        · exact hfinished
  | cancel =>
    rw [ha] at hw h
    obtain ⟨huse, hmark, progress, hprog, hne⟩ := hw
    obtain ⟨job, hjob, rfl⟩ := Option.map_eq_some_iff.1 hprog
    rw [hjob, plan] at h
    by_cases hd : job.metadata.isTerminating
    · simp [hd] at h
    · obtain rfl : c = .deleteJob job .foreground := by simpa [hd] using h
      refine ⟨Snapshot.jobOf?_eq_some_iff.1 hjob, fun hs => hne (progress_eq_succeeded_iff.2 hs),
        by simpa [ObjectMeta.isTerminating] using hd, Snapshot.inUse_iff.1 huse,
        sight_unmarked_iff.1 hmark⟩
  | release =>
    rw [ha] at hw h
    obtain ⟨hjob, hheld, hiff⟩ := hw
    cases hp : placeholderPod p v with
    | error e => simp [plan, hp] at h
    | ok placeholder =>
      obtain rfl : c = .settlePod placeholder .absent := by simpa [plan, hp] using h
      refine ⟨hp, .inr ⟨Snapshot.jobOf?_eq_none_iff.1 (Option.map_eq_none_iff.1 hjob),
        Snapshot.holdsOrdinalOf_iff.1 hheld, ?_⟩⟩
      rw [← Snapshot.inUse_iff, ← sight_unmarked_iff (s := s) (p := p)]
      exact hiff
  | start =>
    rw [ha] at hw h
    obtain ⟨hjob, huse, hmark⟩ := hw
    have hnone := Snapshot.jobOf?_eq_none_iff.1 (Option.map_eq_none_iff.1 hjob)
    have hunused : ¬ s.Uses p (nameOf v) := fun hu => by
      rw [← Snapshot.inUse_iff] at hu
      exact absurd (huse.symm.trans hu) (by decide)
    have hunmarked := sight_unmarked_iff.1 hmark
    cases hp : placeholderPod p v with
    | error e => simp [plan, hp] at h
    | ok placeholder =>
      cases hj : drainerJob p v with
      | error e => simp [plan, hp, hj] at h
      | ok job =>
        simp only [plan, hp, hj, List.mem_cons, List.not_mem_nil, or_false] at h
        rcases h with rfl | rfl
        · exact ⟨hp, hunmarked, hunused, hnone⟩
        · exact ⟨hj, hunmarked, hunused, hnone⟩

end

theorem reads_append_inj {p : BufferPool} {s s' : Snapshot} {t u : List StoreExchange}
    (h : s.reads p ++ t = s'.reads p ++ u) : s = s' ∧ t = u := by
  obtain ⟨volumes, workers, placeholders, replicas, jobs⟩ := s
  obtain ⟨volumes', workers', placeholders', replicas', jobs'⟩ := s'
  simp only [Snapshot.reads, List.cons_append, List.nil_append, List.cons.injEq] at h
  obtain ⟨hvolumes, hworkers, hplaceholders, hreplicas, hjobs, htu⟩ := h
  cases hvolumes
  cases hworkers
  cases hplaceholders
  cases hreplicas
  cases hjobs
  exact ⟨rfl, htu⟩

/-- Whatever a pass is answered after its reads, its calls fall into parts, one for each listed
volume that it reached, and every call made for a volume is justified by what was listed. -/
theorem drainPass_calls_justified {p : BufferPool} {s : Snapshot} {t : List StoreExchange}
    {rest : StoreScript (Except OperatorError PassOutcome)}
    (h : Exchanges (drainPass p) (s.reads p ++ t) rest) :
    ∃ parts : List (Claim × List StoreExchange), parts.map Prod.fst <+: s.volumes ∧
      t = parts.flatMap Prod.snd ∧
      ∀ part ∈ parts, ∀ e ∈ part.2, Justified p s part.1 e.question := by
  rcases exchanges_drainPass h with ⟨left, hleft⟩ | ⟨s', u, rest', ht, hu, -⟩
  · have hlen := hleft.length_le
    obtain rfl : t = [] := by
      rw [← List.length_eq_zero_iff]
      simp only [List.length_append, Snapshot.reads, readPlan, List.length_cons,
        List.length_nil] at hlen
      omega
    exact ⟨[], List.nil_prefix, rfl, by simp⟩
  · obtain ⟨rfl, rfl⟩ := reads_append_inj ht
    obtain ⟨parts, hpre, ht, hparts⟩ := (treats_handleVolumes hu).parts
    refine ⟨parts, hpre, ht, fun part hpart e he => ?_⟩
    obtain ⟨left, hleft⟩ := hparts part hpart
    exact justified_of_mem_planFor (hleft.mem_plan he)

/-- What a pass sees of a store that wants a number of workers. -/
def MemoryStore.view (s : MemoryStore) (p : BufferPool) (replicas : Int32) : Snapshot where
  volumes := selected s.volumes p.drainableSelector
  workers := selected s.pods (p.selector .worker)
  placeholders := selected s.pods (p.selector .placeholder)
  replicas
  jobs := selected s.jobs (p.selector .drainer)

/-- The volume of an ordinal, with no more than makes it one. -/
def bareVolume (p : BufferPool) (ordinal : Nat) : Claim where
  metadata := { name := some (p.claimName ordinal), labels := some (p.labels .worker) }

/-- The pool `logs` under the default specification. -/
def logsPool : BufferPool := .ofSpec "logs" {}

/-- The pool scaled down to no workers, with one volume left. -/
def logsScaledDown : MemoryStore where
  volumes := .ofList [(logsPool.claimName 0, bareVolume logsPool 0)]

/-- What a pass over that store sees. -/
def logsScaledDownView : Snapshot := logsScaledDown.view logsPool 0

/-- The calls of a pass over that store after its reads. -/
def logsScaledDownCalls : List StoreExchange :=
  transcript MemoryStore.carryOut
    (handleVolumes logsPool logsScaledDownView logsScaledDownView.volumes) logsScaledDown

theorem drainPass_calls_justified_logs :
    logsScaledDownCalls.map (fun e => e.question.text?) =
        [some "pod logs-buffer-0 Present", some "job logs-buffer-0-drainer Present"] ∧
      ∃ parts : List (Claim × List StoreExchange),
        parts.map Prod.fst <+: logsScaledDownView.volumes ∧
          logsScaledDownCalls = parts.flatMap Prod.snd ∧
          ∀ part ∈ parts, ∀ e ∈ part.2,
            Justified logsPool logsScaledDownView part.1 e.question :=
  ⟨by decide +kernel,
    drainPass_calls_justified (exchanges_drainPass_of (exchanges_transcript _ _ _))⟩

end VolumeDrain.Drain
