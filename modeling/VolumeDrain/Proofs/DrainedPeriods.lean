import VolumeDrain.Proofs.Leftover

/-!
# What vouches for a drained volume

A volume is marked on the strength of the job that is seen beside it. Once its mark was taken off,
a worker may have written to it again, and only a job made since then can tell that it is empty. A
mark after a reclaim is vouched for by a new job exactly if the old job was gone when the volume was
reclaimed: then every later mark follows a pass that made a job, and otherwise the next pass can
mark the volume at once.
-/
namespace VolumeDrain.Drain

open Manifest Script MemoryStore

variable {p : BufferPool} {i : Nat} {s s' s₀ : MemoryStore} {t : List StoreExchange}
  {passes later : List PassRecord} {n : Int32} {v : Claim}

/-- The mark of the ordinal's volume was taken off. -/
def Reclaims (p : BufferPool) (i : Nat) (t : List StoreExchange) : Prop :=
  ∃ v, nameOf v = p.claimName i ∧ ⟨.mark v .unmarked, .ok ()⟩ ∈ t

/-- The ordinal's volume was asked to be marked as drained. -/
def MarksDrained (p : BufferPool) (i : Nat) (t : List StoreExchange) : Prop :=
  ∃ v r, nameOf v = p.claimName i ∧ ⟨.mark v .drained, r⟩ ∈ t

/-- The pass asked for the ordinal's job to be present, and there was none before it and one
after. -/
def PassRecord.CreatesJob (p : BufferPool) (i : Nat) (r : PassRecord) : Prop :=
  (∃ job reply, nameOf job = p.drainerName i ∧ ⟨.settleJob job .present, reply⟩ ∈ r.trace) ∧
    (r.before.slot p i).job = none ∧ ∃ job, (r.after.slot p i).job = some job ∧ Drains p i job

theorem not_jobless_iff {σ : Slot} :
    ¬ σ.Jobless p i ↔ ∃ job, σ.job = some job ∧ Drains p i job := by
  simp [Slot.Jobless]

theorem jobless_of_shift {σ σ' : Slot} (h : σ.Jobless p i) (hshift : Shift p i σ σ') :
    σ'.Jobless p i := by
  intro job hjob hdrains
  obtain ⟨old, hold, hdrainsOld, -⟩ := hshift.of_job hjob hdrains
  exact h old hold hdrainsOld

/-- Only a pass that creates a job makes one appear. -/
theorem jobless_or_creates {r : PassRecord} {u : List StoreExchange}
    (h : (r.before.slot p i).Jobless p i) (hu : ∀ e ∈ u, e ∈ r.trace)
    (hturn : Turn p i (r.before.slot p i) u (r.after.slot p i)) :
    (r.after.slot p i).Jobless p i ∨ r.CreatesJob p i := by
  refine Classical.or_iff_not_imp_left.2 fun hjob => ?_
  obtain ⟨job, hjob, hdrains⟩ := not_jobless_iff.1 hjob
  rcases hturn.of_job hjob hdrains with
    ⟨hnone, -, new, reply, hname, hmem⟩ | ⟨old, hold, hdrainsOld, -⟩
  · exact ⟨⟨new, reply, hname, hu _ hmem⟩, hnone, job, hjob, hdrains⟩
  · exact absurd hdrainsOld (h old hold)

theorem jobless_or_created_of_runs (hp : p.WellNamed) (htidy : Tidy p s)
    (h : (s.slot p i).Jobless p i) (hrun : Runs p s later s') :
    (s'.slot p i).Jobless p i ∨ ∃ r ∈ later, r.CreatesJob p i := by
  induction hrun with
  | start => exact .inl h
  | change _ hc ih => exact ih.imp_left fun hjobless => jobless_of_shift hjobless (hc.shift i)
  | @pass later s₁ s₂ t hrun hpass ih =>
    rcases ih with hjobless | ⟨r, hr, hcreates⟩
    · obtain ⟨u, hsub, -, hturn⟩ := hpass.turn (hrun.tidy hp htidy) hp i
      have hstep := jobless_or_creates (r := ⟨s₁, t, s₂⟩) hjobless hsub hturn
      exact hstep.imp_right fun hcreates =>
        ⟨_, List.mem_append_right _ (List.mem_singleton_self _), hcreates⟩
    · exact .inr ⟨r, List.mem_append_left _ hr, hcreates⟩

theorem not_jobless_of_marks (h : Tidy p s) (hp : p.WellNamed) (hpass : Pass p s t s')
    (hmarks : MarksDrained p i t) : ¬ (s.slot p i).Jobless p i := by
  obtain ⟨w, r, hname, hmem⟩ := hmarks
  obtain ⟨n, v, -, -, hv, -, hjustified⟩ := hpass.justified h hp hmem hname
  obtain ⟨-, job, hisJob, -⟩ := hjustified
  rw [hv] at hisJob
  obtain ⟨hjob, hdrains⟩ := (h.isJobOf_view_iff hp).1 hisJob
  exact fun hjobless => hjobless job hjob hdrains

theorem Pass.jobless_of_settles {job : Job} {r : (StoreCall.settleJob job .present).Reply}
    (h : Tidy p s) (hp : p.WellNamed) (hpass : Pass p s t s')
    (hname : nameOf job = p.drainerName i) (hmem : ⟨.settleJob job .present, r⟩ ∈ t) :
    (s.slot p i).Jobless p i := by
  obtain ⟨n, v, -, -, hv, -, hjustified⟩ := hpass.justified h hp hmem hname
  obtain ⟨-, -, -, hnone⟩ := hjustified
  rw [hv] at hnone
  exact (h.hasNoJob_view_iff hp).1 hnone

theorem Pass.not_settles_of_reclaims {job : Job} {r : (StoreCall.settleJob job .present).Reply}
    (h : Tidy p s) (hp : p.WellNamed) (hpass : Pass p s t s') (hreclaims : Reclaims p i t)
    (hname : nameOf job = p.drainerName i) : ⟨.settleJob job .present, r⟩ ∉ t := by
  obtain ⟨v, hv, hmem⟩ := hreclaims
  obtain ⟨-, -, honly⟩ := hpass.slot_of_reclaim h hp hv hmem
  exact fun hsettle => nomatch honly _ hsettle hname

theorem marks_of_endangered (h : Tidy p s) (hp : p.WellNamed) (hi : Endangered p s i) :
    ∃ t s', Pass p s t s' ∧ MarksDrained p i t := by
  obtain ⟨-, ⟨job, hjob, hdrains, hsucceeded⟩, n, v, hreplicas, hv, hname, hunmarked⟩ := hi
  obtain ⟨u, s', hpass, ⟨r, hmark⟩, -⟩ :=
    exists_finish h hp hreplicas hv hname hunmarked hjob hdrains hsucceeded
  exact ⟨_, s', hpass, v, r, hname, List.mem_append_right _ hmark⟩

/-- A reclaimed volume whose job is still there can be marked by the very next pass: the job only
has to have succeeded by then. -/
theorem exists_mark_of_job (h : Tidy p s) (hp : p.WellNamed) (hpass : Pass p s t s')
    (hreclaims : Reclaims p i t) (hjob : ¬ (s.slot p i).Jobless p i) :
    ∃ s₁ t₁ s₂, Runs p s' [] s₁ ∧ Pass p s₁ t₁ s₂ ∧ MarksDrained p i t₁ := by
  obtain ⟨w, hw, hmem⟩ := hreclaims
  obtain ⟨n, v, hreplicas, hv, hname, -, hjustified⟩ := hpass.justified h hp hmem hw
  obtain rfl : w = v := hjustified.1
  obtain ⟨-, hslot, -⟩ := hpass.slot_of_reclaim h hp hname hmem
  obtain ⟨job, hjob, hdrains⟩ := not_jobless_iff.1 hjob
  have hafter : s'.jobs.get? (p.drainerName i) = some job := by
    rw [← slot_job, hslot]
    exact hjob
  have hset : s'.setJobStatus (p.drainerName i) succeededStatus =
      some { s' with
        jobs := s'.jobs.insert (p.drainerName i) { job with status := some succeededStatus } } := by
    rw [setJobStatus, hafter, Option.map_some]
  have hchange : Change p s' _ := .reportJob hset fun job _ _ => hasSucceeded_succeededStatus job
  obtain ⟨hlisted, hunmarked⟩ := listed_withoutMark n hp hv hslot
  have htidy := hchange.tidy (hpass.tidy h hp)
  obtain ⟨u, s₂, hpass', ⟨r, hmark⟩, -⟩ := exists_finish htidy hp
    (hpass.replicas_eq.trans hreplicas) hlisted hname hunmarked
    ((KeyMap.get?_insert _ _ _ _).trans (if_pos rfl)) hdrains.withStatus
    (hasSucceeded_succeededStatus job)
  exact ⟨_, _, s₂, Runs.start.change hchange, hpass', _, r, hname, List.mem_append_right _ hmark⟩

/-- After a pass that reclaimed a volume, every pass that marks the volume follows one that created
a job for it, exactly if there was no job when the volume was reclaimed. -/
theorem marks_follow_creation_iff (hp : p.WellNamed) (h₀ : Fresh p s₀) (hrun : Runs p s₀ passes s)
    (hpass : Pass p s t s') (hreclaims : Reclaims p i t) :
    (∀ later s₁ t₁ s₂, Runs p s' later s₁ → Pass p s₁ t₁ s₂ → MarksDrained p i t₁ →
        ∃ r ∈ later, r.CreatesJob p i) ↔ (s.slot p i).Jobless p i := by
  have htidy := hrun.tidy hp h₀.tidy
  constructor
  · intro hall
    refine Classical.byContradiction fun hjob => ?_
    obtain ⟨s₁, t₁, s₂, hrun', hpass', hmarks⟩ := exists_mark_of_job htidy hp hpass hreclaims hjob
    obtain ⟨r, hr, -⟩ := hall [] s₁ t₁ s₂ hrun' hpass' hmarks
    exact absurd hr List.not_mem_nil
  · intro hjobless later s₁ t₁ s₂ hrun' hpass' hmarks
    obtain ⟨v, hname, hmem⟩ := hreclaims
    obtain ⟨-, hslot, -⟩ := hpass.slot_of_reclaim htidy hp hname hmem
    have hafter : (s'.slot p i).Jobless p i := by
      rw [hslot]
      exact hjobless
    have htidy' := hpass.tidy htidy hp
    rcases jobless_or_created_of_runs hp htidy' hafter hrun' with hnone | hcreated
    · exact absurd hnone (not_jobless_of_marks (hrun'.tidy hp htidy') hp hpass' hmarks)
    · exact hcreated

theorem marks_follow_creation_iff_logs :
    ∃ passes t s', Runs logsPool logsShrunk passes logsGrown ∧ Pass logsPool logsGrown t s' ∧
      Reclaims logsPool 1 t ∧
      ((∀ later s₁ t₁ s₂, Runs logsPool s' later s₁ → Pass logsPool s₁ t₁ s₂ →
        MarksDrained logsPool 1 t₁ → ∃ r ∈ later, r.CreatesJob logsPool 1) ↔
          (logsGrown.slot logsPool 1).Jobless logsPool 1) := by
  obtain ⟨passes, hrun⟩ := runs_logsGrown
  obtain ⟨t, s', v, hpass, hname, hmem, -⟩ := exists_reclaim_logsGrown
  exact ⟨passes, t, s', hrun, hpass, ⟨v, hname, hmem⟩,
    marks_follow_creation_iff wellNamed_logsPool fresh_logsShrunk hrun hpass ⟨v, hname, hmem⟩⟩

/-- With the pool scaled up again after a finish that could not delete the job, the volume is
reclaimed and marked once more by the pass after that, and neither asks for a job. -/
theorem marks_again_after_leftover :
    LogsHistory ∧ ∃ t s t' s', Pass logsPool logsGrown t s ∧ Reclaims logsPool 1 t ∧
      Pass logsPool s t' s' ∧ MarksDrained logsPool 1 t' ∧
      ∀ job r, nameOf job = logsPool.drainerName 1 →
        ⟨.settleJob job .present, r⟩ ∉ t ++ t' := by
  obtain ⟨t, s, v, hpass, hname, hmem, hendangered⟩ := exists_reclaim_logsGrown
  have htidy := hpass.tidy tidy_logsGrown wellNamed_logsPool
  obtain ⟨t', s', hpass', hmarks⟩ := marks_of_endangered htidy wellNamed_logsPool hendangered
  refine ⟨logsHistory, t, s, t', s', hpass, ⟨v, hname, hmem⟩, hpass', hmarks, ?_⟩
  intro job r hjob hcreate
  rcases List.mem_append.1 hcreate with hcreate | hcreate
  · exact absurd hcreate (hpass.not_settles_of_reclaims tidy_logsGrown wellNamed_logsPool
      ⟨v, hname, hmem⟩ hjob)
  · exact absurd (hpass'.jobless_of_settles htidy wellNamed_logsPool hjob hcreate)
      (not_jobless_of_marks htidy wellNamed_logsPool hpass' hmarks)

end VolumeDrain.Drain
