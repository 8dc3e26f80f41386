import VolumeDrain.Proofs.Leftover

/-!
# When a pass removes a worker

Placeholders and workers of one ordinal share their name, and a pod is removed by its name alone. A
pass can therefore remove a worker that it has listed, and it does so exactly where a succeeded job
meets a worker on a volume without the mark. In a run that starts fresh this takes a finish that
was stopped after the placeholder and before the job; runs in which every finish gets that far or
does not reach the placeholder are safe.
-/
namespace VolumeDrain.Drain

open Manifest Script MemoryStore

variable {p : BufferPool} {i : Nat} {s s' s₀ : MemoryStore} {t : List StoreExchange}
  {passes : List PassRecord}

/-- The exchanges list a worker and ask for a pod of the worker's name to be absent. -/
def RemovesWorker (p : BufferPool) (t : List StoreExchange) : Prop :=
  ∃ workers worker pod r,
    ⟨.listPods p.namespaceName (p.selector .worker), .ok workers⟩ ∈ t ∧ worker ∈ workers ∧
      ⟨.settlePod pod .absent, r⟩ ∈ t ∧ nameOf pod = nameOf worker

theorem selector_inj {role role' : Role} (hp : p.WellNamed)
    (h : p.selector role = p.selector role') : role = role' := by
  have hplays : p.Plays role (p.labels role') := by
    rw [← BufferPool.holds_selector_iff hp, h, BufferPool.holds_selector_iff hp]
    exact BufferPool.plays_labels
  exact hplays.role_eq BufferPool.plays_labels

theorem workers_of_mem_reads {σ : Snapshot} {workers : List Pod} (hp : p.WellNamed)
    (h : ⟨.listPods p.namespaceName (p.selector .worker), .ok workers⟩ ∈ σ.reads p) :
    workers = σ.workers := by
  have hselector : p.selector .worker ≠ p.selector .placeholder := fun h =>
    nomatch selector_inj hp h
  simp only [Snapshot.reads, List.mem_cons, List.not_mem_nil, or_false] at h
  rcases h with h | h | h | h | h
  · cases h
  · cases h
    rfl
  · have hquestion := congrArg Exchange.question h
    simp [hselector] at hquestion
  · cases h
  · cases h

theorem Pass.worked_of_listed {workers : List Pod} {worker : Pod} (h : Tidy p s)
    (hp : p.WellNamed) (hpass : Pass p s t s')
    (hlist : ⟨.listPods p.namespaceName (p.selector .worker), .ok workers⟩ ∈ t)
    (hmem : worker ∈ workers) {pod : Pod} {r : (StoreCall.settlePod pod .absent).Reply}
    (hremove : ⟨.settlePod pod .absent, r⟩ ∈ t) :
    ∃ i, nameOf worker = p.placeholderName i ∧ (s.slot p i).Worked p i := by
  rcases hpass.cases with ⟨-, hreads⟩ | ⟨n, u, -, rfl, htreats, -⟩
  · have hread := hreads _ hremove
    simp [readPlan] at hread
  · rcases List.mem_append.1 hlist with hlist | hlist
    · rw [workers_of_mem_reads hp hlist] at hmem
      obtain ⟨⟨key, hkey⟩, hholds⟩ := mem_selected_iff.1 hmem
      have hproper := h.pods key worker hkey
      obtain ⟨i, hworks⟩ := hproper.worker ((BufferPool.holds_selector_iff hp).1 hholds)
      rw [← hproper.name_eq, hworks.name_eq] at hkey
      exact ⟨i, hworks.name_eq, worker, hkey, hworks⟩
    · obtain ⟨v, -, hjustified⟩ := htreats.justified hlist
      exact hjustified.elim

theorem endangered_of_removes (h : Tidy p s) (hp : p.WellNamed) (hpass : Pass p s t s')
    (hremoves : RemovesWorker p t) : ∃ i, Endangered p s i := by
  obtain ⟨workers, worker, pod, r, hlist, hmem, hremove, hname⟩ := hremoves
  obtain ⟨i, hordinal, hworked⟩ := hpass.worked_of_listed h hp hlist hmem hremove
  obtain ⟨n, v, hreplicas, hv, hvname, -, hjustified⟩ :=
    hpass.justified h hp hremove (hname.trans hordinal)
  have huses : (s.view p n).Uses p (nameOf v) := by
    rw [hvname]
    exact (h.uses_view_iff hp).2 (.inl hworked)
  rcases hjustified.2 with ⟨job, hisJob, hsucceeded, hnot⟩ | ⟨-, hheld, -⟩
  · rw [hvname] at hisJob
    obtain ⟨hjob, hdrains⟩ := (h.isJobOf_view_iff hp).1 hisJob
    exact ⟨i, hworked, ⟨job, hjob, hdrains, hsucceeded⟩, n, v, hreplicas, hv, hvname,
      fun hmarked => hnot ⟨hmarked, huses⟩⟩
  · -- A release goes by a placeholder, of which there is none beside the worker.
    rw [hvname] at hheld
    obtain ⟨-, held, hheld, hholds⟩ := (h.holdsOrdinalOf_view_iff hp).1 hheld
    obtain ⟨worker', hworker', hworks⟩ := hworked
    obtain rfl := Option.some.inj (hheld.symm.trans hworker')
    exact absurd hworks (not_works_of_reserves hholds.toReserves)

theorem removes_of_endangered (h : Tidy p s) (hp : p.WellNamed) (hi : Endangered p s i) :
    ∃ t s', Pass p s t s' ∧ RemovesWorker p t := by
  obtain ⟨⟨worker, hworker, hworks⟩, ⟨job, hjob, hdrains, hsucceeded⟩, n, v, hreplicas, hv, hname,
    hunmarked⟩ := hi
  obtain ⟨u, s', hpass, -, pod, r, hpod, hremove⟩ :=
    exists_finish h hp hreplicas hv hname hunmarked hjob hdrains hsucceeded
  refine ⟨_, s', hpass, (s.view p n).workers, worker, pod, r, ?_, ?_,
    List.mem_append_right _ hremove, hpod.trans hworks.name_eq.symm⟩
  · exact List.mem_append_left _ (by simp [Snapshot.reads])
  · exact mem_selected_iff.2 ⟨⟨_, hworker⟩, (BufferPool.holds_selector_iff hp).2 hworks.plays⟩

/-- A worker's job was left behind, for its placeholder is not there. -/
theorem leavesJob_of_endangered (hp : p.WellNamed) (h₀ : Fresh p s₀) (hrun : Runs p s₀ passes s)
    (hi : Endangered p s i) : ∃ r ∈ passes, r.LeavesJob p i := by
  obtain ⟨⟨worker, hworker, hworks⟩, ⟨job, hjob, hdrains, -⟩, -⟩ := hi
  rcases covered_of_runs hp h₀ hrun job hjob hdrains with ⟨pod, hpod, hholds⟩ | hleft
  · rw [hworker] at hpod
    cases hpod
    exact absurd hworks (not_works_of_reserves hholds.toReserves)
  · exact hleft

/-- After a run that starts fresh, a pass can remove a worker that it lists exactly if some ordinal
is endangered, and this only comes of a pass that left the ordinal's job behind. -/
theorem removes_worker_iff_endangered (hp : p.WellNamed) (h₀ : Fresh p s₀)
    (hrun : Runs p s₀ passes s) :
    ((∃ t s', Pass p s t s' ∧ RemovesWorker p t) ↔ ∃ i, Endangered p s i) ∧
      ∀ i, Endangered p s i → ∃ r ∈ passes, r.LeavesJob p i := by
  have htidy := hrun.tidy hp h₀.tidy
  refine ⟨⟨?_, ?_⟩, fun i hi => leavesJob_of_endangered hp h₀ hrun hi⟩
  · rintro ⟨t, s', hpass, hremoves⟩
    exact endangered_of_removes htidy hp hpass hremoves
  · rintro ⟨i, hi⟩
    exact removes_of_endangered htidy hp hi

theorem removes_worker_iff_endangered_logs :
    ∃ passes, Runs logsPool logsShrunk passes logsGrown ∧
      ((∃ t s', Pass logsPool logsGrown t s' ∧ RemovesWorker logsPool t) ↔
        ∃ i, Endangered logsPool logsGrown i) ∧
      ∀ i, Endangered logsPool logsGrown i → ∃ r ∈ passes, r.LeavesJob logsPool i := by
  obtain ⟨passes, hrun⟩ := runs_logsGrown
  exact ⟨passes, hrun, removes_worker_iff_endangered wellNamed_logsPool fresh_logsShrunk hrun⟩

/-- With the pool scaled up again after a finish that could not delete the job, the mark is taken
off first and then the new worker is removed. -/
theorem removes_worker_after_leftover :
    LogsHistory ∧ ∃ t s t' s', Pass logsPool logsGrown t s ∧ Pass logsPool s t' s' ∧
      RemovesWorker logsPool t' := by
  obtain ⟨t, s, v, hpass, -, -, hendangered⟩ := exists_reclaim_logsGrown
  obtain ⟨t', s', hpass', hremoves⟩ := removes_of_endangered
    (hpass.tidy tidy_logsGrown wellNamed_logsPool) wellNamed_logsPool hendangered
  exact ⟨logsHistory, t, s, t', s', hpass, hpass', hremoves⟩

end VolumeDrain.Drain
