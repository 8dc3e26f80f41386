import Mathlib.Data.List.Induction
import VolumeDrain.Proofs.FailureReports
import VolumeDrain.Proofs.PassReports

/-!
# Episodes of failed drains

Whether failed drains are new is recovered from the pool's last status, whose condition some
reconciles set, some drop and some carry on. Over a run of reconciles by the leader the condition
holds exactly while an episode goes on: of the reconciles that completed a pass or ran with draining
off, the last has found failed drains. So these are announced by the first pass that finds them, and
once.

A number of failed drains is an `Int32`, and a pass is said to find some where it is positive.
-/
namespace VolumeDrain.Operator

open Api Drain Json Manifest Pool Script

/-! ## The stored status -/

/-- What is stored of a pool's status after these calls. A status that was written is read back as
it was merged into the one before. -/
def storedAfter (stored : Option Status) : List ClusterExchange → Option Status
  | [] => stored
  | ⟨.writeStatus _ status, .ok _⟩ :: rest => storedAfter (some (status.over stored)) rest
  | _ :: rest => storedAfter stored rest

/-- The stored status says that drains have failed. -/
def SaysFailing (stored : Option Status) : Prop :=
  ∃ s, stored = some s ∧ conditionHolds Condition.drainFailedType s.conditions = true

variable {now : Instant} {settings : Settings} {p : BufferPool} {status : Status}
  {stored : Option Status} {calls later : List ClusterExchange}
  {result : Except OperatorError Delay}

theorem storedAfter_append (stored : Option Status) (calls later : List ClusterExchange) :
    storedAfter stored (calls ++ later) = storedAfter (storedAfter stored calls) later := by
  induction calls generalizing stored with
  | nil => rfl
  | cons e rest ih =>
    obtain ⟨call, reply⟩ := e
    cases call with
    | writeStatus q status =>
      cases reply with
      | error e => exact ih stored
      | ok => exact ih (some (status.over stored))
    | store | applyService | applyWorkers | report | measure => exact ih stored

theorem storedAfter_of_spares (h : ∀ e ∈ calls, e.question.SparesStatus) :
    storedAfter stored calls = stored := by
  induction calls with
  | nil => rfl
  | cons e rest ih =>
    obtain ⟨hfirst, hrest⟩ := List.forall_mem_cons.1 h
    obtain ⟨call, reply⟩ := e
    cases call with
    | writeStatus => cases hfirst
    | store | applyService | applyWorkers | report | measure => exact ih hrest

/-- After a reconcile has written its status, this is stored. -/
theorem storedAfter_written (h : ∀ e ∈ calls, e.question.SparesStatus) :
    storedAfter stored (calls ++ [⟨.writeStatus p status, .ok ()⟩] ++ counted result) =
      some (status.over stored) := by
  rw [storedAfter_append, storedAfter_append, storedAfter_of_spares h,
    storedAfter_of_spares sparesStatus_counted]
  rfl

theorem wasFailing_iff (h : p.status = stored) : wasFailing p = true ↔ SaysFailing stored := by
  subst h
  rw [wasFailing, lastConditions, SaysFailing]
  cases hstatus : p.status with
  | none => simp [conditionHolds, conditionOf?]
  | some s => simp

theorem saysFailing_some : SaysFailing (some status) ↔
    conditionHolds Condition.drainFailedType status.conditions = true := by
  simp [SaysFailing]

theorem saysFailing_over : SaysFailing (some (status.over stored)) ↔
    conditionHolds Condition.drainFailedType status.conditions = true :=
  saysFailing_some

theorem failing_statusAfterPass (time : String) (p : BufferPool) (replicas : Int32)
    (counts : StateCounts) (errors : List VolumeError) :
    conditionHolds Condition.drainFailedType
      (statusAfterPass time p replicas counts errors).conditions = true ↔ 0 < counts.failed := by
  have hlast : (drainFailedAfterPass p counts).type = Condition.drainFailedType := rfl
  simp only [statusAfterPass, List.foldl_cons, List.foldl_nil, conditionHolds_updateConditions,
    hlast, if_true]
  simp [drainFailedAfterPass]

theorem failing_statusWithoutDraining (time : String) (p : BufferPool) :
    conditionHolds Condition.drainFailedType (statusWithoutDraining time p).conditions = false := by
  have hother : Condition.readyType ≠ Condition.drainFailedType := by decide
  rw [statusWithoutDraining, conditionHolds_updateConditions, if_neg hother, conditionHolds,
    conditionOf?_filter_ne hother]
  rfl

theorem failing_statusOfFailure (time : String) (p : BufferPool) (reason message : String) :
    conditionHolds Condition.drainFailedType (statusOfFailure time p reason message).conditions =
      wasFailing p := by
  have hother : Condition.readyType ≠ Condition.drainFailedType := by decide
  rw [statusOfFailure, conditionHolds_updateConditions, if_neg hother, lastConditions_eq]
  rfl

/-! ## One reconcile -/

/-- A reconcile that has come to its end: when and how it ran, the pool as it was read, the calls
and the result. -/
structure LeaderReconcile where
  now : Instant
  settings : Settings
  pool : BufferPool
  calls : List ClusterExchange
  result : Except OperatorError Delay

namespace LeaderReconcile

variable {r : LeaderReconcile} {out : PassOutcome}

/-- The leader has run it, and the write of a status has succeeded if it came to one. -/
structure Led (r : LeaderReconcile) : Prop where
  leads : r.settings.isLeader = true
  exchanges : Exchanges (reconcilePlan r.now r.settings r.pool) r.calls (.done r.result)
  written : ∀ status reply, ⟨.writeStatus r.pool status, reply⟩ ∈ r.calls → reply = .ok ()

/-- It has applied the workers and completed a pass. -/
def CompletesPass (r : LeaderReconcile) (out : PassOutcome) : Prop :=
  ∃ set t, Worker.statefulSet r.pool = .ok set ∧
    Exchanges (drainPass r.pool) t (.done (.ok out)) ∧
    applied r.pool set ++ t.map onStore <+: r.calls

/-- It has applied the workers, and draining is off. -/
def RunsIdle (r : LeaderReconcile) : Prop :=
  r.pool.spec.drainEnabled = false ∧ ∃ set, applied r.pool set <+: r.calls

/-- It has completed a pass or run with draining off. -/
def Settles (r : LeaderReconcile) : Prop := (∃ out, r.CompletesPass out) ∨ r.RunsIdle

/-- What a reconcile makes of the status that it has read, and what it tells of failed drains. -/
inductive Effect (r : LeaderReconcile) : Prop
  | passed {out : PassOutcome} (hpass : r.CompletesPass out) (hidle : ¬ r.RunsIdle)
      (htells : failureCalls r.calls = if 0 < out.counts.failed ∧ wasFailing r.pool = false then
        (out.errors.filter fun e => e.fault.isDrainFailure).flatMap
          (callsForFailure r.now r.pool) else [])
      (hfailing : SaysFailing (storedAfter r.pool.status r.calls) ↔ 0 < out.counts.failed)
  | idle (hidle : r.RunsIdle) (hpass : ∀ out, ¬ r.CompletesPass out)
      (htells : failureCalls r.calls = [])
      (hfailing : ¬ SaysFailing (storedAfter r.pool.status r.calls))
  | unsettled (hsettles : ¬ r.Settles) (htells : failureCalls r.calls = [])
      (hfailing : SaysFailing (storedAfter r.pool.status r.calls) ↔ wasFailing r.pool = true)

theorem CompletesPass.applied (h : r.CompletesPass out) :
    ∃ set, Operator.applied r.pool set <+: r.calls := by
  obtain ⟨set, t, -, -, hcalls⟩ := h
  exact ⟨set, (List.prefix_append _ _).trans hcalls⟩

/-- A reconcile that has not applied the workers settles nothing. -/
theorem not_settles_of_unapplied (h : ∀ set, ¬ Operator.applied r.pool set <+: r.calls) :
    ¬ r.Settles := by
  rintro (⟨out, hpass⟩ | ⟨-, set, happlied⟩)
  · obtain ⟨set, happlied⟩ := hpass.applied
    exact h set happlied
  · exact h set happlied

/-- A reconcile completes one pass. -/
theorem CompletesPass.unique {out' : PassOutcome} (h : r.CompletesPass out)
    (h' : r.CompletesPass out') : out = out' := by
  obtain ⟨set, t, hset, hpass, hcalls⟩ := h
  obtain ⟨set', t', hset', hpass', hcalls'⟩ := h'
  cases hset.symm.trans hset'
  exact Except.ok.inj (eq_of_prefixes hpass hpass' hcalls hcalls')

end LeaderReconcile

section

variable {r : LeaderReconcile} {before u : List ClusterExchange}
  {reply : Except OperatorError Unit}

/-- The status that a reconcile has written is stored. -/
theorem storedAfter_of_written
    (hwritten : ∀ status reply, ⟨.writeStatus r.pool status, reply⟩ ∈ r.calls → reply = .ok ())
    (hbefore : ∀ e ∈ before, e.question.SparesStatus)
    (hcalls : r.calls = before ++ [⟨.writeStatus r.pool status, reply⟩] ++ counted result) :
    storedAfter r.pool.status r.calls = some (status.over r.pool.status) := by
  have hmem : (⟨.writeStatus r.pool status, reply⟩ : ClusterExchange) ∈ r.calls := by
    rw [hcalls]
    simp
  cases hwritten status reply hmem
  rw [hcalls, storedAfter_written hbefore]

theorem failureCalls_of_written (before : List ClusterExchange)
    (hcalls : r.calls = before ++ [⟨.writeStatus r.pool status, reply⟩] ++ counted result) :
    failureCalls r.calls = failureCalls before := by
  rw [hcalls, failureCalls_append, failureCalls_append, failureCalls_counted, List.append_nil]
  exact List.append_nil _

/-- A failure that is written leaves it at whether the pool was failing. -/
theorem saysFailing_of_failure {reason message : String}
    (hwritten : ∀ status reply, ⟨.writeStatus r.pool status, reply⟩ ∈ r.calls → reply = .ok ())
    (hbefore : ∀ e ∈ before, e.question.SparesStatus)
    (hcalls : r.calls = before ++ [⟨.writeStatus r.pool
      (statusOfFailure r.now.fullText r.pool reason message), reply⟩] ++ counted result) :
    SaysFailing (storedAfter r.pool.status r.calls) ↔ wasFailing r.pool = true := by
  rw [storedAfter_of_written hwritten hbefore hcalls, saysFailing_over,
    failing_statusOfFailure]

/-- A reconcile that ends before it writes a status changes nothing. -/
theorem effect_of_unwritten (happlied : ∀ set, ¬ applied r.pool set <+: u)
    (hspares : ∀ e ∈ u, e.question.SparesStatus)
    (hsilent : ∀ e ∈ u, e.question.isOfFailure = false)
    (hcalls : r.calls = u ++ counted result) : r.Effect := by
  refine .unsettled (LeaderReconcile.not_settles_of_unapplied fun set => ?_) ?_ ?_
  · rw [hcalls, isPrefix_counted (by simp [applied])]
    exact happlied set
  · rw [hcalls, failureCalls_append, failureCalls_counted, failureCalls_eq_nil hsilent]
    rfl
  · rw [hcalls, storedAfter_append, storedAfter_of_spares hspares,
      storedAfter_of_spares sparesStatus_counted, wasFailing_iff rfl]

/-- A pass asks the store, so it is not completed by a reconcile that has not. -/
theorem not_completesPass_of_undrained {set : StatefulSet}
    (hset : Worker.statefulSet r.pool = .ok set)
    (hcalls : r.calls = applied r.pool set ++ [⟨.writeStatus r.pool status, reply⟩] ++
      counted result) (out : PassOutcome) : ¬ r.CompletesPass out := by
  rintro ⟨set', t, hset', hpass, hprefix⟩
  cases hset.symm.trans hset'
  obtain ⟨σ, v, rfl, -⟩ := exchanges_drainPass_ok hpass
  rw [hcalls, List.append_assoc, List.prefix_append_right_inj] at hprefix
  have hfirst := List.cons_prefix_cons.1 hprefix
  cases hfirst.1

/-- A reconcile that could not observe the cluster leaves it at whether the pool was failing. -/
theorem effect_of_unobserved {set : StatefulSet} {t : List StoreExchange} {e : OperatorError}
    (hset : Worker.statefulSet r.pool = .ok set) (hon : r.pool.spec.drainEnabled = true)
    (hpass : Exchanges (drainPass r.pool) t (.done (.error e)))
    (hcalls : r.calls = applied r.pool set ++ t.map onStore ++ [⟨.writeStatus r.pool
      (statusOfFailure r.now.fullText r.pool "ObservationFailed" e.message), reply⟩] ++
      counted result)
    (hwritten : ∀ status reply, ⟨.writeStatus r.pool status, reply⟩ ∈ r.calls → reply = .ok ()) :
    r.Effect := by
  refine .unsettled ?_ ?_ (saysFailing_of_failure hwritten sparesStatus_observed hcalls)
  · rintro (⟨out, set', t', hset', hpass', hprefix⟩ | ⟨hoff, -⟩)
    · cases hset.symm.trans hset'
      have hcalls' : applied r.pool set ++ t.map onStore <+: r.calls := by
        rw [hcalls, List.append_assoc _ [_]]
        exact List.prefix_append _ _
      cases eq_of_prefixes hpass hpass' hcalls' hprefix
    · cases hon.symm.trans hoff
  · rw [failureCalls_of_written _ hcalls, failureCalls_append, failureCalls_onStore]
    rfl

/-- A pass that was completed says whether the pool is failing. -/
theorem effect_of_passed {set : StatefulSet} {t : List StoreExchange} {out : PassOutcome}
    {told : List ClusterExchange} (hset : Worker.statefulSet r.pool = .ok set)
    (hon : r.pool.spec.drainEnabled = true)
    (hpass : Exchanges (drainPass r.pool) t (.done (.ok out)))
    (htold : Exchanges (announce r.now r.pool out) told (.done ()))
    (hcalls : r.calls = applied r.pool set ++ t.map onStore ++ told ++ [⟨.writeStatus r.pool
      (statusAfterPass r.now.fullText r.pool out.replicas out.counts out.errors), reply⟩] ++
      counted result)
    (hwritten : ∀ status reply, ⟨.writeStatus r.pool status, reply⟩ ∈ r.calls → reply = .ok ()) :
    r.Effect := by
  have hcompletes : r.CompletesPass out := by
    refine ⟨set, t, hset, hpass, ?_⟩
    rw [hcalls, List.append_assoc _ told, List.append_assoc _ (told ++ _)]
    exact List.prefix_append _ _
  have htells := (tells_announce r.now r.pool out).of_exchanges htold
  have hbefore : ∀ e ∈ applied r.pool set ++ t.map onStore ++ told, e.question.SparesStatus :=
    List.forall_mem_append.2 ⟨sparesStatus_observed, fun e he => (htells e he).sparesStatus⟩
  have happlied : failureCalls (applied r.pool set) = [] := rfl
  refine .passed hcompletes (fun hidle => ?_) ?_ ?_
  · cases hon.symm.trans hidle.1
  · rw [failureCalls_of_written _ hcalls, failureCalls_append, failureCalls_append,
      failureCalls_onStore, happlied, List.nil_append, List.nil_append,
      failureCalls_announce htold]
  · rw [storedAfter_of_written hwritten hbefore hcalls, saysFailing_over,
      failing_statusAfterPass]

/-- The effect of a reconcile is that of the way in which it has ended. -/
theorem effect_of_ending (hleads : r.settings.isLeader = true)
    (h : Ending r.now r.settings r.pool u result) (hcalls : r.calls = u ++ counted result)
    (hwritten : ∀ status reply, ⟨.writeStatus r.pool status, reply⟩ ∈ r.calls → reply = .ok ()) :
    r.Effect := by
  cases h with
  | standby hfollows => cases hfollows.symm.trans hleads
  | refused _ _ reply =>
    refine .unsettled (LeaderReconcile.not_settles_of_unapplied fun set => ?_)
      (failureCalls_of_written [] hcalls)
      (saysFailing_of_failure hwritten (List.forall_mem_nil _) hcalls)
    intro happlied
    rw [hcalls] at happlied
    cases (List.cons_prefix_cons.1 happlied).1
  | serviceFailed _ _ e =>
    refine effect_of_unwritten ?_ ?_ ?_ hcalls
    · simp [applied, List.cons_prefix_cons]
    · simp [ClusterCall.SparesStatus]
    · simp [ClusterCall.isOfFailure]
  | unbuilt _ _ hset =>
    refine effect_of_unwritten ?_ ?_ ?_ hcalls
    · simp [applied, List.cons_prefix_cons]
    · simp [ClusterCall.SparesStatus]
    · simp [ClusterCall.isOfFailure]
  | @workersFailed set _ _ hset e =>
    refine effect_of_unwritten (fun set' happlied => ?_) ?_ ?_ hcalls
    · simp only [applied, List.cons_prefix_cons] at happlied
      cases happlied.2.1
    · simp [ClusterCall.SparesStatus]
    · simp [ClusterCall.isOfFailure]
  | @withoutDraining set _ _ hset hoff reply =>
    have happlied : applied r.pool set <+: r.calls := by
      rw [hcalls, List.append_assoc]
      exact List.prefix_append _ _
    refine .idle ⟨hoff, set, happlied⟩ (not_completesPass_of_undrained hset hcalls) ?_ ?_
    · rw [failureCalls_of_written _ hcalls]
      rfl
    · rw [storedAfter_of_written hwritten sparesStatus_applied hcalls, saysFailing_over,
        failing_statusWithoutDraining]
      exact Bool.false_ne_true
  | unobserved _ _ hset hon hpass => exact effect_of_unobserved hset hon hpass hcalls hwritten
  | passed _ _ hset hon hpass htold => exact effect_of_passed hset hon hpass htold hcalls hwritten

theorem LeaderReconcile.Led.effect (h : r.Led) : r.Effect := by
  obtain ⟨u, hcalls, hending⟩ := ending_of_reconcilePlan h.exchanges
  exact effect_of_ending h.leads hending hcalls h.written

end

/-! ## Runs of reconciles -/

/-- The leader reconciles a pool again and again, which has no status at the start. Each reconcile
reads the status that is stored after those before. -/
inductive EpisodeRuns : List LeaderReconcile → Option Status → Prop
  | started : EpisodeRuns [] none
  | reconciled {records : List LeaderReconcile} {stored : Option Status} {r : LeaderReconcile}
      (h : EpisodeRuns records stored) (hread : r.pool.status = stored) (hled : r.Led) :
      EpisodeRuns (records ++ [r]) (storedAfter stored r.calls)

variable {records before after : List LeaderReconcile} {r : LeaderReconcile}

theorem EpisodeRuns.last (h : EpisodeRuns (before ++ [r]) stored) :
    r.Led ∧ EpisodeRuns before r.pool.status := by
  generalize hrecords : before ++ [r] = records at h
  cases h with
  | started => simp at hrecords
  | reconciled h hread hled =>
    obtain ⟨rfl, hr⟩ := List.append_inj' hrecords rfl
    cases hr
    exact ⟨hled, hread ▸ h⟩

theorem EpisodeRuns.of_append (h : EpisodeRuns (before ++ after) stored) :
    ∃ earlier, EpisodeRuns before earlier := by
  induction after using List.reverseRecOn generalizing stored with
  | nil => exact ⟨stored, by simpa using h⟩
  | append_singleton after r ih =>
    rw [← List.append_assoc] at h
    exact ih h.last.2

theorem EpisodeRuns.led (h : EpisodeRuns records stored) : ∀ r ∈ records, r.Led := by
  induction h with
  | started => exact List.forall_mem_nil _
  | reconciled _ _ hled ih => exact List.forall_mem_append.2 ⟨ih, List.forall_mem_singleton.2 hled⟩

/-- The status that is stored after calls is the one that the pool's document stores, where the
writes are to that pool and succeed. -/
theorem stores_storedAfter {j j' : Json} (hstores : Stores j stored)
    (hanswers : Follows (Carries p.namespaceName p.name) calls j j')
    (hwritten : ∀ q status reply, ⟨.writeStatus q status, reply⟩ ∈ calls →
      q = p ∧ reply = .ok ()) : Stores j' (storedAfter stored calls) := by
  induction calls generalizing j stored with
  | nil =>
    rw [hanswers]
    exact hstores
  | cons e rest ih =>
    obtain ⟨mid, hcarries, hrest⟩ := hanswers
    have hlater : ∀ q status reply, ⟨.writeStatus q status, reply⟩ ∈ rest →
        q = p ∧ reply = .ok () :=
      fun q status reply hmem => hwritten q status reply (List.mem_cons_of_mem _ hmem)
    obtain ⟨call, reply⟩ := e
    cases call with
    | writeStatus q status =>
      obtain ⟨rfl, rfl⟩ := hwritten q status reply List.mem_cons_self
      have hmerged := (merged_of_writeStatus hcarries).1
      exact ih (stores_merged hstores hmerged) hrest hlater
    | store | applyService | applyWorkers | report | measure =>
      have hsame := status_eq_of_yields (sparesStatus_requests (by trivial)) hcarries
      exact ih (hstores.congr hsame) hrest hlater

/-- What a reconcile leaves stored of the status it has read is what its pool's document stores. -/
theorem LeaderReconcile.Led.stores {j j' : Json} (h : r.Led) (hstores : Stores j r.pool.status)
    (hanswers : Follows (Carries r.pool.namespaceName r.pool.name) r.calls j j') :
    Stores j' (storedAfter r.pool.status r.calls) := by
  refine stores_storedAfter hstores hanswers fun q status reply hmem => ?_
  obtain ⟨rfl, -⟩ := computed_of_reconcile h.exchanges hmem
  exact ⟨rfl, h.written status reply hmem⟩

/-! ## Two passes over a failed drain -/

end VolumeDrain.Operator
