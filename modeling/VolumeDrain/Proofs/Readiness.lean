import VolumeDrain.Proofs.Endings

/-!
# Whether a reconcile says that its pool is ready

A reconcile that comes to writing a status says by it whether it succeeds: the ready condition holds
in the status exactly where the workers are applied and, with draining on, a pass was completed in
which nothing failed but drain jobs. The one other way for a reconcile to end is that the workers
cannot be applied, and then it writes no status.
-/
namespace VolumeDrain.Pool

/-! ## Conditions -/

theorem conditionHolds_cons (type : String) (c : Condition) (rest : List Condition) :
    conditionHolds type (c :: rest) =
      if c.type = type then c.isTrue else conditionHolds type rest := by
  by_cases h : c.type = type <;> simp [conditionHolds, conditionOf?, h]

theorem isTrue_applyTo (u : ConditionUpdate) (now : String) (c : Condition) :
    (u.applyTo now c).isTrue = u.holds := by
  cases h : u.holds <;>
    simp [Condition.isTrue, ConditionUpdate.applyTo, Condition.statusText, h]

theorem isTrue_fresh (u : ConditionUpdate) (now : String) : (u.fresh now).isTrue = u.holds := by
  cases h : u.holds <;> simp [Condition.isTrue, ConditionUpdate.fresh, Condition.statusText, h]

/-- An update decides whether the condition of its type holds, and no other. -/
theorem conditionHolds_updateConditions (now : String) (u : ConditionUpdate) (type : String)
    (conditions : List Condition) :
    conditionHolds type (updateConditions now u conditions) =
      if u.type = type then u.holds else conditionHolds type conditions := by
  induction conditions with
  | nil =>
    rw [updateConditions, conditionHolds_cons, isTrue_fresh]
    rfl
  | cons c rest ih =>
    rw [updateConditions]
    split
    · rename_i hsame
      rw [conditionHolds_cons, conditionHolds_cons, isTrue_applyTo, ← hsame]
      split <;> simp_all [ConditionUpdate.applyTo]
    · rename_i hother
      rw [conditionHolds_cons, conditionHolds_cons, ih]
      by_cases hc : c.type = type
      · rw [if_pos hc, if_pos hc, if_neg fun hu => hother (hc.trans hu.symm)]
      · rw [if_neg hc, if_neg hc]

end VolumeDrain.Pool

namespace VolumeDrain.Operator

open Api Drain Json Manifest Pool Script

/-- The status says that the pool is ready. -/
def SaysReady (s : Status) : Prop := conditionHolds Condition.readyType s.conditions = true

theorem not_saysReady_statusOfFailure (now : String) (p : BufferPool) (reason message : String) :
    ¬ SaysReady (statusOfFailure now p reason message) := by
  rw [SaysReady, statusOfFailure]
  simp [conditionHolds_updateConditions]

theorem saysReady_statusWithoutDraining (now : String) (p : BufferPool) :
    SaysReady (statusWithoutDraining now p) := by
  rw [SaysReady, statusWithoutDraining]
  simp [conditionHolds_updateConditions]

theorem operatorErrors_eq_nil_iff (errors : List VolumeError) :
    operatorErrors errors = [] ↔ VolumeError.allDrainFailures errors = true := by
  simp [operatorErrors, VolumeError.allDrainFailures]

theorem saysReady_statusAfterPass_iff (now : String) (p : BufferPool) (replicas : Int32)
    (counts : StateCounts) (errors : List VolumeError) :
    SaysReady (statusAfterPass now p replicas counts errors) ↔
      VolumeError.allDrainFailures errors = true := by
  have hdraining : Condition.drainingType ≠ Condition.readyType := by decide
  have hfailed : Condition.drainFailedType ≠ Condition.readyType := by decide
  have htype : (readyAfterPass p errors).type = Condition.readyType := by
    rw [readyAfterPass]
    split <;> rfl
  rw [SaysReady, statusAfterPass, ← operatorErrors_eq_nil_iff]
  simp only [List.foldl_cons, List.foldl_nil, conditionHolds_updateConditions,
    drainingAfterPass, drainFailedAfterPass, hdraining, hfailed, htype, if_true, if_false]
  rw [readyAfterPass]
  cases operatorErrors errors <;> simp

/-- After a completed pass the result is that all went well exactly where no errors but failed drain
jobs were recorded. -/
theorem isOk_resultOfPass_iff (settings : Settings) (outcome : PassOutcome) :
    (∃ delay, resultOfPass settings outcome = .ok delay) ↔
      VolumeError.allDrainFailures outcome.errors = true := by
  rw [resultOfPass]
  cases hall : VolumeError.allDrainFailures outcome.errors with
  | true => simp
  | false =>
    have hsome : outcome.errors.isEmpty = false := by
      cases herrors : outcome.errors with
      | nil => simp [herrors, VolumeError.allDrainFailures] at hall
      | cons e rest => rfl
    simp [hsome]

/-! ## Which endings write a status -/

variable {now : Instant} {settings : Settings} {p : BufferPool} {u calls : List ClusterExchange}
  {result : Except OperatorError Delay}

/-- The reconcile has written a status, or tried to. -/
def Writes (p : BufferPool) (calls : List ClusterExchange) : Prop :=
  ∃ status r, ⟨.writeStatus p status, r⟩ ∈ calls

/-- The pool is valid, but its service or its workers could not be built or applied. -/
def CannotApply (p : BufferPool) (calls : List ClusterExchange) : Prop :=
  p.spec.isValid = true ∧ ((∃ e, ⟨.applyService p, .error e⟩ ∈ calls) ∨
    (∃ e, Worker.statefulSet p = .error e) ∨ ∃ set e, ⟨.applyWorkers p set, .error e⟩ ∈ calls)

/-- The pool is valid and its workers are applied; if draining is on, a pass was completed in which
nothing failed but drain jobs. -/
def Succeeds (p : BufferPool) (calls : List ClusterExchange) : Prop :=
  p.spec.isValid = true ∧ ∃ set, Worker.statefulSet p = .ok set ∧ applied p set <+: calls ∧
    (p.spec.drainEnabled = true → ∃ t outcome, Exchanges (drainPass p) t (.done (.ok outcome)) ∧
      applied p set ++ t.map onStore <+: calls ∧
      VolumeError.allDrainFailures outcome.errors = true)

theorem onStore_injective : Function.Injective onStore := by
  rintro ⟨c, r⟩ ⟨c', r'⟩ h
  cases h
  rfl

/-- Two passes that the same calls began with are the same. -/
theorem eq_of_prefixes {set : StatefulSet} {t t' : List StoreExchange}
    {r r' : Except OperatorError PassOutcome} (h : Exchanges (drainPass p) t (.done r))
    (h' : Exchanges (drainPass p) t' (.done r')) (ht : applied p set ++ t.map onStore <+: calls)
    (ht' : applied p set ++ t'.map onStore <+: calls) : r = r' := by
  refine h.unique h' ((List.prefix_or_prefix_of_prefix ht ht').imp ?_ ?_) <;>
    rw [List.prefix_append_right_inj, List.prefix_map_iff_of_injective onStore_injective] <;>
    exact id

/-- The calls after which the workers are applied are no failures to apply them. -/
theorem not_cannotApply {set : StatefulSet} {rest : List ClusterExchange}
    (hset : Worker.statefulSet p = .ok set)
    (hrest : ∀ e ∈ rest, ∀ set, e.question ≠ .applyService p ∧ e.question ≠ .applyWorkers p set) :
    ¬ CannotApply p (applied p set ++ rest) := by
  rintro ⟨-, ⟨e, he⟩ | ⟨e, he⟩ | ⟨other, e, he⟩⟩
  · simp only [applied, List.cons_append, List.nil_append, List.mem_cons] at he
    rcases he with he | he | he
    · cases he
    · cases he
    · exact absurd rfl (hrest _ he set).1
  · cases hset.symm.trans he
  · simp only [applied, List.cons_append, List.nil_append, List.mem_cons] at he
    rcases he with he | he | he
    · cases he
    · cases he
    · exact absurd rfl (hrest _ he other).2

/-- The write of a status is no failure to apply the workers. -/
theorem not_cannotApply_write {set : StatefulSet} {rest : List ClusterExchange} {status : Status}
    {r : Except OperatorError Unit} (hset : Worker.statefulSet p = .ok set)
    (hrest : ∀ e ∈ rest, ∀ set, e.question ≠ .applyService p ∧ e.question ≠ .applyWorkers p set) :
    ¬ CannotApply p (applied p set ++ rest ++ [⟨.writeStatus p status, r⟩]) := by
  rw [List.append_assoc]
  refine not_cannotApply hset fun e he => ?_
  rcases List.mem_append.1 he with he | he
  · exact hrest e he
  · cases List.mem_singleton.1 he
    exact fun _ => ⟨nofun, nofun⟩

theorem sparesStatus_applied {set : StatefulSet} :
    ∀ e ∈ applied p set, e.question.SparesStatus := by
  simp [applied, ClusterCall.SparesStatus]

theorem sparesStatus_onStore {t : List StoreExchange} :
    ∀ e ∈ t.map onStore, e.question.SparesStatus := by
  simp [onStore, ClusterCall.SparesStatus]

/-- Up to the end of its pass a reconcile has written no status. -/
theorem sparesStatus_observed {set : StatefulSet} {t : List StoreExchange} :
    ∀ e ∈ applied p set ++ t.map onStore, e.question.SparesStatus :=
  List.forall_mem_append.2 ⟨sparesStatus_applied, sparesStatus_onStore⟩

/-- A reconcile by the leader ends by writing a status, which says whether it then succeeds, or it
ends without one because it cannot apply the workers. -/
theorem Ending.written_or_unapplied (h : Ending now settings p u result)
    (hleads : settings.isLeader = true) :
    (∃ before status r after, u = before ++ [⟨.writeStatus p status, r⟩] ∧
      (∀ e ∈ before, e.question.SparesStatus) ∧ ¬ CannotApply p u ∧
      result = onceWritten r after ∧ (SaysReady status ↔ ∃ delay, after = .ok delay) ∧
      ((∃ delay, after = .ok delay) ↔ Succeeds p u)) ∨
    ((∀ e ∈ u, e.question.SparesStatus) ∧ CannotApply p u ∧ ¬ Succeeds p u ∧
      ∃ e, result = .error e) := by
  cases h with
  | standby hfollows => cases hfollows.symm.trans hleads
  | refused _ hinvalid r =>
    have hnot : ¬ p.spec.isValid = true := by simp [hinvalid]
    refine .inl ⟨[], _, r, .error (.validation (refusal p)), rfl, List.forall_mem_nil _,
      fun h => hnot h.1, rfl, ?_, ?_⟩
    · exact iff_of_false (not_saysReady_statusOfFailure _ _ _ _) (fun ⟨_, h⟩ => by cases h)
    · exact iff_of_false (fun ⟨_, h⟩ => by cases h) fun h => hnot h.1
  | serviceFailed _ hvalid e =>
    refine .inr ⟨?_, ⟨hvalid, .inl ⟨e, List.mem_singleton_self _⟩⟩, ?_, e, rfl⟩
    · simp [ClusterCall.SparesStatus]
    · rintro ⟨-, set, -, happlied, -⟩
      simpa [applied] using happlied.length_le
  | unbuilt _ hvalid hset =>
    refine .inr ⟨?_, ⟨hvalid, .inr (.inl ⟨_, hset⟩)⟩, ?_, _, rfl⟩
    · simp [ClusterCall.SparesStatus]
    · rintro ⟨-, set, hok, -⟩
      cases hset.symm.trans hok
  | @workersFailed set _ hvalid hset e =>
    refine .inr ⟨?_, ⟨hvalid, .inr (.inr ⟨set, e, by simp⟩)⟩, ?_, e, rfl⟩
    · simp [ClusterCall.SparesStatus]
    · rintro ⟨-, other, hok, happlied, -⟩
      simp only [applied, List.cons_prefix_cons] at happlied
      cases happlied.2.1
  | @withoutDraining set _ hvalid hset hoff r =>
    refine .inl ⟨applied p set, _, r, _, rfl, sparesStatus_applied, ?_, rfl, ?_, ?_⟩
    · exact not_cannotApply hset (by simp)
    · simp [saysReady_statusWithoutDraining]
    · exact iff_of_true ⟨_, rfl⟩ ⟨hvalid, set, hset, List.prefix_append _ _, by simp [hoff]⟩
  | @unobserved set t e _ hvalid hset hon hpass r =>
    refine .inl ⟨applied p set ++ t.map onStore, _, r, _, rfl, sparesStatus_observed, ?_, rfl, ?_,
      ?_⟩
    · exact not_cannotApply_write hset (by simp [onStore])
    · simp [not_saysReady_statusOfFailure]
    · refine iff_of_false nofun ?_
      rintro ⟨-, other, hother, -, hpassed⟩
      cases hset.symm.trans hother
      obtain ⟨t', outcome, hpass', ht', -⟩ := hpassed hon
      cases eq_of_prefixes hpass hpass' (List.prefix_append _ _) ht'
  | @passed set t outcome told _ hvalid hset hon hpass htold r =>
    have htells := (tells_announce now p outcome).of_exchanges htold
    have hbegun : applied p set ++ t.map onStore <+:
        applied p set ++ t.map onStore ++ told ++ [⟨.writeStatus p (statusAfterPass now.fullText p
          outcome.replicas outcome.counts outcome.errors), r⟩] := by
      rw [List.append_assoc _ told]
      exact List.prefix_append _ _
    refine .inl ⟨applied p set ++ t.map onStore ++ told, _, r, _, rfl, ?_, ?_, rfl, ?_, ?_⟩
    · exact List.forall_mem_append.2
        ⟨sparesStatus_observed, fun e he => (htells e he).sparesStatus⟩
    · rw [List.append_assoc _ _ told]
      refine not_cannotApply_write hset (List.forall_mem_append.2 ⟨by simp [onStore], ?_⟩)
      refine fun e he set => ⟨?_, ?_⟩ <;> rintro hsame <;> exact (hsame ▸ htells e he :)
    · rw [saysReady_statusAfterPass_iff, isOk_resultOfPass_iff]
    · rw [isOk_resultOfPass_iff]
      constructor
      · intro hall
        exact ⟨hvalid, set, hset, (List.prefix_append _ _).trans hbegun,
          fun _ => ⟨t, outcome, hpass, hbegun, hall⟩⟩
      · rintro ⟨-, other, hother, -, hpassed⟩
        cases hset.symm.trans hother
        obtain ⟨t', outcome', hpass', ht', hall⟩ := hpassed hon
        cases eq_of_prefixes hpass hpass' hbegun ht'
        exact hall

/-! ## With its error counted -/

/-- That the error is counted comes after all that is looked at. -/
theorem isPrefix_counted {t : List ClusterExchange}
    (ht : ∀ e ∈ t, ∀ m, e.question ≠ .measure m) :
    t <+: u ++ counted result ↔ t <+: u := by
  refine ⟨fun h => ?_, fun h => h.trans (List.prefix_append _ _)⟩
  cases result with
  | ok delay => simpa [counted] using h
  | error e =>
    rcases List.prefix_concat_iff.1 h with rfl | h
    · exact absurd rfl (ht _ (List.mem_append_right _ (List.mem_singleton_self _)) _)
    · exact h

theorem succeeds_counted : Succeeds p (u ++ counted result) ↔ Succeeds p u := by
  have happlied : ∀ set, ∀ e ∈ applied p set, ∀ m, e.question ≠ .measure m := by simp [applied]
  have hpassed : ∀ set (t : List StoreExchange), ∀ e ∈ applied p set ++ t.map onStore,
      ∀ m, e.question ≠ .measure m := fun set t =>
    List.forall_mem_append.2 ⟨happlied set, by simp [onStore]⟩
  simp only [Succeeds, isPrefix_counted (happlied _), isPrefix_counted (hpassed _ _)]

theorem mem_counted {e : ClusterExchange} (he : ∀ m, e.question ≠ .measure m) :
    e ∈ u ++ counted result ↔ e ∈ u := by
  refine ⟨fun h => (List.mem_append.1 h).resolve_right fun h => ?_, List.mem_append_left _⟩
  cases result with
  | ok delay => cases h
  | error failure =>
    cases List.mem_singleton.1 h
    exact he _ rfl

theorem cannotApply_counted : CannotApply p (u ++ counted result) ↔ CannotApply p u := by
  have hservice : ∀ e, (⟨.applyService p, .error e⟩ : ClusterExchange) ∈ u ++ counted result ↔
      ⟨.applyService p, .error e⟩ ∈ u := fun _ => mem_counted nofun
  have hworkers : ∀ set e, (⟨.applyWorkers p set, .error e⟩ : ClusterExchange) ∈
      u ++ counted result ↔ ⟨.applyWorkers p set, .error e⟩ ∈ u := fun _ _ => mem_counted nofun
  simp only [CannotApply, hservice, hworkers]

theorem sparesStatus_counted : ∀ e ∈ counted result, e.question.SparesStatus := by
  cases result <;> simp [counted, ClusterCall.SparesStatus]

end VolumeDrain.Operator
