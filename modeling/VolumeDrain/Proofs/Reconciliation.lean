import VolumeDrain.Proofs.Completion
import VolumeDrain.Proofs.ReconcilePlan

/-!
# What a reconcile does to the cluster

Of the calls of a reconcile only those of its pass and the one for the workers bear on drains. A
pool whose specification is not valid, or whose workers cannot be built, is left alone; otherwise
the replica count is applied, and while draining is on a pass is made.
-/
namespace VolumeDrain.Operator

open Api Drain Manifest Pool Script

variable {α β : Type}

/-! ## Effects of calls -/

/-- What a call does to the cluster if it succeeds. A set that names no number of workers has as
many as others give it. -/
inductive Serves : (c : ClusterCall) → MemoryStore → c.Reply → MemoryStore → Prop
  | store {c : StoreCall} {s s' : MemoryStore} {r : c.Reply} (h : MemoryStore.Succeeds c s r s') :
      Serves (.store c) s r s'
  | service (p : BufferPool) (s : MemoryStore) : Serves (.applyService p) s (.ok ()) s
  | workers (p : BufferPool) {set : StatefulSet} {n : Int32} (s : MemoryStore)
      (h : ∀ m, set.spec.bind StatefulSetSpec.replicas = some m → n = if m < 0 then 0 else m) :
      Serves (.applyWorkers p set) s (.ok ()) { s with replicas := .ok n }
  | status (p : BufferPool) (status : Status) (s : MemoryStore) :
      Serves (.writeStatus p status) s (.ok ()) s
  | report (p : BufferPool) (event : Event) (r : Except ClientError Event) (s : MemoryStore) :
      Serves (.report p event) s r s
  | measure (m : Measurement) (s : MemoryStore) : Serves (.measure m) s () s

/-- A reconcile by the leader, in which no call fails, can take the cluster from one state to the
other. -/
def Reconciles (p : BufferPool) (s s' : MemoryStore) : Prop :=
  ∃ (now : Instant) (settings : Settings) (result : Except OperatorError Delay),
    settings.isLeader = true ∧ Yields Serves (reconcilePlan now settings p) s result s'

/-- The script does nothing to the cluster. -/
def Idle {α : Type} (script : ClusterScript α) : Prop :=
  ∀ s a s', Yields Serves script s a s' → s' = s

section

variable {script : ClusterScript α} {s s' s'' : MemoryStore} {p : BufferPool}

theorem idle_done (a : α) : Idle (done a : ClusterScript α) := fun _ _ _ h =>
  h.of_done.2

theorem Idle.bind {k : α → ClusterScript β} (h : Idle script) (hk : ∀ a, Idle (k a)) :
    Idle (script >>= k) := by
  intro s b s'' hyields
  obtain ⟨a, s', h₁, h₂⟩ := hyields.of_bind
  rw [hk a _ _ _ h₂, h _ _ _ h₁]

theorem idle_pure (a : α) : Idle (pure a : PlanScript α).run :=
  idle_done (Except.ok a : Except OperatorError α)

theorem idle_throw (e : OperatorError) : Idle (throw e : PlanScript α).run :=
  idle_done (Except.error e : Except OperatorError α)

/-- Steps that may fail do nothing if none of them does anything. -/
theorem Idle.bind_run {step : PlanScript α} {k : α → PlanScript β} (h : Idle step.run)
    (hk : ∀ a, Idle (k a).run) : Idle (step >>= k).run := by
  intro s b s'' hyields
  rcases hyields.of_run_bind with ⟨a, s', h₁, h₂⟩ | ⟨e, h₁, -⟩
  · rw [hk a _ _ _ h₂, h _ _ _ h₁]
  · exact h _ _ _ h₁

theorem idle_measure (m : Measurement) : Idle (ClusterScript.measure m) := by
  intro s a s' h
  cases h.of_question
  rfl

theorem idle_report (p : BufferPool) (event : Event) : Idle (ClusterScript.report p event) := by
  intro s a s' h
  cases h.of_question
  rfl

theorem idle_writeStatus (p : BufferPool) (status : Status) :
    Idle (ClusterScript.writeStatus p status) := by
  intro s a s' h
  cases h.of_question
  rfl

theorem idle_planFailures (now : Instant) (p : BufferPool) (errors : List VolumeError) :
    Idle (planFailures now p errors) := by
  induction errors with
  | nil => exact idle_done ()
  | cons e rest ih =>
    have hreport : Idle (discard (ClusterScript.report p (failureEvent now p e))) :=
      .bind (idle_report p _) fun _ => idle_done ()
    exact .bind (idle_measure _) fun _ => .bind hreport fun _ => ih

theorem idle_planTallies (measurements : List Measurement) : Idle (planTallies measurements) := by
  induction measurements with
  | nil => exact idle_done ()
  | cons m rest ih => exact .bind (idle_measure m) fun _ => ih

theorem idle_lift (h : Idle script) : Idle (liftM script : PlanScript α).run :=
  .bind h idle_pure

theorem idle_planConclusion (now : Instant) (settings : Settings) (p : BufferPool)
    (outcome : PassOutcome) : Idle (planConclusion now settings p outcome).run := by
  unfold planConclusion
  dsimp only
  have hlast : ∀ status, Idle (do
      ExceptT.mk (ClusterScript.writeStatus p status)
      if !outcome.errors.isEmpty && !VolumeError.allDrainFailures outcome.errors then
        throw (.drain outcome.errors)
      return outcome.requeueAfter.getD settings.requeue : PlanScript Delay).run := by
    intro status
    refine .bind_run (idle_writeStatus p status) fun _ => ?_
    split
    · exact idle_throw _
    · exact idle_pure _
  refine .bind_run (idle_lift (idle_measure _)) fun _ => ?_
  split
  · exact .bind_run (idle_lift (idle_planFailures _ _ _)) fun _ => hlast _
  · exact hlast _

end

/-! ## Effects of a reconcile -/

/-- A reconcile applies the pool's workers: the specification is valid and they can be built. -/
structure Applies (p : BufferPool) : Prop where
  valid : p.spec.isValid = true
  builds : ∃ set, Worker.statefulSet p = .ok set

/-- What a reconcile makes of the cluster. The replica count it applies is the pool's own, unless
the pool is autoscaled. -/
inductive Reconciled (p : BufferPool) (s : MemoryStore) : MemoryStore → Prop
  | refused (h : ¬ Applies p) : Reconciled p s s
  | applied {n : Int32} (h : Applies p) (hoff : p.spec.drainEnabled = false)
      (hn : p.spec.autoscaled = false → n = p.spec.replicas) :
      Reconciled p s { s with replicas := .ok n }
  | passed {n : Int32} {t : List StoreExchange} {out : PassOutcome} {s' : MemoryStore}
      (h : Applies p) (hon : p.spec.drainEnabled = true)
      (hn : p.spec.autoscaled = false → n = p.spec.replicas)
      (hc : Completes p { s with replicas := .ok n } t out s') : Reconciled p s s'

section

variable {p : BufferPool} {s s' : MemoryStore} {n : Int32}

theorem replicas_statefulSet {set : StatefulSet} (h : Worker.statefulSet p = .ok set) :
    set.spec.bind StatefulSetSpec.replicas =
      if p.spec.autoscaled then none else some p.spec.replicas := by
  rw [Worker.statefulSet] at h
  cases hpod : Worker.workerPod p with
  | error e =>
    rw [hpod] at h
    cases h
  | ok pod =>
    rw [hpod] at h
    cases h
    rfl

theorem replicas_nonneg (h : p.spec.isValid = true) : ¬ p.spec.replicas < 0 := by
  intro hneg
  rw [Spec.isValid, List.isEmpty_iff, Spec.errors] at h
  simp [Spec.errorIf, hneg] at h

/-- The calls of a pass, made by a reconcile, are those of the pass. -/
theorem yields_of_expand_onStore {α : Type} {script : StoreScript α} {a : α}
    (h : Yields Serves (script.expand ClusterScript.onStore) s a s') :
    Yields MemoryStore.Succeeds script s a s' := by
  induction script generalizing s with
  | done b =>
    obtain ⟨rfl, rfl⟩ := h.of_done
    exact ⟨[], .stop _, rfl⟩
  | ask c resume ih =>
    have hsteps : Yields Serves (ClusterScript.onStore c >>= fun r =>
        (resume r).expand ClusterScript.onStore) s a s' := h
    obtain ⟨r, mid, hcall, hrest⟩ := hsteps.of_bind
    cases hcall.of_question with
    | store hsucceeds =>
      obtain ⟨t, ht, hf⟩ := ih r hrest
      exact ⟨⟨c, r⟩ :: t, .ask ht, mid, hsucceeds, hf⟩

theorem completes_of_planPass {r : Except OperatorError PassOutcome}
    (h : Yields Serves (planPass p) s r s') (hn : s.replicas = .ok n) :
    ∃ t out, r = .ok out ∧ Completes p s t out s' := by
  obtain ⟨taken, mid, hpass, hrest⟩ := h.of_bind
  obtain ⟨t, ht, hf⟩ := yields_of_expand_onStore hpass
  obtain ⟨out, rfl⟩ := ok_of_exchanges ht hf hn
  obtain ⟨_, last, htallies, hlast⟩ := Yields.of_bind hrest
  obtain ⟨rfl, rfl⟩ := hlast.of_done
  obtain rfl := idle_planTallies _ _ _ _ htallies
  exact ⟨t, out, rfl, ht, hf⟩

theorem effect_of_planWorkers {r : Except OperatorError Unit}
    (h : Yields Serves (planWorkers p).run s r s') (hvalid : p.spec.isValid = true) :
    (¬ Applies p ∧ s' = s ∧ ∃ e, r = .error e) ∨
      (Applies p ∧ r = .ok () ∧ ∃ n : Int32, s' = { s with replicas := .ok n } ∧
        (p.spec.autoscaled = false → n = p.spec.replicas)) := by
  rw [planWorkers] at h
  cases hset : Worker.statefulSet p with
  | error e =>
    rw [hset] at h
    obtain ⟨rfl, rfl⟩ := h.of_done
    refine .inl ⟨?_, rfl, _, rfl⟩
    rintro ⟨-, set, hbuilds⟩
    rw [hset] at hbuilds
    cases hbuilds
  | ok set =>
    rw [hset] at h
    cases h.of_question with
    | @workers _ _ n _ hn =>
      refine .inr ⟨⟨hvalid, set, hset⟩, rfl, n, rfl, fun hown => ?_⟩
      rw [hn p.spec.replicas (by rw [replicas_statefulSet hset, hown]; rfl),
        if_neg (replicas_nonneg hvalid)]

/-- What a reconcile of a valid pool does after it has applied the service, if nothing else that
it does bears on drains. -/
theorem reconciled_of_valid {off : PlanScript Delay} {r : Except OperatorError Delay}
    {conclude : Except OperatorError PassOutcome → PlanScript Delay}
    (hvalid : p.spec.isValid = true) (hoff : Idle off.run)
    (hconclude : ∀ r, Idle (conclude r).run)
    (h : Yields Serves (do
      planWorkers p
      if !p.spec.drainEnabled then off
      else do
        conclude (← (liftM (planPass p) : PlanScript (Except OperatorError PassOutcome))) :
      PlanScript Delay).run s r s') : Reconciled p s s' := by
  rcases h.of_run_bind with ⟨_, applied, hworkers, hrest⟩ | ⟨e, hworkers, -⟩
  · rcases effect_of_planWorkers hworkers hvalid with ⟨-, -, e, he⟩ | ⟨happlies, -, n, rfl, hn⟩
    · cases he
    · cases henabled : p.spec.drainEnabled with
      | false =>
        simp only [henabled, Bool.not_false, if_true] at hrest
        obtain rfl := hoff _ _ _ hrest
        exact .applied happlies henabled hn
      | true =>
        simp only [henabled, Bool.not_true, Bool.false_eq_true, if_false] at hrest
        obtain ⟨_, mid, hpass, hlast⟩ := Yields.of_bind hrest
        obtain ⟨taken, mid', hpass, hdone⟩ := Yields.of_bind hpass
        obtain ⟨rfl, rfl⟩ := hdone.of_done
        obtain ⟨t, out, rfl, hc⟩ := completes_of_planPass hpass rfl
        obtain rfl := hconclude _ _ _ _ hlast
        exact .passed happlies henabled hn hc
  · rcases effect_of_planWorkers hworkers hvalid with ⟨hnot, rfl, -⟩ | ⟨-, he, -⟩
    · exact .refused hnot
    · cases he

/-- A reconcile applies nothing, or it applies the replica count alone, or it also makes a whole
pass. -/
theorem Reconciles.effect (h : Reconciles p s s') : Reconciled p s s' := by
  obtain ⟨now, settings, result, hleader, h⟩ := h
  obtain ⟨r, mid, hpool, hrest⟩ := h.of_bind
  have hlast : s' = mid := by
    cases r with
    | error e => exact Idle.bind (idle_measure _) (fun _ => idle_done _) _ _ _ hrest
    | ok delay => exact hrest.of_done.2
  rw [hlast]
  simp only [planPool, hleader, Bool.not_true, Bool.false_eq_true, if_false] at hpool
  cases hvalid : p.spec.isValid with
  | false =>
    simp only [hvalid, Bool.not_false, if_true] at hpool
    rw [Idle.bind_run (idle_writeStatus p _) (fun _ => idle_throw _) _ _ _ hpool]
    exact .refused fun happlies => Bool.false_ne_true (hvalid.symm.trans happlies.valid)
  | true =>
    simp only [hvalid, Bool.not_true, Bool.false_eq_true, if_false] at hpool
    rcases hpool.of_run_bind with ⟨_, applied, hservice, hpool⟩ | ⟨e, hservice, -⟩
    · cases hservice.of_question
      refine reconciled_of_valid hvalid (.bind_run (idle_writeStatus p _) fun _ => idle_pure _)
        (fun r => ?_) hpool
      cases r with
      | error e => exact .bind_run (idle_writeStatus p _) fun _ => idle_throw e
      | ok outcome => exact idle_planConclusion now settings p outcome
    · cases hservice.of_question

/-- A cluster that carries out every call. A set that names no number of workers keeps its own. -/
def serve : (c : ClusterCall) → MemoryStore → c.Reply × MemoryStore
  | .store c, s => MemoryStore.carryOut c s
  | .applyService _, s => (.ok (), s)
  | .applyWorkers _ set, s =>
    let n := (set.spec.bind StatefulSetSpec.replicas).getD (s.replicas.toOption.getD 1)
    (.ok (), { s with replicas := .ok (if n < 0 then 0 else n) })
  | .writeStatus _ _, s => (.ok (), s)
  | .report _ event, s => (.ok event, s)
  | .measure _, s => ((), s)

theorem serves_serve (c : ClusterCall) (s : MemoryStore) :
    Serves c s (serve c s).1 (serve c s).2 := by
  cases c with
  | store c => exact .store (.carried c s)
  | applyService p => exact .service p s
  | applyWorkers p set => exact .workers p s fun m hm => by rw [hm]; rfl
  | writeStatus p status => exact .status p status s
  | report p event => exact .report p event _ s
  | measure m => exact .measure m s

/-- That cluster after a reconcile by the leader. -/
def reconciled (p : BufferPool) (s : MemoryStore) : MemoryStore :=
  (run serve (reconcilePlan ⟨0⟩ { isLeader := true, requeue := .seconds 60 } p) s).2

/-- Every cluster can be reconciled. -/
theorem reconciles_reconciled (p : BufferPool) (s : MemoryStore) :
    Reconciles p s (reconciled p s) :=
  ⟨⟨0⟩, _, _, rfl, yields_run serves_serve _ s⟩

end

end VolumeDrain.Operator
