import VolumeDrain.Operator.Reconcile
import VolumeDrain.Proofs.Exchange

/-!
# The calls of a reconcile

A reconcile applies the pool's service and its workers, runs a pass and writes the pool's status.
Its plan says this in calls, each of which stands for the requests that carry it out: carried out by
these requests, the plan is the reconcile.
-/
namespace VolumeDrain.Operator

open Api Drain Manifest Pool Script

/-- A call that a reconcile makes. -/
inductive ClusterCall where
  | store (call : StoreCall)
  | applyService (p : BufferPool)
  | applyWorkers (p : BufferPool) (set : StatefulSet)
  | writeStatus (p : BufferPool) (status : Status)
  | report (p : BufferPool) (event : Event)
  | measure (measurement : Measurement)

/-- The reply to a call of a reconcile. -/
def ClusterCall.Reply : ClusterCall → Type
  | store call => call.Reply
  | applyService _ => Except OperatorError Unit
  | applyWorkers _ _ => Except OperatorError Unit
  | writeStatus _ _ => Except OperatorError Unit
  | report _ _ => Except ClientError Event
  | measure _ => Unit

/-- The requests that carry out a call. -/
def ClusterCall.requests : (call : ClusterCall) → ApiScript call.Reply
  | store call => Api.carryOut call
  | applyService p => (Operator.applyService p).run
  | applyWorkers p set =>
    (discard (viaClient (applyObject p.namespaceName p.statefulSetName set)) :
      OperatorScript Unit).run
  | writeStatus p status => (Operator.writeStatus p status).run
  | report p event => (createObject p.namespaceName event).run
  | measure m => tally m

/-- A program that makes calls of a reconcile. -/
abbrev ClusterScript := Script ClusterCall.Reply

/-- Steps of a reconcile, which may fail. -/
abbrev PlanScript := ExceptT OperatorError ClusterScript

namespace ClusterScript

/-- Makes a call to the store. -/
def onStore (call : StoreCall) : ClusterScript call.Reply := question (ClusterCall.store call)

/-- Makes the service of the workers what it is to be. -/
def applyService (p : BufferPool) : ClusterScript (Except OperatorError Unit) :=
  question (ClusterCall.applyService p)

/-- Makes the stateful set of the workers what it is to be. -/
def applyWorkers (p : BufferPool) (set : StatefulSet) :
    ClusterScript (Except OperatorError Unit) :=
  question (ClusterCall.applyWorkers p set)

/-- Writes the status of a pool. -/
def writeStatus (p : BufferPool) (status : Status) : ClusterScript (Except OperatorError Unit) :=
  question (ClusterCall.writeStatus p status)

/-- Reports an event. -/
def report (p : BufferPool) (event : Event) : ClusterScript (Except ClientError Event) :=
  question (ClusterCall.report p event)

/-- Counts something. -/
def measure (m : Measurement) : ClusterScript Unit := question (ClusterCall.measure m)

end ClusterScript

/-! ## Plans -/

/-- Applies the workers of a pool. -/
def planWorkers (p : BufferPool) : PlanScript Unit :=
  match Worker.statefulSet p with
  | .error e => throw (.configuration e.message)
  | .ok set => ExceptT.mk (ClusterScript.applyWorkers p set)

/-- Counts and reports each failed drain. -/
def planFailures (now : Instant) (p : BufferPool) : List VolumeError → ClusterScript Unit
  | [] => return ()
  | e :: rest => do
    ClusterScript.measure (.drainFailure p.namespaceName p.name)
    discard (ClusterScript.report p (failureEvent now p e))
    planFailures now p rest

/-- Counts one thing after another. -/
def planTallies : List Measurement → ClusterScript Unit
  | [] => return ()
  | m :: rest => do
    ClusterScript.measure m
    planTallies rest

/-- Runs a pass and counts its actions. -/
def planPass (p : BufferPool) : ClusterScript (Except OperatorError PassOutcome) := do
  match ← (drainPass p).expand ClusterScript.onStore with
  | .error e => return .error e
  | .ok outcome =>
    planTallies (outcome.measurements p)
    return .ok outcome

/-- What follows a completed pass. -/
def planConclusion (now : Instant) (settings : Settings) (p : BufferPool) (outcome : PassOutcome) :
    PlanScript Delay := do
  let counts := outcome.counts
  let errors := outcome.errors
  ClusterScript.measure (.volumes p.namespaceName p.name counts)
  if 0 < counts.failed && !wasFailing p then
    planFailures now p (errors.filter fun e => e.fault.isDrainFailure)
  ExceptT.mk (ClusterScript.writeStatus p
    (statusAfterPass now.fullText p outcome.replicas counts errors))
  if !errors.isEmpty && !VolumeError.allDrainFailures errors then throw (.drain errors)
  return outcome.requeueAfter.getD settings.requeue

/-- Brings a pool up to date. -/
def planPool (now : Instant) (settings : Settings) (p : BufferPool) : PlanScript Delay := do
  if !settings.isLeader then return settings.requeue
  if !p.spec.isValid then
    let message := "; ".intercalate (p.spec.errors.map SpecError.text)
    ExceptT.mk (ClusterScript.writeStatus p
      (statusOfFailure now.fullText p "InvalidSpec" message))
    throw (.validation message)
  ExceptT.mk (ClusterScript.applyService p)
  planWorkers p
  if !p.spec.drainEnabled then
    ExceptT.mk (ClusterScript.writeStatus p (statusWithoutDraining now.fullText p))
    return settings.requeue
  match ← (liftM (planPass p) : PlanScript (Except OperatorError PassOutcome)) with
  | .error e =>
    ExceptT.mk (ClusterScript.writeStatus p
      (statusOfFailure now.fullText p "ObservationFailed" e.message))
    throw e
  | .ok outcome => planConclusion now settings p outcome

/-- One reconcile of a pool, in calls. -/
def reconcilePlan (now : Instant) (settings : Settings) (p : BufferPool) :
    ClusterScript (Except OperatorError Delay) := do
  let result ← (planPool now settings p).run
  if let .error e := result then
    ClusterScript.measure (.reconcileError controllerName e.metricLabel)
  return result

/-! ## Plans carried out by requests -/

section

variable {ε α β : Type}

theorem expand_bind {Q Q' : Type} {R : Q → Type} {R' : Q' → Type}
    (f : (q : Q) → Script R' (R q)) (x : Script R α) (k : α → Script R β) :
    (x >>= k).expand f = x.expand f >>= fun a => (k a).expand f := by
  induction x with
  | done a => rfl
  | ask q resume ih =>
    simp only [ask_bind, expand, ih]
    exact (Script.bind_assoc _ _ _).symm

theorem expand_question {Q Q' : Type} {R : Q → Type} {R' : Q' → Type}
    (f : (q : Q) → Script R' (R q)) (q : Q) : (question q).expand f = f q :=
  Script.bind_done (f q)

theorem expand_expand {Q Q' Q'' : Type} {R : Q → Type} {R' : Q' → Type} {R'' : Q'' → Type}
    (f : (q : Q) → Script R' (R q)) (g : (q : Q') → Script R'' (R' q)) (x : Script R α) :
    (x.expand f).expand g = x.expand fun q => (f q).expand g := by
  induction x with
  | done a => rfl
  | ask q resume ih =>
    rw [expand, expand]
    refine (expand_bind g (f q) _).trans ?_
    exact congrArg _ (funext ih)

end

theorem expand_measure (m : Measurement) :
    (ClusterScript.measure m).expand ClusterCall.requests = tally m :=
  expand_question _ _

theorem expand_report (p : BufferPool) (event : Event) :
    (ClusterScript.report p event).expand ClusterCall.requests =
      (createObject p.namespaceName event).run :=
  expand_question _ _

theorem expand_planFailures (now : Instant) (p : BufferPool) (errors : List VolumeError) :
    (planFailures now p errors).expand ClusterCall.requests = reportFailures now p errors := by
  induction errors with
  | nil => rfl
  | cons e rest ih =>
    have hreport : (discard (ClusterScript.report p (failureEvent now p e)) :
        ClusterScript Unit).expand ClusterCall.requests =
          discard (createObject p.namespaceName (failureEvent now p e)).run :=
      (expand_bind _ _ _).trans (congrArg (· >>= _) (expand_report p _))
    rw [planFailures, reportFailures, expand_bind, expand_measure, expand_bind, hreport, ih]

theorem expand_planTallies (measurements : List Measurement) :
    (planTallies measurements).expand ClusterCall.requests = tallyAll measurements := by
  induction measurements with
  | nil => rfl
  | cons m rest ih => rw [planTallies, tallyAll, expand_bind, expand_measure, ih]

theorem expand_planPass (p : BufferPool) :
    (planPass p).expand ClusterCall.requests = clusterPass p := by
  have hstore : ((drainPass p).expand ClusterScript.onStore).expand ClusterCall.requests =
      onCluster (drainPass p) := by
    rw [expand_expand, onCluster]
    exact congrArg (expand · _) (funext fun _ => expand_question _ _)
  rw [planPass, clusterPass, expand_bind, hstore]
  refine congrArg _ (funext fun r => ?_)
  cases r with
  | error e => rfl
  | ok outcome => exact (expand_bind _ _ _).trans (congrArg (· >>= _) (expand_planTallies _))

/-- The requests of a step that may fail are those of its plan. -/
def CarriedOutBy {α : Type} (plan : PlanScript α) (steps : OperatorScript α) : Prop :=
  plan.run.expand ClusterCall.requests = steps.run

variable {α β : Type} {plan plan' : PlanScript α} {steps steps' : OperatorScript α}

theorem CarriedOutBy.bind {k : α → PlanScript β} {l : α → OperatorScript β}
    (h : CarriedOutBy plan steps) (hk : ∀ a, CarriedOutBy (k a) (l a)) :
    CarriedOutBy (plan >>= k) (steps >>= l) := by
  rw [CarriedOutBy, ExceptT.run_bind, ExceptT.run_bind, expand_bind, h]
  refine congrArg _ (funext fun r => ?_)
  cases r with
  | ok a => exact hk a
  | error e => rfl

theorem CarriedOutBy.ite {c : Prop} [Decidable c] (h : CarriedOutBy plan steps)
    (h' : CarriedOutBy plan' steps') :
    CarriedOutBy (if c then plan else plan') (if c then steps else steps') := by
  split
  · exact h
  · exact h'

theorem carriedOutBy_pure (a : α) : CarriedOutBy (pure a) (pure a) := rfl

theorem carriedOutBy_throw (e : OperatorError) :
    CarriedOutBy (throw e : PlanScript α) (throw e) := rfl

/-- Nothing is carried out after an error. -/
theorem carriedOutBy_throw_bind (e : OperatorError) (k : α → PlanScript β)
    (l : α → OperatorScript β) : CarriedOutBy (throw e >>= k) (throw e >>= l) := rfl

theorem carriedOutBy_lift {script : ClusterScript α} {requests : ApiScript α}
    (h : script.expand ClusterCall.requests = requests) :
    CarriedOutBy (liftM script) (liftM requests) := by
  subst h
  exact expand_bind _ _ _

theorem carriedOutBy_writeStatus (p : BufferPool) (status : Status) :
    CarriedOutBy (ExceptT.mk (ClusterScript.writeStatus p status)) (writeStatus p status) :=
  expand_question _ _

theorem carriedOutBy_planWorkers (p : BufferPool) :
    CarriedOutBy (planWorkers p) (applyStatefulSet p) := by
  rw [planWorkers, applyStatefulSet]
  cases Worker.statefulSet p with
  | error e => rfl
  | ok set => exact expand_question _ _

theorem carriedOutBy_planConclusion (now : Instant) (settings : Settings) (p : BufferPool)
    (outcome : PassOutcome) :
    CarriedOutBy (planConclusion now settings p outcome)
      (concludePass now settings p outcome) := by
  unfold planConclusion concludePass
  dsimp only
  have hlast : ∀ status, CarriedOutBy
      (do
        ExceptT.mk (ClusterScript.writeStatus p status)
        if !outcome.errors.isEmpty && !VolumeError.allDrainFailures outcome.errors then
          throw (.drain outcome.errors)
        return outcome.requeueAfter.getD settings.requeue)
      (do
        writeStatus p status
        if !outcome.errors.isEmpty && !VolumeError.allDrainFailures outcome.errors then
          throw (.drain outcome.errors)
        return outcome.requeueAfter.getD settings.requeue) := fun status =>
    .bind (carriedOutBy_writeStatus p status) fun _ =>
      .ite (carriedOutBy_throw_bind _ _ _) (carriedOutBy_pure _)
  refine .bind (carriedOutBy_lift (expand_measure _)) fun _ => .ite ?_ (hlast _)
  exact .bind (carriedOutBy_lift (expand_planFailures _ _ _)) fun _ => hlast _

theorem carriedOutBy_planPool (now : Instant) (settings : Settings) (p : BufferPool) :
    CarriedOutBy (planPool now settings p) (applyPool now settings p) := by
  unfold planPool applyPool
  dsimp only
  have hservice : CarriedOutBy (ExceptT.mk (ClusterScript.applyService p)) (applyService p) :=
    expand_question _ _
  have hpass := carriedOutBy_lift (expand_planPass p)
  refine .ite (carriedOutBy_pure _) (.ite ?_ ?_)
  · exact .bind (carriedOutBy_writeStatus _ _) fun _ => carriedOutBy_throw_bind _ _ _
  · refine .bind hservice fun _ => .bind (carriedOutBy_planWorkers p) fun _ => .ite ?_ ?_
    · exact .bind (carriedOutBy_writeStatus _ _) fun _ => carriedOutBy_pure _
    · refine .bind hpass fun r => ?_
      cases r with
      | error e => exact .bind (carriedOutBy_writeStatus _ _) fun _ => carriedOutBy_throw e
      | ok outcome => exact carriedOutBy_planConclusion now settings p outcome

/-- The plan of a reconcile, carried out by requests, is the reconcile. -/
theorem expand_reconcilePlan (now : Instant) (settings : Settings) (p : BufferPool) :
    (reconcilePlan now settings p).expand ClusterCall.requests = reconcile now settings p := by
  rw [reconcilePlan, reconcile, expand_bind, carriedOutBy_planPool now settings p]
  refine congrArg _ (funext fun r => ?_)
  cases r with
  | error e => exact (expand_bind _ _ _).trans (congrArg (· >>= _) (expand_measure _))
  | ok delay => rfl

end VolumeDrain.Operator
