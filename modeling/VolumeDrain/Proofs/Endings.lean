import VolumeDrain.Proofs.Plan
import VolumeDrain.Proofs.Requests

/-!
# How a reconcile ends

A reconcile by the leader stops at the first thing that it cannot do. Each way in which it can come
to its end is listed here with the calls that it has made until then, their replies and its result:
whether it has applied the workers, how its pass went, and which status it wrote. What the calls do
is not considered.
-/
namespace VolumeDrain.Operator

open Drain Manifest Pool Script

/-- A call of a reconcile and the reply it got. -/
abbrev ClusterExchange := Exchange ClusterCall.Reply

/-- A call to the store as a call of a reconcile. -/
def onStore (e : StoreExchange) : ClusterExchange := ⟨.store e.question, e.reply⟩

/-- The calls that have applied the service and the workers. -/
def applied (p : BufferPool) (set : StatefulSet) : List ClusterExchange :=
  [⟨.applyService p, .ok ()⟩, ⟨.applyWorkers p set, .ok ()⟩]

/-- The message by which an invalid specification is refused: the texts of its errors in a row. -/
def refusal (p : BufferPool) : String := "; ".intercalate (p.spec.errors.map SpecError.text)

/-- What is counted and reported of a completed pass before its status is written. -/
def announce (now : Instant) (p : BufferPool) (outcome : PassOutcome) : ClusterScript Unit := do
  planTallies (outcome.measurements p)
  ClusterScript.measure (.volumes p.namespaceName p.name outcome.counts)
  if 0 < outcome.counts.failed && !wasFailing p then
    planFailures now p (outcome.errors.filter fun e => e.fault.isDrainFailure)

/-- The result of a reconcile whose pass was completed. -/
def resultOfPass (settings : Settings) (outcome : PassOutcome) : Except OperatorError Delay :=
  if !outcome.errors.isEmpty && !VolumeError.allDrainFailures outcome.errors then
    .error (.drain outcome.errors)
  else .ok (outcome.requeueAfter.getD settings.requeue)

/-- The result of a reconcile that ends with the write of a status. -/
def onceWritten (reply : Except OperatorError Unit) (result : Except OperatorError Delay) :
    Except OperatorError Delay :=
  reply.bind fun _ => result

/-- A reconcile ends after these exchanges with this result. -/
inductive Ending (now : Instant) (settings : Settings) (p : BufferPool) :
    List ClusterExchange → Except OperatorError Delay → Prop
  | standby (hfollows : settings.isLeader = false) : Ending now settings p [] (.ok settings.requeue)
  | refused (hleads : settings.isLeader = true) (hinvalid : p.spec.isValid = false)
      (r : Except OperatorError Unit) :
      Ending now settings p
        [⟨.writeStatus p (statusOfFailure now.fullText p "InvalidSpec" (refusal p)), r⟩]
        (onceWritten r (.error (.validation (refusal p))))
  | serviceFailed (hleads : settings.isLeader = true) (hvalid : p.spec.isValid = true)
      (e : OperatorError) : Ending now settings p [⟨.applyService p, .error e⟩] (.error e)
  | unbuilt {e : Worker.ExtraVolumeError} (hleads : settings.isLeader = true)
      (hvalid : p.spec.isValid = true) (hset : Worker.statefulSet p = .error e) :
      Ending now settings p [⟨.applyService p, .ok ()⟩] (.error (.configuration e.message))
  | workersFailed {set : StatefulSet} (hleads : settings.isLeader = true)
      (hvalid : p.spec.isValid = true) (hset : Worker.statefulSet p = .ok set)
      (e : OperatorError) :
      Ending now settings p [⟨.applyService p, .ok ()⟩, ⟨.applyWorkers p set, .error e⟩] (.error e)
  | withoutDraining {set : StatefulSet} (hleads : settings.isLeader = true)
      (hvalid : p.spec.isValid = true) (hset : Worker.statefulSet p = .ok set)
      (hoff : p.spec.drainEnabled = false) (r : Except OperatorError Unit) :
      Ending now settings p
        (applied p set ++ [⟨.writeStatus p (statusWithoutDraining now.fullText p), r⟩])
        (onceWritten r (.ok settings.requeue))
  | unobserved {set : StatefulSet} {t : List StoreExchange} {e : OperatorError}
      (hleads : settings.isLeader = true) (hvalid : p.spec.isValid = true)
      (hset : Worker.statefulSet p = .ok set) (hon : p.spec.drainEnabled = true)
      (hpass : Exchanges (drainPass p) t (.done (.error e))) (r : Except OperatorError Unit) :
      Ending now settings p
        (applied p set ++ t.map onStore ++
          [⟨.writeStatus p (statusOfFailure now.fullText p "ObservationFailed" e.message), r⟩])
        (onceWritten r (.error e))
  | passed {set : StatefulSet} {t : List StoreExchange} {outcome : PassOutcome}
      {told : List ClusterExchange} (hleads : settings.isLeader = true)
      (hvalid : p.spec.isValid = true) (hset : Worker.statefulSet p = .ok set)
      (hon : p.spec.drainEnabled = true)
      (hpass : Exchanges (drainPass p) t (.done (.ok outcome)))
      (htold : Exchanges (announce now p outcome) told (.done ())) (r : Except OperatorError Unit) :
      Ending now settings p
        (applied p set ++ t.map onStore ++ told ++
          [⟨.writeStatus p (statusAfterPass now.fullText p outcome.replicas outcome.counts
            outcome.errors), r⟩])
        (onceWritten r (resultOfPass settings outcome))

/-- A result with an error is counted. -/
def counted : Except OperatorError Delay → List ClusterExchange
  | .ok _ => []
  | .error e => [⟨.measure (.reconcileError controllerName e.metricLabel), ()⟩]

section

variable {now : Instant} {settings : Settings} {p : BufferPool} {t : List ClusterExchange}
  {result : Except OperatorError Delay}

theorem tells_announce (now : Instant) (p : BufferPool) (outcome : PassOutcome) :
    Asks ClusterCall.Tells (announce now p outcome) := by
  refine (tells_planTallies _).bind fun _ => (asks_question trivial).bind fun _ => ?_
  split
  · exact tells_planFailures now p _
  · exact asks_done ()

/-- A reconcile that ends with writing a status has done so, and has the error of the write or the
result that was to follow. -/
theorem written_of_exchanges {status : Status} {last : PlanScript Delay}
    {after : Except OperatorError Delay} (hlast : last.run = .done after)
    (h : Exchanges (do
      ExceptT.mk (ClusterScript.writeStatus p status)
      last : PlanScript Delay).run t (.done result)) :
    ∃ r, t = [⟨.writeStatus p status, r⟩] ∧ result = onceWritten r after := by
  rcases h.of_run_bind_done with ⟨_, t₁, t₂, rfl, hwrite, hrest⟩ | ⟨e, hwrite, rfl⟩
  · rw [hlast] at hrest
    obtain ⟨rfl, hresult⟩ := hrest.of_done
    cases hresult
    exact ⟨.ok (), by rw [Exchanges.of_question hwrite]; rfl, rfl⟩
  · exact ⟨.error e, Exchanges.of_question hwrite, rfl⟩

/-- A step that cannot fail has been taken, and the next one after it. -/
theorem exchanges_lift_bind {α β : Type} {script : ClusterScript α} {k : α → PlanScript β}
    {b : Except OperatorError β}
    (h : Exchanges ((liftM script : PlanScript α) >>= k).run t (.done b)) :
    ∃ a t₁ t₂, t = t₁ ++ t₂ ∧ Exchanges script t₁ (.done a) ∧
      Exchanges (k a).run t₂ (.done b) := by
  rcases h.of_run_bind_done with ⟨a, t₁, t₂, rfl, hlift, hrest⟩ | ⟨e, hlift, -⟩ <;>
    obtain ⟨a', u₁, u₂, rfl, hscript, hdone⟩ := Exchanges.of_bind_done hlift <;>
    obtain ⟨rfl, hresult⟩ := hdone.of_done <;>
    cases hresult
  rw [List.append_nil]
  exact ⟨a, u₁, t₂, rfl, hscript, hrest⟩

/-- The calls of a script to the store, made by a reconcile, are those of the script. -/
theorem exchanges_of_expand_onStore {α : Type} {script : StoreScript α} {a : α}
    (h : Exchanges (script.expand ClusterScript.onStore) t (.done a)) :
    ∃ u : List StoreExchange, t = u.map onStore ∧ Exchanges script u (.done a) := by
  obtain ⟨u, hu, hcarried⟩ := exchanges_of_expand h
  have hone : ∀ (c : StoreCall) (r : c.Reply) (t : List ClusterExchange),
      Exchanges (ClusterScript.onStore c) t (.done r) → t = [onStore ⟨c, r⟩] :=
    fun _ _ _ hcall => hcall.of_question
  exact ⟨u, hcarried.eq_map hone, hu⟩

/-- What follows a completed pass is announced, and then the status is written. -/
theorem written_of_planConclusion {outcome : PassOutcome} {before : List ClusterExchange}
    (htallies : Exchanges (planTallies (outcome.measurements p)) before (.done ()))
    (h : Exchanges (planConclusion now settings p outcome).run t (.done result)) :
    ∃ told r, Exchanges (announce now p outcome) told (.done ()) ∧
      before ++ t = told ++ [⟨.writeStatus p (statusAfterPass now.fullText p outcome.replicas
        outcome.counts outcome.errors), r⟩] ∧
      result = onceWritten r (resultOfPass settings outcome) := by
  unfold planConclusion at h
  dsimp only at h
  have hlast : (do
      if !outcome.errors.isEmpty && !VolumeError.allDrainFailures outcome.errors then
        throw (.drain outcome.errors)
      return outcome.requeueAfter.getD settings.requeue : PlanScript Delay).run =
        .done (resultOfPass settings outcome) := by
    rw [resultOfPass]
    split <;> rfl
  obtain ⟨_, t₁, t₂, rfl, hmeasure, h⟩ := exchanges_lift_bind h
  -- Failures are reported or not, and the write of the status follows either way.
  have hannounced : ∀ {u}, Exchanges (if 0 < outcome.counts.failed && !wasFailing p then
        planFailures now p (outcome.errors.filter fun e => e.fault.isDrainFailure)
      else pure ()) u (.done ()) →
      Exchanges (announce now p outcome) (before ++ (t₁ ++ u)) (.done ()) :=
    fun hu => htallies.bind (hmeasure.bind hu)
  split at h
  · rename_i hnew
    obtain ⟨_, u₁, u₂, rfl, hfailures, h⟩ := exchanges_lift_bind h
    obtain ⟨r, rfl, rfl⟩ := written_of_exchanges hlast h
    rw [if_pos hnew] at hannounced
    exact ⟨_, r, hannounced hfailures, by simp, rfl⟩
  · rename_i hold
    obtain ⟨r, rfl, rfl⟩ := written_of_exchanges hlast h
    rw [if_neg hold] at hannounced
    exact ⟨_, r, hannounced (.stop _), by simp, rfl⟩

/-- What a reconcile that has applied the workers does then. -/
theorem ending_of_applied {set : StatefulSet} (hleads : settings.isLeader = true)
    (hvalid : p.spec.isValid = true) (hset : Worker.statefulSet p = .ok set)
    (h : Exchanges (do
      if !p.spec.drainEnabled then
        ExceptT.mk (ClusterScript.writeStatus p (statusWithoutDraining now.fullText p))
        return settings.requeue
      match ← (liftM (planPass p) : PlanScript (Except OperatorError PassOutcome)) with
      | .error e =>
        ExceptT.mk (ClusterScript.writeStatus p
          (statusOfFailure now.fullText p "ObservationFailed" e.message))
        throw e
      | .ok outcome => planConclusion now settings p outcome : PlanScript Delay).run t
        (.done result)) : Ending now settings p (applied p set ++ t) result := by
  cases hdrain : p.spec.drainEnabled with
  | false =>
    simp only [hdrain, Bool.not_false, if_true] at h
    obtain ⟨r, rfl, rfl⟩ := written_of_exchanges rfl h
    exact .withoutDraining hleads hvalid hset hdrain r
  | true =>
    simp only [hdrain, Bool.not_true, Bool.false_eq_true, if_false] at h
    obtain ⟨taken, t₁, t₂, rfl, hpass, h⟩ := exchanges_lift_bind h
    obtain ⟨observed, u₁, u₂, rfl, hdrains, htallies⟩ := hpass.of_bind_done
    obtain ⟨u, rfl, hu⟩ := exchanges_of_expand_onStore hdrains
    -- A pass that was broken off counts nothing; the counts of a completed one come before the rest
    -- of its announcement.
    cases observed with
    | error e =>
      obtain ⟨rfl, htaken⟩ := htallies.of_done
      cases htaken
      obtain ⟨r, rfl, rfl⟩ := written_of_exchanges rfl h
      have hending : Ending now settings p _ _ := .unobserved hleads hvalid hset hdrain hu r
      simpa using hending
    | ok outcome =>
      obtain ⟨_, w₁, w₂, rfl, hcounted, hdone⟩ := Exchanges.of_bind_done htallies
      obtain ⟨rfl, htaken⟩ := hdone.of_done
      cases htaken
      obtain ⟨told, r, htold, ht, rfl⟩ := written_of_planConclusion hcounted h
      have hending := Ending.passed hleads hvalid hset hdrain hu htold r
      rw [List.append_nil, List.append_assoc, ht]
      simpa using hending

theorem ending_of_planPool (h : Exchanges (planPool now settings p).run t (.done result)) :
    Ending now settings p t result := by
  unfold planPool at h
  dsimp only at h
  cases hleads : settings.isLeader with
  | false =>
    simp only [hleads, Bool.not_false, if_true] at h
    obtain ⟨rfl, hresult⟩ := h.of_done
    cases hresult
    exact .standby hleads
  | true =>
    simp only [hleads, Bool.not_true, Bool.false_eq_true, if_false] at h
    cases hvalid : p.spec.isValid with
    | false =>
      simp only [hvalid, Bool.not_false, if_true] at h
      obtain ⟨r, rfl, rfl⟩ := written_of_exchanges rfl h
      exact .refused hleads hvalid r
    | true =>
      simp only [hvalid, Bool.not_true, Bool.false_eq_true, if_false] at h
      rcases h.of_run_bind_done with ⟨_, t₁, t₂, rfl, hservice, h⟩ | ⟨e, hservice, rfl⟩
      · rw [Exchanges.of_question hservice]
        cases hset : Worker.statefulSet p with
        | error e =>
          rw [planWorkers, hset] at h
          obtain ⟨rfl, hresult⟩ := Exchanges.of_done h
          cases hresult
          exact .unbuilt hleads hvalid hset
        | ok set =>
          rw [planWorkers, hset] at h
          rcases h.of_run_bind_done with ⟨_, t₁, t₂, rfl, hworkers, h⟩ | ⟨e, hworkers, rfl⟩
          · rw [Exchanges.of_question hworkers]
            exact ending_of_applied hleads hvalid hset h
          · rw [Exchanges.of_question hworkers]
            exact .workersFailed hleads hvalid hset e
      · rw [Exchanges.of_question hservice]
        exact .serviceFailed hleads hvalid e

/-- A reconcile ends in one of these ways, and then its error is counted. -/
theorem ending_of_reconcilePlan
    (h : Exchanges (reconcilePlan now settings p) t (.done result)) :
    ∃ u, t = u ++ counted result ∧ Ending now settings p u result := by
  obtain ⟨r, t₁, t₂, rfl, hpool, hrest⟩ := h.of_bind_done
  have hending := ending_of_planPool hpool
  cases r with
  | ok delay =>
    obtain ⟨rfl, hresult⟩ := hrest.of_done
    cases hresult
    exact ⟨t₁, rfl, hending⟩
  | error e =>
    obtain ⟨_, u₁, u₂, rfl, hmeasure, hdone⟩ := Exchanges.of_bind_done hrest
    obtain ⟨rfl, hresult⟩ := hdone.of_done
    cases hresult
    exact ⟨t₁, by rw [Exchanges.of_question hmeasure]; rfl, hending⟩

end

end VolumeDrain.Operator
