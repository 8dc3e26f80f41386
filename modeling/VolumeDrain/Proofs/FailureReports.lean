import VolumeDrain.Proofs.Endings
import VolumeDrain.Proofs.PassOutcomes

/-!
# What a reconcile reports of failed drains

A reconcile that finds failed drain jobs for the first time counts and reports each of them, in the
order of their volumes. What its reports are answered has no influence on anything that it does
afterwards.
-/
namespace VolumeDrain.Script

variable {Question : Type} {Reply : Question → Type} {P : Question → Prop} {α β ε : Type}

/-! ## Replies without influence -/

/-- A script goes on in the same way whatever its questions of this kind are answered. -/
def Ignores (P : Question → Prop) : Script Reply α → Prop
  | .done _ => True
  | .ask q resume => (P q → ∀ r r', resume r = resume r') ∧ ∀ r, Ignores P (resume r)

theorem ignores_done (a : α) : Ignores P (.done a : Script Reply α) := trivial

theorem Ignores.bind {script : Script Reply α} {k : α → Script Reply β} (h : Ignores P script)
    (hk : ∀ a, Ignores P (k a)) : Ignores P (script >>= k) := by
  induction script with
  | done a => exact hk a
  | ask q resume ih =>
    obtain ⟨hsame, hrest⟩ := h
    refine ⟨fun hq r r' => ?_, fun r => ih r (hrest r)⟩
    show resume r >>= k = resume r' >>= k
    rw [hsame hq r r']

theorem Ignores.run_bind {step : ExceptT ε (Script Reply) α} {k : α → ExceptT ε (Script Reply) β}
    (h : Ignores P step.run) (hk : ∀ a, Ignores P (k a).run) : Ignores P (step >>= k).run := by
  rw [ExceptT.run_bind]
  refine h.bind fun r => ?_
  cases r with
  | ok a => exact hk a
  | error e => exact ignores_done _

/-- The same questions were asked, and of those that are not of this kind the replies are the
same. -/
inductive SameBut (P : Question → Prop) : List (Exchange Reply) → List (Exchange Reply) → Prop
  | nil : SameBut P [] []
  | same (e : Exchange Reply) {t t' : List (Exchange Reply)} (h : SameBut P t t') :
      SameBut P (e :: t) (e :: t')
  | other {q : Question} (hq : P q) (r r' : Reply q) {t t' : List (Exchange Reply)}
      (h : SameBut P t t') : SameBut P (⟨q, r⟩ :: t) (⟨q, r'⟩ :: t')

/-- A script that ignores replies comes to the same end with others in their place. -/
theorem Ignores.exchanges {script rest : Script Reply α} {t t' : List (Exchange Reply)}
    (h : Ignores P script) (ht : Exchanges script t rest) (hsame : SameBut P t t') :
    Exchanges script t' rest := by
  induction ht generalizing t' with
  | stop =>
    cases hsame
    exact .stop _
  | @ask q resume r t rest _ ih =>
    obtain ⟨hignored, hrest⟩ := h
    cases hsame with
    | same _ hsame => exact .ask (ih (hrest r) hsame)
    | other hq _ r' hsame =>
      have hlater := ih (hrest r) hsame
      rw [hignored hq r r'] at hlater
      exact .ask hlater

end VolumeDrain.Script

namespace VolumeDrain.Drain

open Manifest Script

/-! ## Failed drains of an outcome -/

variable {p : BufferPool} {s : Snapshot} {volumes : List Claim} {out : PassOutcome}

end VolumeDrain.Drain

namespace VolumeDrain.Operator

open Drain Manifest Pool Script

/-! ## Reports whose answers are let go -/

/-- The call counts or reports a failed drain. -/
def ClusterCall.isOfFailure : ClusterCall → Bool
  | .report _ _ => true
  | .measure (.drainFailure _ _) => true
  | _ => false

/-- The calls that count or report failed drains, in their order. -/
def failureCalls (calls : List ClusterExchange) : List ClusterCall :=
  (calls.map fun e => e.question).filter ClusterCall.isOfFailure

/-- A failed drain is counted and then reported. -/
def callsForFailure (now : Instant) (p : BufferPool) (e : VolumeError) : List ClusterCall :=
  [.measure (.drainFailure p.namespaceName p.name), .report p (failureEvent now p e)]

variable {now : Instant} {settings : Settings} {p : BufferPool} {calls t : List ClusterExchange}
  {out : PassOutcome} {result : Except OperatorError Delay}

theorem failureCalls_append (calls later : List ClusterExchange) :
    failureCalls (calls ++ later) = failureCalls calls ++ failureCalls later := by
  simp [failureCalls]

theorem failureCalls_eq_nil (h : ∀ e ∈ calls, e.question.isOfFailure = false) :
    failureCalls calls = [] := by
  simpa [failureCalls] using h

theorem failureCalls_planFailures {errors : List VolumeError}
    (h : Exchanges (planFailures now p errors) t (.done ())) :
    failureCalls t = errors.flatMap (callsForFailure now p) := by
  induction errors generalizing t with
  | nil =>
    obtain ⟨rfl, -⟩ := h.of_done
    rfl
  | cons e rest ih =>
    obtain ⟨_, t₁, t₂, rfl, hmeasure, h⟩ := Exchanges.of_bind_done h
    obtain ⟨_, t₃, t₄, rfl, hreport, hrest⟩ := Exchanges.of_bind_done h
    obtain ⟨r, u₁, u₂, rfl, hasked, hdone⟩ := Exchanges.of_bind_done hreport
    obtain ⟨rfl, -⟩ := hdone.of_done
    rw [hmeasure.of_question, hasked.of_question, failureCalls_append, failureCalls_append,
      List.append_nil, ih hrest]
    rfl

theorem exchanges_planTallies {measurements : List Measurement}
    (h : Exchanges (planTallies measurements) t (.done ())) :
    t = measurements.map fun m => ⟨.measure m, ()⟩ := by
  induction measurements generalizing t with
  | nil => exact h.of_done.1
  | cons m rest ih =>
    obtain ⟨_, t₁, t₂, rfl, hmeasure, hrest⟩ := Exchanges.of_bind_done h
    rw [hmeasure.of_question, ih hrest]
    rfl

/-- What is announced of a completed pass tells of its failed drains, unless the pool was failing
before. -/
theorem failureCalls_announce (h : Exchanges (announce now p out) t (.done ())) :
    failureCalls t = if 0 < out.counts.failed ∧ wasFailing p = false then
      (out.errors.filter fun e => e.fault.isDrainFailure).flatMap (callsForFailure now p)
    else [] := by
  obtain ⟨_, t₁, t₂, rfl, htallies, h⟩ := Exchanges.of_bind_done h
  obtain ⟨_, t₃, t₄, rfl, hmeasure, hfailures⟩ := Exchanges.of_bind_done h
  have hactions : failureCalls t₁ = [] := by
    rw [exchanges_planTallies htallies]
    apply failureCalls_eq_nil
    intro e he
    obtain ⟨m, hm, rfl⟩ := List.mem_map.1 he
    obtain ⟨v, -, rfl⟩ := List.mem_map.1 hm
    rfl
  have hvolumes : failureCalls t₃ = [] := by
    rw [hmeasure.of_question]
    rfl
  rw [failureCalls_append, failureCalls_append, hactions, hvolumes, List.nil_append,
    List.nil_append]
  by_cases hnew : (0 < out.counts.failed && !wasFailing p) = true
  · have hnew' : 0 < out.counts.failed ∧ wasFailing p = false := by simpa using hnew
    rw [if_pos hnew] at hfailures
    rw [if_pos hnew', failureCalls_planFailures hfailures]
  · have hnew' : ¬ (0 < out.counts.failed ∧ wasFailing p = false) := by simpa using hnew
    rw [if_neg hnew] at hfailures
    obtain ⟨rfl, -⟩ := Exchanges.of_done hfailures
    rw [if_neg hnew']
    rfl

/-- All that is told of failures is told in the announcement of a pass. -/
theorem failureCalls_counted : failureCalls (counted result) = [] := by
  cases result <;> rfl

theorem failureCalls_onStore (u : List StoreExchange) : failureCalls (u.map onStore) = [] := by
  apply failureCalls_eq_nil
  simp [onStore, ClusterCall.isOfFailure]

end VolumeDrain.Operator
