import VolumeDrain.Api.Cluster
import VolumeDrain.Proofs.ClientSteps
import VolumeDrain.Proofs.Plan

/-!
# The reads of a pass

A pass asks for the volumes, the worker pods, the placeholders, the replica count and the jobs, in
this order. The first read that fails is the last, whatever is answered to the others, and the pass
ends with its error under the name of what was to be read. Of every store this is said of the calls,
and of the API server of the requests that carry them out.
-/
namespace VolumeDrain.Drain

open Api Manifest Script

/-- What a pass reads before it decides on anything. -/
inductive Read where
  | volumes
  | workers
  | placeholders
  | replicas
  | jobs
deriving DecidableEq, Repr

namespace Read

/-- The reads in their order. -/
def all : List Read := [volumes, workers, placeholders, replicas, jobs]

/-- How an error names what was to be read. -/
def what : Read → String
  | volumes => "buffer volumes"
  | workers => "worker pods"
  | placeholders => "placeholder pods"
  | replicas => "replica count"
  | jobs => "drain jobs"

/-- The call to the store by which a pass reads. -/
def call (p : BufferPool) : Read → StoreCall
  | volumes => .listVolumes p.namespaceName p.drainableSelector
  | workers => .listPods p.namespaceName (p.selector .worker)
  | placeholders => .listPods p.namespaceName (p.selector .placeholder)
  | replicas => .replicaCount p
  | jobs => .listJobs p.namespaceName (p.selector .drainer)

/-- The request by which that call is carried out. -/
def request (p : BufferPool) : Read → Request
  | volumes => .list (placeOf Claim (some p.namespaceName)) (some p.drainableSelector)
  | workers => .list (placeOf Pod (some p.namespaceName)) (some (p.selector .worker))
  | placeholders => .list (placeOf Pod (some p.namespaceName)) (some (p.selector .placeholder))
  | replicas => .get (placeOf StatefulSet (some p.namespaceName)) p.statefulSetName
  | jobs => .list (placeOf Job (some p.namespaceName)) (some (p.selector .drainer))

end Read

/-- The error of a result, if it is one. -/
def failureIn {ε α : Type} : Except ε α → Option ε
  | .ok _ => none
  | .error e => some e

/-- The error in the reply to a call, if it is one. -/
def StoreCall.failure? : (c : StoreCall) → c.Reply → Option OperatorError
  | listVolumes _ _, r => failureIn r
  | listPods _ _, r => failureIn r
  | listJobs _ _, r => failureIn r
  | replicaCount _, r => failureIn r
  | mark _ _, r => failureIn r
  | deleteJob _ _, r => failureIn r
  | settleJob _ _, r => failureIn r
  | settlePod _ _, r => failureIn r

/-- The error that an answer to the request of a read comes to, if it does. A stateful set that is
not there is no error. -/
def Read.failure? (answer : Except ClientError Json) : Read → Option OperatorError
  | volumes => (failureIn (resultOfList answer : Except ClientError (List Claim))).map .client
  | workers => (failureIn (resultOfList answer : Except ClientError (List Pod))).map .client
  | placeholders => (failureIn (resultOfList answer : Except ClientError (List Pod))).map .client
  | replicas =>
    (failureIn (resultOfGet answer : Except ClientError (Option StatefulSet))).map .client
  | jobs => (failureIn (resultOfList answer : Except ClientError (List Job))).map .client

section

variable {Question : Type} {Reply : Question → Type}

/-- Reads are made in order, up to the first that fails. Its error, under the name of what was to be
read, is what they come to. -/
inductive Surveys (ask : Read → Question)
    (failure : (read : Read) → Reply (ask read) → Option OperatorError) :
    List Read → List (Exchange Reply) → Option OperatorError → Prop
  | all : Surveys ask failure [] [] none
  | fail {read : Read} {rest : List Read} {r : Reply (ask read)} {e : OperatorError}
      (h : failure read r = some e) :
      Surveys ask failure (read :: rest) [⟨ask read, r⟩] (some (.observation read.what e))
  | next {read : Read} {rest : List Read} {r : Reply (ask read)} {t : List (Exchange Reply)}
      {out : Option OperatorError} (h : failure read r = none)
      (ht : Surveys ask failure rest t out) :
      Surveys ask failure (read :: rest) (⟨ask read, r⟩ :: t) out

end

/-- The reads of a pass as calls to the store. -/
abbrev SurveysStore (p : BufferPool) : List StoreExchange → Option OperatorError → Prop :=
  Surveys (Read.call p) (fun read => (read.call p).failure?) Read.all

/-! ## Calls to the store -/

section

variable {α β : Type} {p : BufferPool} {t : List StoreExchange}

theorem surveys_observing (read : Read) {rest : List Read}
    (reply : (read.call p).Reply → Except OperatorError α)
    (hreply : ∀ r, (read.call p).failure? r = failureIn (reply r))
    {k : α → ExceptT OperatorError StoreScript β} {b : Except OperatorError β}
    (h : Exchanges (ExceptT.mk (Except.mapError (OperatorError.observation read.what) <$>
      .ask (read.call p) fun r => .done (reply r)) >>= k).run t (.done b))
    (hk : ∀ a u, Exchanges (k a).run u (.done b) →
      Surveys (Read.call p) (fun read => (read.call p).failure?) rest u (failureIn b)) :
    Surveys (Read.call p) (fun read => (read.call p).failure?) (read :: rest) t (failureIn b) := by
  obtain ⟨r, u, rfl, ⟨a, ha, hu⟩ | ⟨e, he, rfl, rfl⟩⟩ := exchanges_asking_done reply h
  · exact .next ((hreply r).trans (congrArg failureIn ha)) (hk a u hu)
  · exact .fail ((hreply r).trans (congrArg failureIn he))

theorem surveys_takeSnapshot {b : Except OperatorError Snapshot}
    (h : Exchanges (takeSnapshot p).run t (.done b)) : SurveysStore p t (failureIn b) := by
  refine surveys_observing .volumes id (fun _ => rfl) h fun _ u hu => ?_
  refine surveys_observing .workers id (fun _ => rfl) hu fun _ u hu => ?_
  refine surveys_observing .placeholders id (fun _ => rfl) hu fun _ u hu => ?_
  refine surveys_observing .replicas id (fun _ => rfl) hu fun _ u hu => ?_
  refine surveys_observing .jobs id (fun _ => rfl) hu fun _ u hu => ?_
  obtain ⟨rfl, hb⟩ := hu.of_done
  cases hb
  exact .all

/-- A pass makes its reads, and makes other calls only if none of them has failed. -/
theorem surveys_drainPass {r : Except OperatorError PassOutcome}
    (h : Exchanges (drainPass p) t (.done r)) :
    ∃ u rest, t = u ++ rest ∧ SurveysStore p u (failureIn r) ∧ ∀ e, r = .error e → rest = [] := by
  obtain ⟨taken, u, rest, rfl, hsnapshot, hrest⟩ := h.of_bind_done
  have hsurvey := surveys_takeSnapshot hsnapshot
  cases taken with
  | error e =>
    obtain ⟨rfl, hr⟩ := hrest.of_done
    cases hr
    exact ⟨u, [], rfl, hsurvey, fun _ _ => rfl⟩
  | ok s =>
    obtain ⟨outcomes, u₁, u₂, rfl, -, hdone⟩ := Exchanges.of_bind_done hrest
    obtain ⟨-, hr⟩ := hdone.of_done
    cases hr
    exact ⟨u, _, rfl, hsurvey, fun _ he => nomatch he⟩

end

/-! ## Requests -/

theorem isEmpty_statefulSetName (p : BufferPool) : p.statefulSetName.isEmpty = false := by
  simp [BufferPool.statefulSetName]

theorem failureIn_mapError {ε ε' α : Type} (f : ε → ε') (r : Except ε α) :
    failureIn (r.mapError f) = (failureIn r).map f := by
  cases r <;> rfl

theorem failureIn_map {ε α β : Type} (f : α → β) (r : Except ε α) :
    failureIn (f <$> r) = failureIn r := by
  cases r <;> rfl

section

variable {α β : Type} {r : Request} {t : List (Exchange Act.Reply)}

theorem Exchanges.of_asked {f : Except ClientError Json → β} {b : β}
    (h : Exchanges (.ask (Act.request r) fun answer => .done (f answer) : ApiScript β) t
      (.done b)) :
    ∃ answer, t = [⟨.request r, answer⟩] ∧ b = f answer := by
  rcases h.of_ask with ⟨-, hrest⟩ | ⟨answer, u, rfl, hu⟩
  · cases hrest
  · obtain ⟨rfl, hb⟩ := hu.of_done
    cases hb
    exact ⟨answer, rfl, rfl⟩

/-- A step of the client that is one request is that request as a step of the operator. -/
theorem exchanges_viaClient {step : ClientScript α}
    {f : Except ClientError Json → Except ClientError α} {b : Except OperatorError α}
    (hstep : step.run = .ask (Act.request r) fun answer => .done (f answer))
    (h : Exchanges (viaClient step).run t (.done b)) :
    ∃ answer, t = [⟨.request r, answer⟩] ∧ b = (f answer).mapError .client := by
  change Exchanges (_ <$> step.run) t (.done b) at h
  rw [hstep] at h
  exact Exchanges.of_asked h

end

/-- The replica count is worked out from the stateful set, if there is one. -/
def countOf (p : BufferPool) (found : Option StatefulSet) : Int32 :=
  let replicas := match found with
    | some set => (set.spec.bind StatefulSetSpec.replicas).getD 1
    | none => p.spec.replicas
  if replicas < 0 then 0 else replicas

theorem run_desiredReplicas (p : BufferPool) : (desiredReplicas p).run =
    .ask (Act.request (Read.replicas.request p)) fun answer =>
      .done (countOf p <$> resultOfGet answer) := by
  have hget : (getObject? StatefulSet p.namespaceName p.statefulSetName).run =
      .ask (Act.request (Read.replicas.request p)) fun answer => .done (resultOfGet answer) := by
    rw [run_getObject?, isEmpty_statefulSetName]
    rfl
  change Script.bind (getObject? StatefulSet p.namespaceName p.statefulSetName).run _ = _
  rw [hget]
  refine congrArg (Script.ask _) (funext fun answer => ?_)
  change Script.bind (.done (resultOfGet answer)) _ = _
  cases (resultOfGet answer : Except ClientError (Option StatefulSet)) with
  | error e => rfl
  | ok found => cases found <;> rfl

/-- Each read is carried out by one request, and fails by the answer to it. -/
theorem exchanges_read {p : BufferPool} {read : Read} {r : (read.call p).Reply}
    {t : List (Exchange Act.Reply)} (h : Exchanges (carryOut (read.call p)) t (.done r)) :
    ∃ answer, t = [⟨.request (read.request p), answer⟩] ∧
      (read.call p).failure? r = read.failure? answer := by
  cases read with
  | volumes =>
    obtain ⟨answer, rfl, rfl⟩ := exchanges_viaClient run_listAll h
    exact ⟨answer, rfl, failureIn_mapError _ _⟩
  | workers =>
    obtain ⟨answer, rfl, rfl⟩ := exchanges_viaClient run_listAll h
    exact ⟨answer, rfl, failureIn_mapError _ _⟩
  | placeholders =>
    obtain ⟨answer, rfl, rfl⟩ := exchanges_viaClient run_listAll h
    exact ⟨answer, rfl, failureIn_mapError _ _⟩
  | replicas =>
    obtain ⟨answer, rfl, rfl⟩ := exchanges_viaClient (run_desiredReplicas p) h
    exact ⟨answer, rfl, (failureIn_mapError _ _).trans (congrArg _ (failureIn_map _ _))⟩
  | jobs =>
    obtain ⟨answer, rfl, rfl⟩ := exchanges_viaClient run_listAll h
    exact ⟨answer, rfl, failureIn_mapError _ _⟩

/-- The reads of a pass as requests. -/
abbrev SurveysServer (p : BufferPool) :
    List (Exchange Act.Reply) → Option OperatorError → Prop :=
  Surveys (fun read => Act.request (read.request p)) (fun read answer => read.failure? answer)
    Read.all

/-- Reads that are carried out by requests fail where the requests do. -/
theorem surveys_carried {p : BufferPool} {reads : List Read} {u : List StoreExchange}
    {t : List (Exchange Act.Reply)} {out : Option OperatorError}
    (h : Surveys (Read.call p) (fun read => (read.call p).failure?) reads u out)
    (hcarried : Carried carryOut u t) :
    Surveys (fun read => Act.request (read.request p)) (fun read answer => read.failure? answer)
      reads t out := by
  induction h generalizing t with
  | all =>
    rw [hcarried.of_nil]
    exact .all
  | fail hfails =>
    obtain ⟨t₁, t₂, rfl, hread, hrest⟩ := hcarried.of_cons
    obtain ⟨answer, rfl, hanswer⟩ := exchanges_read hread
    rw [hrest.of_nil]
    exact .fail (hanswer.symm.trans hfails)
  | next hok _ ih =>
    obtain ⟨t₁, t₂, rfl, hread, hrest⟩ := hcarried.of_cons
    obtain ⟨answer, rfl, hanswer⟩ := exchanges_read hread
    exact .next (hanswer.symm.trans hok) (ih hrest)

end VolumeDrain.Drain
