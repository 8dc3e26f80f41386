import VolumeDrain.Proofs.Endings
import VolumeDrain.Proofs.Observation

/-!
# The gates of a reconcile

Which requests a reconcile sends, whatever the server answers. Without the lead it sends none, for a
specification that is not valid it only writes the status, and of volumes, pods and jobs there is no
request before the service and the workers have been applied and while draining is off. A pass whose
observation fails ends with the failed read: nothing but the status is written then.
-/
namespace VolumeDrain.Operator

open Api Drain Manifest Pool Script

/-- A request or a measurement, and what came back. -/
abbrev ApiExchange := Exchange Act.Reply

/-- The requests among what a script did to the outside. -/
def requestsOf (t : List ApiExchange) : List Request :=
  t.filterMap fun e =>
    match e.question with
    | .request r => some r
    | .measure _ => none

/-- The request that applies the service of the workers. -/
def serviceRequest (p : BufferPool) : Request :=
  .apply (placeOf Service (some p.namespaceName)) p.serviceName (encode (Worker.headlessService p))

/-- The request that applies the stateful set of the workers. -/
def workersRequest (p : BufferPool) (set : StatefulSet) : Request :=
  .apply (placeOf StatefulSet (some p.namespaceName)) p.statefulSetName (encode set)

/-- The request that writes a status. -/
def statusRequest (p : BufferPool) (status : Status) : Request :=
  .merge (placeOf BufferPool (some p.namespaceName)) p.name true (.obj [("status", encode status)])

/-- The requests of writing a status: one, unless the pool has no name to write to. -/
def statusWrite (p : BufferPool) (status : Status) : List Request :=
  if p.name.isEmpty then [] else [statusRequest p status]

/-- The answer to a request is an object of the kind that was asked for. -/
def Returns (α : Type) [Resource α] (answer : Except ClientError Json) : Prop :=
  ∃ a : α, resultOfRead answer = .ok a

/-- The workers could be built, and the first requests applied the service and the workers with
success. -/
def WorkersApplied (p : BufferPool) (set : StatefulSet) (t : List ApiExchange) : Prop :=
  Worker.statefulSet p = .ok set ∧ ∃ service workers rest,
    t = ⟨.request (serviceRequest p), service⟩ ::
        ⟨.request (workersRequest p set), workers⟩ :: rest ∧
      Returns Service service ∧ Returns StatefulSet workers

/-- The request is about volumes, pods or jobs. -/
def OfDrain (r : Request) : Prop :=
  r.place.kind = Resource.kind Claim ∨ r.place.kind = Resource.kind Pod ∨
    r.place.kind = Resource.kind Job

/-- The observation of a pass failed with an error: its last request is the write of the status, and
if that succeeds the error is what the reconcile comes to. -/
def Abandons (p : BufferPool) (status : Status) (e : OperatorError) (t : List ApiExchange)
    (result : Except OperatorError Delay) : Prop :=
  requestsOf t = statusWrite p status ∧ ∀ answer, ⟨.request (statusRequest p status), answer⟩ ∈ t →
    Returns BufferPool answer → result = .error e

/-- What is true of the requests of a reconcile and of its result. -/
structure Gated (now : Instant) (settings : Settings) (p : BufferPool) (t : List ApiExchange)
    (result : Except OperatorError Delay) : Prop where
  standby : settings.isLeader = false → requestsOf t = []
  refused : settings.isLeader = true → p.spec.isValid = false →
    requestsOf t = statusWrite p (statusOfFailure now.fullText p "InvalidSpec" (refusal p))
  broken : settings.isLeader = true → p.spec.isValid = true → (∀ set, ¬WorkersApplied p set t) →
    requestsOf t = [serviceRequest p] ∨
      ∃ set, requestsOf t = [serviceRequest p, workersRequest p set]
  unapplied : (∀ set, ¬WorkersApplied p set t) → ∀ r ∈ requestsOf t, ¬OfDrain r
  undrained : settings.isLeader = true → p.spec.isValid = true → p.spec.drainEnabled = false →
    ∀ set, WorkersApplied p set t → requestsOf t = [serviceRequest p, workersRequest p set] ++
      statusWrite p (statusWithoutDraining now.fullText p)
  observed : settings.isLeader = true → p.spec.isValid = true → p.spec.drainEnabled = true →
    ∀ set, WorkersApplied p set t → ∃ reads rest out, t.drop 2 = reads ++ rest ∧
      SurveysServer p reads out ∧ ∀ e, out = some e →
        Abandons p (statusOfFailure now.fullText p "ObservationFailed" e.message) e rest result ∧
        ∀ r ∈ requestsOf t, OfDrain r → r.method = "GET"

section

variable {t t₁ t₂ : List ApiExchange}

theorem requestsOf_append : requestsOf (t₁ ++ t₂) = requestsOf t₁ ++ requestsOf t₂ :=
  List.filterMap_append

theorem mem_requestsOf {r : Request} {answer : Except ClientError Json}
    (h : (⟨.request r, answer⟩ : ApiExchange) ∈ t) : r ∈ requestsOf t :=
  List.mem_filterMap.2 ⟨_, h, rfl⟩

/-! ## The requests of each call -/

/-- A step of the client whose value is not used has sent its request. -/
theorem exchanges_discard {α : Type} {step : ClientScript α} {r : Request}
    {f : Except ClientError Json → Except ClientError α} {b : Except OperatorError Unit}
    (hstep : step.run = .ask (Act.request r) fun answer => .done (f answer))
    (h : Exchanges (discard (viaClient step) : OperatorScript Unit).run t (.done b)) :
    ∃ answer, t = [⟨.request r, answer⟩] ∧ b = ((f answer).map fun _ => ()).mapError .client := by
  rw [run_discard_viaClient, hstep] at h
  exact Drain.Exchanges.of_asked h

theorem discarded_eq_ok_iff {α : Type} {x : Except ClientError α} :
    (x.map fun _ => ()).mapError .client = (.ok () : Except OperatorError Unit) ↔
      ∃ a, x = .ok a := by
  cases x with
  | ok a => exact ⟨fun _ => ⟨a, rfl⟩, fun _ => rfl⟩
  | error e => exact ⟨nofun, fun ⟨_, h⟩ => nomatch h⟩

/-- Applying an object that has a name sends one request, and succeeds if the answer does. -/
theorem exchanges_applyObject {α : Type} [Resource α] {ns name : String} {a : α}
    {r : Except OperatorError Unit} (hname : name.isEmpty = false)
    (h : Exchanges (discard (viaClient (applyObject ns name a)) : OperatorScript Unit).run t
      (.done r)) :
    ∃ answer, t = [⟨.request (.apply (placeOf α (some ns)) name (encode a)), answer⟩] ∧
      (r = .ok () ↔ Returns α answer) := by
  have hstep : (applyObject ns name a).run =
      .ask (Act.request (.apply (placeOf α (some ns)) name (encode a))) fun answer =>
        .done (resultOfRead answer) := by
    rw [run_applyObject, hname]
    rfl
  obtain ⟨answer, rfl, rfl⟩ := exchanges_discard hstep h
  exact ⟨answer, rfl, discarded_eq_ok_iff⟩

theorem isEmpty_serviceName (p : BufferPool) : p.serviceName.isEmpty = false := by
  simp [BufferPool.serviceName, BufferPool.statefulSetName]

theorem exchanges_applyService {p : BufferPool} {r : Except OperatorError Unit}
    (h : Exchanges (ClusterCall.applyService p).requests t (.done r)) :
    ∃ answer, t = [⟨.request (serviceRequest p), answer⟩] ∧ (r = .ok () ↔ Returns Service answer) :=
  exchanges_applyObject (isEmpty_serviceName p) h

theorem exchanges_applyWorkers {p : BufferPool} {set : StatefulSet} {r : Except OperatorError Unit}
    (h : Exchanges (ClusterCall.applyWorkers p set).requests t (.done r)) :
    ∃ answer, t = [⟨.request (workersRequest p set), answer⟩] ∧
      (r = .ok () ↔ Returns StatefulSet answer) :=
  exchanges_applyObject (isEmpty_statefulSetName p) h

theorem exchanges_writeStatus {p : BufferPool} {status : Status} {r : Except OperatorError Unit}
    (h : Exchanges (ClusterCall.writeStatus p status).requests t (.done r)) :
    requestsOf t = statusWrite p status ∧
      ∀ answer, ⟨.request (statusRequest p status), answer⟩ ∈ t → Returns BufferPool answer →
        r = .ok () := by
  have hmerge : (mergeStatus BufferPool p.namespaceName p.name
      (.obj [("status", encode status)])).run = _ := run_mergeStatus
  unfold statusWrite
  cases hname : p.name.isEmpty with
  | true =>
    change Exchanges (discard (viaClient _) : OperatorScript Unit).run t (.done r) at h
    rw [hname] at hmerge
    rw [run_discard_viaClient, hmerge] at h
    obtain ⟨rfl, -⟩ := Exchanges.of_done h
    exact ⟨rfl, fun _ hmem => nomatch hmem⟩
  | false =>
    rw [hname] at hmerge
    obtain ⟨answer, rfl, rfl⟩ := exchanges_discard hmerge h
    refine ⟨rfl, fun answer' hmem hsucceeds => discarded_eq_ok_iff.2 ?_⟩
    cases List.mem_singleton.1 hmem
    exact hsucceeds

theorem requestsOf_counted {result : Except OperatorError Delay}
    (h : Carried ClusterCall.requests (counted result) t) : requestsOf t = [] := by
  cases result with
  | ok delay => rw [h.of_nil]; rfl
  | error e =>
    obtain ⟨t₁, t₂, rfl, hmeasure, hrest⟩ := h.of_cons
    rw [hrest.of_nil, Exchanges.of_question hmeasure]
    rfl

theorem carried_onStore {u : List StoreExchange}
    (h : Carried ClusterCall.requests (u.map onStore) t) : Carried carryOut u t := by
  induction u generalizing t with
  | nil => rw [h.of_nil]; exact .nil
  | cons e u ih =>
    obtain ⟨t₁, t₂, rfl, he, hrest⟩ := h.of_cons
    exact .cons he (ih hrest)

end

/-! ## Every reconcile -/

section

variable {now : Instant} {settings : Settings} {p : BufferPool} {set : StatefulSet}
  {t t₁ t₂ : List ApiExchange} {result : Except OperatorError Delay}

theorem not_ofDrain_service (p : BufferPool) : ¬OfDrain (serviceRequest p) := by
  simp [OfDrain, serviceRequest, Request.place, placeOf, Resource.kind, serviceKind, claimKind,
    podKind, jobKind]

theorem not_ofDrain_workers (p : BufferPool) (set : StatefulSet) :
    ¬OfDrain (workersRequest p set) := by
  simp [OfDrain, workersRequest, Request.place, placeOf, Resource.kind, statefulSetKind, claimKind,
    podKind, jobKind]

theorem not_ofDrain_status {status : Status} {r : Request} (h : r ∈ statusWrite p status) :
    ¬OfDrain r := by
  unfold statusWrite at h
  split at h
  · cases h
  · rw [List.mem_singleton.1 h]
    simp [OfDrain, statusRequest, Request.place, placeOf, Resource.kind, poolKind, claimKind,
      podKind, jobKind]

/-- What is carried out of the calls that have applied the workers. -/
theorem applied_carried (hset : Worker.statefulSet p = .ok set) {u : List ClusterExchange}
    (h : Carried ClusterCall.requests (applied p set ++ u) t) :
    ∃ service workers rest, t = ⟨.request (serviceRequest p), service⟩ ::
      ⟨.request (workersRequest p set), workers⟩ :: rest ∧ WorkersApplied p set t ∧
      Carried ClusterCall.requests u rest := by
  obtain ⟨t₁, t₂, rfl, hservice, hworkers⟩ := h.of_cons
  obtain ⟨t₂, t₃, rfl, hworkers, hrest⟩ := hworkers.of_cons
  obtain ⟨service, rfl, hs⟩ := exchanges_applyService hservice
  obtain ⟨workers, rfl, hw⟩ := exchanges_applyWorkers hworkers
  exact ⟨service, workers, t₃, rfl, ⟨hset, service, workers, t₃, rfl, hs.1 rfl, hw.1 rfl⟩, hrest⟩

/-- Nothing about drains is sent of a pool whose workers were not applied. -/
theorem gated_of_unapplied (hleads : settings.isLeader = true) (hvalid : p.spec.isValid = true)
    (hnot : ∀ set, ¬WorkersApplied p set t) (hrequests : requestsOf t = [serviceRequest p] ∨
      ∃ set, requestsOf t = [serviceRequest p, workersRequest p set]) :
    Gated now settings p t result where
  standby hfollows := nomatch hleads.symm.trans hfollows
  refused _ hinvalid := nomatch hvalid.symm.trans hinvalid
  broken _ _ _ := hrequests
  unapplied _ r hr := by
    rcases hrequests with hservice | ⟨set, hboth⟩
    · rw [hservice] at hr
      exact List.mem_singleton.1 hr ▸ not_ofDrain_service p
    · rw [hboth] at hr
      rcases List.mem_cons.1 hr with rfl | hr
      · exact not_ofDrain_service p
      · exact List.mem_singleton.1 hr ▸ not_ofDrain_workers p set
  undrained _ _ _ set happlied := absurd happlied (hnot set)
  observed _ _ _ set happlied := absurd happlied (hnot set)

theorem gated_of_undrained (hleads : settings.isLeader = true) (hvalid : p.spec.isValid = true)
    (hoff : p.spec.drainEnabled = false) (happlied : WorkersApplied p set t)
    (hrequests : requestsOf t = [serviceRequest p, workersRequest p set] ++
      statusWrite p (statusWithoutDraining now.fullText p)) : Gated now settings p t result where
  standby hfollows := nomatch hleads.symm.trans hfollows
  refused _ hinvalid := nomatch hvalid.symm.trans hinvalid
  broken _ _ hnot := absurd happlied (hnot set)
  unapplied hnot := absurd happlied (hnot set)
  undrained _ _ _ set' happlied' := by
    cases happlied.1.symm.trans happlied'.1
    exact hrequests
  observed _ _ hon := nomatch hoff.symm.trans hon

theorem gated_of_observed (hleads : settings.isLeader = true) (hvalid : p.spec.isValid = true)
    (hon : p.spec.drainEnabled = true) (happlied : WorkersApplied p set t)
    {reads rest : List ApiExchange} {out : Option OperatorError} (hdrop : t.drop 2 = reads ++ rest)
    (hsurvey : SurveysServer p reads out) (habandons : ∀ e, out = some e →
      Abandons p (statusOfFailure now.fullText p "ObservationFailed" e.message) e rest result ∧
        ∀ r ∈ requestsOf t, OfDrain r → r.method = "GET") : Gated now settings p t result where
  standby hfollows := nomatch hleads.symm.trans hfollows
  refused _ hinvalid := nomatch hvalid.symm.trans hinvalid
  broken _ _ hnot := absurd happlied (hnot set)
  unapplied hnot := absurd happlied (hnot set)
  undrained _ _ hoff := nomatch hon.symm.trans hoff
  observed _ _ _ _ _ := ⟨reads, rest, out, hdrop, hsurvey, habandons⟩

theorem gated_of_standby (hfollows : settings.isLeader = false) (hrequests : requestsOf t = []) :
    Gated now settings p t result where
  standby _ := hrequests
  refused hleads := nomatch hfollows.symm.trans hleads
  broken hleads := nomatch hfollows.symm.trans hleads
  unapplied _ _ hr := by simp [hrequests] at hr
  undrained hleads := nomatch hfollows.symm.trans hleads
  observed hleads := nomatch hfollows.symm.trans hleads

theorem gated_of_refused (hleads : settings.isLeader = true) (hinvalid : p.spec.isValid = false)
    (hrequests : requestsOf t =
      statusWrite p (statusOfFailure now.fullText p "InvalidSpec" (refusal p))) :
    Gated now settings p t result where
  standby hfollows := nomatch hleads.symm.trans hfollows
  refused _ _ := hrequests
  broken _ hvalid := nomatch hinvalid.symm.trans hvalid
  unapplied _ _ hr := not_ofDrain_status (hrequests ▸ hr)
  undrained _ hvalid := nomatch hinvalid.symm.trans hvalid
  observed _ hvalid := nomatch hinvalid.symm.trans hvalid

theorem WorkersApplied.append (h : WorkersApplied p set t₁) (t₂ : List ApiExchange) :
    WorkersApplied p set (t₁ ++ t₂) := by
  obtain ⟨hset, service, workers, rest, rfl, hs, hw⟩ := h
  exact ⟨hset, service, workers, rest ++ t₂, rfl, hs, hw⟩

/-- All reads are requests by which nothing is changed. -/
theorem get_of_surveys {reads : List Read} {out : Option OperatorError}
    (h : Surveys (fun read => Act.request (read.request p))
      (fun read answer => read.failure? answer) reads t out) :
    ∀ r ∈ requestsOf t, r.method = "GET" := by
  have hread : ∀ (read : Read) (answer : Except ClientError Json) (rest : List ApiExchange),
      (∀ r ∈ requestsOf rest, r.method = "GET") →
      ∀ r ∈ requestsOf (⟨.request (read.request p), answer⟩ :: rest), r.method = "GET" := by
    intro read answer rest hrest r hr
    rcases List.mem_cons.1 hr with rfl | hr
    · cases read <;> rfl
    · exact hrest r hr
  induction h with
  | all => exact fun r hr => nomatch hr
  | fail => exact hread _ _ [] fun r hr => nomatch hr
  | next _ _ ih => exact hread _ _ _ ih

/-- The write of the status is the last request of a reconcile that abandons its pass. -/
theorem abandons_of_written {status : Status} {e : OperatorError} {r : Except OperatorError Unit}
    (hwrite : Exchanges (ClusterCall.writeStatus p status).requests t₁ (.done r))
    (hcounted : requestsOf t₂ = []) :
    Abandons p status e (t₁ ++ t₂) (onceWritten r (.error e)) := by
  obtain ⟨hstatus, hwritten⟩ := exchanges_writeStatus hwrite
  refine ⟨?_, fun answer hmem hreturns => ?_⟩
  · rw [requestsOf_append, hcounted, List.append_nil, hstatus]
  · rcases List.mem_append.1 hmem with hmem | hmem
    · rw [hwritten answer hmem hreturns]
      rfl
    · have hnone := mem_requestsOf hmem
      rw [hcounted] at hnone
      cases hnone

/-- What such a reconcile sends about volumes, pods and jobs only reads them. -/
theorem gets_of_abandoned {service workers : Except ClientError Json} {reads : List ApiExchange}
    {status : Status} (hreads : ∀ r ∈ requestsOf reads, r.method = "GET")
    (hstatus : requestsOf t = statusWrite p status) :
    ∀ r ∈ requestsOf (⟨.request (serviceRequest p), service⟩ ::
        ⟨.request (workersRequest p set), workers⟩ :: (reads ++ t)),
      OfDrain r → r.method = "GET" := by
  intro r hr hdrain
  have hall : requestsOf (⟨.request (serviceRequest p), service⟩ ::
      ⟨.request (workersRequest p set), workers⟩ :: (reads ++ t)) =
      serviceRequest p :: workersRequest p set :: (requestsOf reads ++ requestsOf t) :=
    congrArg (fun u => serviceRequest p :: workersRequest p set :: u) requestsOf_append
  rw [hall, List.mem_cons, List.mem_cons, List.mem_append] at hr
  rcases hr with rfl | rfl | hr | hr
  · exact absurd hdrain (not_ofDrain_service p)
  · exact absurd hdrain (not_ofDrain_workers p set)
  · exact hreads r hr
  · rw [hstatus] at hr
    exact absurd hdrain (not_ofDrain_status hr)

theorem gated_of_ending {u : List ClusterExchange} (hending : Ending now settings p u result)
    (hcarried : Carried ClusterCall.requests u t₁) (hcounted : requestsOf t₂ = []) :
    Gated now settings p (t₁ ++ t₂) result := by
  have hrequests : requestsOf (t₁ ++ t₂) = requestsOf t₁ := by
    rw [requestsOf_append, hcounted, List.append_nil]
  cases hending with
  | standby hfollows =>
    refine gated_of_standby hfollows (hrequests.trans ?_)
    rw [hcarried.of_nil]
    rfl
  | refused hleads hinvalid _ =>
    obtain ⟨t, t', rfl, hwrite, hrest⟩ := hcarried.of_cons
    refine gated_of_refused hleads hinvalid (hrequests.trans ?_)
    rw [hrest.of_nil, List.append_nil]
    exact (exchanges_writeStatus hwrite).1
  | serviceFailed hleads hvalid e =>
    obtain ⟨t, t', rfl, hservice, hrest⟩ := hcarried.of_cons
    obtain ⟨answer, rfl, hanswer⟩ := exchanges_applyService hservice
    obtain rfl := hrest.of_nil
    refine gated_of_unapplied hleads hvalid ?_ ?_
    · rintro set ⟨-, service, workers, rest, heq, hs, -⟩
      cases heq
      exact nomatch hanswer.2 hs
    · exact .inl (hrequests.trans rfl)
  | unbuilt hleads hvalid hset =>
    obtain ⟨t, t', rfl, hservice, hrest⟩ := hcarried.of_cons
    obtain ⟨answer, rfl, hanswer⟩ := exchanges_applyService hservice
    refine gated_of_unapplied hleads hvalid ?_ ?_
    · exact fun set happlied => nomatch hset.symm.trans happlied.1
    · rw [hrequests, hrest.of_nil]
      exact .inl rfl
  | @workersFailed set hleads hvalid hset e =>
    obtain ⟨t, t', rfl, hservice, hworkers⟩ := hcarried.of_cons
    obtain ⟨answer, rfl, hanswer⟩ := exchanges_applyService hservice
    obtain ⟨t, t', rfl, hworkers, hrest⟩ := hworkers.of_cons
    obtain ⟨answer', rfl, hanswer'⟩ := exchanges_applyWorkers hworkers
    obtain rfl := hrest.of_nil
    refine gated_of_unapplied hleads hvalid ?_ ?_
    · rintro set' ⟨hset', service, workers, rest, heq, -, hw⟩
      cases hset.symm.trans hset'
      cases (List.cons.inj (List.cons.inj heq).2).1
      exact nomatch hanswer'.2 hw
    · exact .inr ⟨set, hrequests.trans rfl⟩
  | @withoutDraining set hleads hvalid hset hoff r =>
    obtain ⟨service, workers, rest, rfl, happlied, hrest⟩ := applied_carried hset hcarried
    obtain ⟨t, t', rfl, hwrite, hrest⟩ := hrest.of_cons
    refine gated_of_undrained hleads hvalid hoff (happlied.append t₂) (hrequests.trans ?_)
    rw [hrest.of_nil, List.append_nil]
    exact congrArg ([serviceRequest p, workersRequest p set] ++ ·) (exchanges_writeStatus hwrite).1
  | @unobserved set u e hleads hvalid hset hon hpass r =>
    rw [List.append_assoc] at hcarried
    obtain ⟨service, workers, rest, rfl, happlied, hrest⟩ := applied_carried hset hcarried
    obtain ⟨reads, last, rfl, hreads, hlast⟩ := hrest.of_append
    obtain ⟨t, t', rfl, hwrite, hnil⟩ := hlast.of_cons
    obtain ⟨v, w, rfl, hsurvey, hstops⟩ := surveys_drainPass hpass
    cases hstops e rfl
    rw [List.append_nil] at hreads
    have hserver : SurveysServer p reads (some e) :=
      surveys_carried hsurvey (carried_onStore hreads)
    obtain rfl := hnil.of_nil
    rw [List.append_nil] at hrequests happlied ⊢
    refine gated_of_observed hleads hvalid hon (happlied.append t₂)
      (List.append_assoc reads t t₂) hserver fun e' he' => ?_
    cases he'
    refine ⟨abandons_of_written hwrite hcounted, ?_⟩
    rw [hrequests]
    exact gets_of_abandoned (get_of_surveys hserver) (exchanges_writeStatus hwrite).1
  | @passed set u outcome told hleads hvalid hset hon hpass htold r =>
    rw [List.append_assoc, List.append_assoc] at hcarried
    obtain ⟨service, workers, rest, rfl, happlied, hrest⟩ := applied_carried hset hcarried
    obtain ⟨v, w, rfl, hsurvey, -⟩ := surveys_drainPass hpass
    rw [List.map_append, List.append_assoc] at hrest
    obtain ⟨reads, last, rfl, hreads, -⟩ := hrest.of_append
    have hserver : SurveysServer p reads none :=
      surveys_carried hsurvey (carried_onStore hreads)
    exact gated_of_observed hleads hvalid hon (happlied.append t₂)
      (List.append_assoc reads last t₂) hserver nofun

theorem gated_of_exchanges (h : Exchanges (reconcile now settings p) t (.done result)) :
    Gated now settings p t result := by
  rw [← expand_reconcilePlan] at h
  obtain ⟨u, hplan, hcarried⟩ := exchanges_of_expand h
  obtain ⟨v, rfl, hending⟩ := ending_of_reconcilePlan hplan
  obtain ⟨t₁, t₂, rfl, hends, hcounted⟩ := hcarried.of_append
  exact gated_of_ending hending hends (requestsOf_counted hcounted)

end

/-- A pass on any store, and a reconcile with any server, decide on nothing that they have not
wholly seen. -/
theorem nothing_decided_unobserved (now : Instant) (settings : Settings) (p : BufferPool) :
    (∀ {σ : Type} (answer : (c : StoreCall) → σ → c.Reply × σ) (s : σ),
      ∃ reads rest out, transcript answer (drainPass p) s = reads ++ rest ∧
        SurveysStore p reads out ∧ match out with
          | some e => rest = [] ∧ (run answer (drainPass p) s).1 = .error e
          | none => ∃ outcome, (run answer (drainPass p) s).1 = .ok outcome) ∧
    ∀ {σ : Type} (answer : (act : Act) → σ → act.Reply × σ) (s : σ),
      Gated now settings p (transcript answer (reconcile now settings p) s)
        (run answer (reconcile now settings p) s).1 := by
  refine ⟨fun answer s => ?_, fun answer s => gated_of_exchanges (exchanges_transcript answer _ s)⟩
  obtain ⟨reads, rest, ht, hsurvey, hstops⟩ :=
    surveys_drainPass (exchanges_transcript answer (drainPass p) s)
  refine ⟨reads, rest, _, ht, hsurvey, ?_⟩
  generalize (run answer (drainPass p) s).1 = r at hstops
  cases r with
  | ok outcome => exact ⟨outcome, rfl⟩
  | error e => exact ⟨hstops e rfl, rfl⟩

end VolumeDrain.Operator
