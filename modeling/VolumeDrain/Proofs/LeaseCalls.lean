import VolumeDrain.Proofs.ClientSteps
import VolumeDrain.Proofs.LeaseDocuments

/-!
# Calls for the lease

A call asks for the lease, decides on the answer, and ends or sends one write: it creates the lease,
renews it or takes it over. The server answers a write with an error and leaves the lease alone, or
it keeps the new document under its next version number.
-/
namespace VolumeDrain.Operator

open Api Json Manifest Script

/-! ## What a call asks for -/

/-- The request by which a call asks for the lease. -/
def readRequest (ns : String) : Request := .get (placeOf Lease (some ns)) leaseName

/-- The writes by which a call gets or keeps the lease. -/
inductive Write where
  | create
  | renew
  | takeOver (lease : Lease)

namespace Write

/-- The request of a write. -/
def request (now : Instant) (ns identity : String) : Write → Request
  | create => .create (placeOf Lease (some ns)) (encode (newLease now ns identity))
  | renew => .merge (placeOf Lease (some ns)) leaseName false (renewPatch now)
  | takeOver lease =>
    .merge (placeOf Lease (some ns)) leaseName false (takeoverPatch now identity lease)

/-- What a call returns with the answer to its write. -/
def result (answer : Except ClientError Json) : Write → Except ClientError Bool
  | takeOver _ =>
    match (resultOfRead answer : Except ClientError Lease) with
    | .ok _ => .ok true
    | .error e => if e.isConflict then .ok false else .error e
  | _ => (resultOfRead answer : Except ClientError Lease).map fun _ => true

end Write

/-- What a call comes to once it has its first answer: a result, or a write. -/
inductive Decision where
  | final (result : Except ClientError Bool)
  | write (w : Write)

/-- How a call decides on the answer to its first request. -/
def decision (now : Instant) (identity : String) (answer : Except ClientError Json) : Decision :=
  match (resultOfGet answer : Except ClientError (Option Lease)) with
  | .error e => .final (.error e)
  | .ok none => .write .create
  | .ok (some lease) =>
    if lease.spec.bind LeaseSpec.holderIdentity = some identity then .write .renew
    else if leaseExpired now lease.spec then .write (.takeOver lease)
    else .final (.ok false)

/-- What is left of a call after its decision. -/
def Decision.script (now : Instant) (ns identity : String) :
    Decision → ApiScript (Except ClientError Bool)
  | final result => .done result
  | write w => .ask (Act.request (w.request now ns identity)) fun answer => .done (w.result answer)

theorem run_mergeLease (ns : String) (patch : Json) :
    (mergeObject Lease ns leaseName patch).run =
      .ask (Act.request (.merge (placeOf Lease (some ns)) leaseName false patch)) fun answer =>
        .done (resultOfRead answer) :=
  run_checkName_answerTo leaseName _

theorem run_takeOver (now : Instant) (ns identity : String) (lease : Lease) :
    (takeOver now ns identity lease).run =
      (Decision.write (.takeOver lease)).script now ns identity := by
  change Script.bind (mergeObject Lease ns leaseName (takeoverPatch now identity lease)).run _ = _
  rw [run_mergeLease]
  refine congrArg (Script.ask _) (funext fun answer => ?_)
  change Script.bind (.done (resultOfRead answer : Except ClientError Lease)) _ = _
  unfold Write.result
  cases hread : (resultOfRead answer : Except ClientError Lease) with
  | ok stored => rfl
  | error e => cases hconflict : e.isConflict <;> simp [Script.bind, hconflict]

theorem run_discard_return {step : ClientScript Lease} {r : Request}
    (h : step.run = .ask (Act.request r) fun answer => .done (resultOfRead answer)) :
    (do discard step; return true : ClientScript Bool).run =
      .ask (Act.request r) fun answer =>
        .done ((resultOfRead answer : Except ClientError Lease).map fun _ => true) := by
  change Script.bind (Script.bind step.run _) _ = _
  rw [h]
  refine congrArg (Script.ask _) (funext fun answer => ?_)
  change Script.bind (Script.bind (.done (resultOfRead answer)) _) _ = _
  cases (resultOfRead answer : Except ClientError Lease) <;> rfl

/-- A call asks for the lease, decides, and ends or sends one write. -/
theorem run_acquireOrRenew (now : Instant) (ns identity : String) :
    (acquireOrRenew now ns identity).run =
      .ask (Act.request (readRequest ns)) fun answer =>
        (decision now identity answer).script now ns identity := by
  have hget : (getObject? Lease ns leaseName).run = _ := run_getObject?
  change Script.bind (getObject? Lease ns leaseName).run _ = _
  rw [hget]
  refine congrArg (Script.ask _) (funext fun answer => ?_)
  unfold decision
  change Script.bind (.done _) _ = _
  cases (resultOfGet answer : Except ClientError (Option Lease)) with
  | error e => rfl
  | ok found =>
    cases found with
    | none => exact run_discard_return run_createObject
    | some lease =>
      change (if _ then _ else _ : ClientScript Bool).run = _
      dsimp only
      split
      · exact run_discard_return (run_mergeLease ns (renewPatch now))
      · split
        · exact run_takeOver now ns identity lease
        · rfl

/-! ## How the server answers -/

/-- The lease that a server keeps. -/
def storedLease (ns : String) (s : Server) : Option Json := s.get? ⟨"leases", ns, leaseName⟩

/-- A document as a server keeps it under its next version number. -/
def stamped (s : Server) (document : Json) : Json :=
  Server.withMeta "resourceVersion" (.str (toString (s.version + 1))) document

/-- A server kept a document as the lease, under its next version number. -/
def Stamps (ns : String) (s s' : Server) (document : Json) : Prop :=
  s'.version = s.version + 1 ∧ storedLease ns s' = some (stamped s document)

/-- A server left the lease alone and gave no version number. -/
def Leaves (ns : String) (s s' : Server) : Prop :=
  s'.version = s.version ∧ storedLease ns s' = storedLease ns s

/-- What a write makes of the stored lease where it is carried out: the document to be kept. A
takeover is carried out on the version it names, or on any if it names none. -/
inductive Made (now : Instant) (ns identity : String) : Write → Option Json → Json → Prop
  | created : Made now ns identity .create none (encode (newLease now ns identity))
  | renewed (j : Json) : Made now ns identity .renew (some j) ((renewPatch now).mergePatch j)
  | takenOver {lease : Lease} {j : Json}
      (h : ∀ v, lease.metadata.resourceVersion = some v → Server.versionOf j = some v) :
      Made now ns identity (.takeOver lease) (some j)
        ((takeoverPatch now identity lease).mergePatch j)

/-- A fault of the server strikes the request. -/
def Struck (r : Request) (s : Server) : Prop := (Server.useFault r s.faults).1 ≠ none

theorem lookup_insertObject (key : ObjectKey) (object : Json) (objects : List (ObjectKey × Json)) :
    (Server.insertObject key object objects).lookup key = some object := by
  induction objects with
  | nil => simp [Server.insertObject]
  | cons e rest ih =>
    rw [Server.insertObject]
    split
    · simp
    · split
      · simp
      · rename_i hne
        have hbeq : (key == e.1) = false := beq_eq_false_iff_ne.2 hne
        rw [List.lookup_cons, hbeq]
        exact ih

theorem stamps_storeStamped (ns : String) (s : Server) (document : Json) :
    Stamps ns s (s.storeStamped ⟨"leases", ns, leaseName⟩ document).2 document :=
  ⟨rfl, lookup_insertObject _ _ _⟩

section

variable {ns : String} {r : Request} {s : Server}

theorem answer_of_struck (h : Struck r s) :
    (∃ e, (s.answer (.request r)).1 = .error e) ∧ (s.answer (.request r)).2.objects = s.objects ∧
      (s.answer (.request r)).2.version = s.version := by
  obtain ⟨failure, hfailure⟩ := Option.ne_none_iff_exists'.1 h
  cases failure with
  | respond response =>
    simp only [Server.answer, Server.respond, hfailure]
    exact ⟨⟨_, rfl⟩, trivial, trivial⟩
  | disconnect text =>
    simp only [Server.answer, Server.respond, hfailure]
    exact ⟨⟨_, rfl⟩, trivial, trivial⟩

/-- A request that no fault strikes is carried out on the objects. -/
theorem answer_of_not_struck (h : ¬Struck r s) :
    ∃ s' : Server, s'.objects = s.objects ∧ s'.version = s.version ∧
      s.answer (.request r) = ((s'.serve r).1.mapError .api, (s'.serve r).2) := by
  have hnone : (Server.useFault r s.faults).1 = none := Classical.not_not.1 h
  refine ⟨{ s with requests := s.requests ++ [r], faults := (Server.useFault r s.faults).2 },
    rfl, rfl, ?_⟩
  simp only [Server.answer, Server.respond, hnone]
  rfl

theorem storedLease_congr {s' : Server} (h : s'.objects = s.objects) :
    storedLease ns s' = storedLease ns s := by
  rw [storedLease, storedLease, Server.get?, Server.get?, h]

theorem leaves_of_struck (h : Struck r s) : Leaves ns s (s.answer (.request r)).2 := by
  obtain ⟨-, hobjects, hversion⟩ := answer_of_struck h
  exact ⟨hversion, storedLease_congr hobjects⟩

theorem serve_read (ns : String) (s : Server) : s.serve (readRequest ns) =
    match storedLease ns s with
    | some j => (.ok j, s)
    | none => (.error (Server.notFound ⟨"leases", ns, leaseName⟩), s) := rfl

/-- Asking for the lease changes nothing, and an answer is the stored lease. -/
theorem answer_read (ns : String) (s : Server) :
    Leaves ns s (s.answer (.request (readRequest ns))).2 ∧
      ∀ j, (s.answer (.request (readRequest ns))).1 = .ok j → storedLease ns s = some j := by
  by_cases hstruck : Struck (readRequest ns) s
  · obtain ⟨⟨e, he⟩, -, -⟩ := answer_of_struck hstruck
    refine ⟨leaves_of_struck hstruck, fun j hj => ?_⟩
    rw [he] at hj
    cases hj
  · obtain ⟨s', hobjects, hversion, hanswer⟩ := answer_of_not_struck hstruck
    rw [hanswer, serve_read, ← storedLease_congr hobjects]
    have hleaves : Leaves ns s s' := ⟨hversion, storedLease_congr hobjects⟩
    cases storedLease ns s' with
    | none =>
      refine ⟨hleaves, fun j hj => ?_⟩
      cases hj
    | some stored => exact ⟨hleaves, fun j hj => congrArg some (Except.ok.inj hj)⟩

theorem serve_create (now : Instant) (ns identity : String) (s : Server) :
    s.serve (Write.create.request now ns identity) =
      match storedLease ns s with
      | some _ => (.error (Server.alreadyExists ⟨"leases", ns, leaseName⟩), s)
      | none =>
        (.ok (stamped s (encode (newLease now ns identity))),
          (s.storeStamped ⟨"leases", ns, leaseName⟩ (encode (newLease now ns identity))).2) := rfl

theorem serve_merge (ns : String) (change : Json) (s : Server) :
    s.serve (.merge (placeOf Lease (some ns)) leaseName false change) =
      match storedLease ns s with
      | none => (.error (Server.notFound ⟨"leases", ns, leaseName⟩), s)
      | some j =>
        if (Server.versionOf change).any fun v => Server.versionOf j ≠ some v then
          (.error (Server.modified ⟨"leases", ns, leaseName⟩), s)
        else
          (.ok (stamped s (change.mergePatch j)),
            (s.storeStamped ⟨"leases", ns, leaseName⟩ (change.mergePatch j)).2) := rfl

theorem serve_write (w : Write) (now : Instant) (ns identity : String) (s : Server) :
    (∃ response, s.serve (w.request now ns identity) = (.error response, s)) ∨
      ∃ document, Made now ns identity w (storedLease ns s) document ∧
        s.serve (w.request now ns identity) = (.ok (stamped s document),
          (s.storeStamped ⟨"leases", ns, leaseName⟩ document).2) := by
  cases w with
  | create =>
    rw [serve_create]
    cases storedLease ns s with
    | none => exact .inr ⟨_, .created, rfl⟩
    | some j => exact .inl ⟨_, rfl⟩
  | renew =>
    -- The patch names no version, so none is compared.
    rw [Write.request, serve_merge, versionOf_renewPatch]
    cases storedLease ns s with
    | none => exact .inl ⟨_, rfl⟩
    | some j => exact .inr ⟨_, .renewed j, rfl⟩
  | takeOver lease =>
    rw [Write.request, serve_merge, versionOf_takeoverPatch]
    cases storedLease ns s with
    | none => exact .inl ⟨_, rfl⟩
    | some j =>
      dsimp only
      split
      · exact .inl ⟨_, rfl⟩
      · rename_i hcurrent
        refine .inr ⟨_, .takenOver fun v hv => ?_, rfl⟩
        simpa [hv] using hcurrent

/-- A write is answered with an error and leaves the lease alone, or it is carried out and answered
with the document that is now kept. -/
theorem answer_write (w : Write) (now : Instant) (ns identity : String) (s : Server) :
    (Leaves ns s (s.answer (.request (w.request now ns identity))).2 ∧
        ∃ e, (s.answer (.request (w.request now ns identity))).1 = .error e) ∨
      ∃ document, Made now ns identity w (storedLease ns s) document ∧
        Stamps ns s (s.answer (.request (w.request now ns identity))).2 document ∧
        (s.answer (.request (w.request now ns identity))).1 = .ok (stamped s document) := by
  by_cases hstruck : Struck (w.request now ns identity) s
  · exact .inl ⟨leaves_of_struck hstruck, (answer_of_struck hstruck).1⟩
  · obtain ⟨s', hobjects, hversion, hanswer⟩ := answer_of_not_struck hstruck
    rw [hanswer, ← storedLease_congr hobjects]
    rcases serve_write w now ns identity s' with ⟨response, hserve⟩ | ⟨document, hmade, hserve⟩
    · rw [hserve]
      exact .inl ⟨⟨hversion, storedLease_congr hobjects⟩, _, rfl⟩
    · have hstamped : stamped s' document = stamped s document := by rw [stamped, stamped, hversion]
      obtain ⟨hnext, hkept⟩ := stamps_storeStamped ns s' document
      rw [hserve]
      refine .inr ⟨document, hmade, ⟨hnext.trans (by rw [hversion]), ?_⟩,
        congrArg Except.ok hstamped⟩
      exact hkept.trans (congrArg some hstamped)

/-- A takeover of a version that is not stored is refused as a conflict. -/
theorem answer_stale {now : Instant} {ns identity v : String} {s : Server} {lease : Lease}
    {j : Json} (hstored : storedLease ns s = some j)
    (hlease : lease.metadata.resourceVersion = some v)
    (hstale : Server.versionOf j ≠ some v)
    (hstruck : ¬Struck ((Write.takeOver lease).request now ns identity) s) :
    (s.answer (.request ((Write.takeOver lease).request now ns identity))).1 =
      .error (.api (Server.modified ⟨"leases", ns, leaseName⟩)) := by
  obtain ⟨s', hobjects, -, hanswer⟩ := answer_of_not_struck hstruck
  have hserve := serve_merge ns (takeoverPatch now identity lease) s'
  rw [storedLease_congr hobjects, hstored, versionOf_takeoverPatch, hlease] at hserve
  have hother : (some v).any (fun v => decide (Server.versionOf j ≠ some v)) = true := by
    simp [hstale]
  dsimp only at hserve
  rw [if_pos hother] at hserve
  rw [hanswer, Write.request, hserve]
  rfl

end

end VolumeDrain.Operator
