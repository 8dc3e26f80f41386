import VolumeDrain.Operator.Reconcile
import VolumeDrain.Proofs.ClientSteps
import VolumeDrain.Proofs.Documents

/-!
# The status that is read back

A status is written as a merge patch, and a document leaves out what is not set. What was stored
before therefore shows through in the two optional fields of a status, and nowhere else.
-/
namespace VolumeDrain.Pool

open Json

/-! ## Documents of a status -/

/-- Counts are read from any object that holds the five of them. -/
theorem decode_counts {members : Members} {c : StateCounts}
    (hinUse : members.lookup "inUse" = some (encode c.inUse))
    (havailable : members.lookup "available" = some (encode c.available))
    (hdraining : members.lookup "draining" = some (encode c.draining))
    (hdrained : members.lookup "drained" = some (encode c.drained))
    (hfailed : members.lookup "failed" = some (encode c.failed)) :
    decode (.obj members) = (.ok c : Decoded StateCounts) := by
  have hfields : decode (.obj members) = (do
      return {
        inUse := ← (Fields.named members).required 0 "inUse"
        available := ← (Fields.named members).required 1 "available"
        draining := ← (Fields.named members).required 2 "draining"
        drained := ← (Fields.named members).required 3 "drained"
        failed := ← (Fields.named members).required 4 "failed" } : Decoded StateCounts) := rfl
  rw [hfields, Fields.required_eq hinUse, Fields.required_eq havailable,
    Fields.required_eq hdraining, Fields.required_eq hdrained, Fields.required_eq hfailed]
  rfl

instance : LawfulCodec StateCounts where
  decode_encode _ := decode_counts rfl rfl rfl rfl rfl

theorem decode_condition {members : Members} {c : Condition}
    (htype : members.lookup "type" = some (encode c.type))
    (hstatus : members.lookup "status" = some (encode c.status))
    (htime : members.lookup "lastTransitionTime" = some (encode c.lastTransitionTime))
    (hreason : members.lookup "reason" = some (encode c.reason))
    (hmessage : members.lookup "message" = some (encode c.message))
    (hgeneration : members.lookup "observedGeneration" = c.observedGeneration.map encode) :
    decode (.obj members) = (.ok c : Decoded Condition) := by
  have hfields : decode (.obj members) = (do
      return {
        type := ← (Fields.named members).required 0 "type"
        status := ← (Fields.named members).required 1 "status"
        lastTransitionTime := ← (Fields.named members).required 2 "lastTransitionTime"
        reason := ← (Fields.named members).required 3 "reason"
        message := ← (Fields.named members).required 4 "message"
        observedGeneration := ← (Fields.named members).nullable 5 "observedGeneration" } :
        Decoded Condition) := rfl
  rw [hfields, Fields.required_eq htype, Fields.required_eq hstatus, Fields.required_eq htime,
    Fields.required_eq hreason, Fields.required_eq hmessage, Fields.nullable_eq_optional,
    Fields.optional_eq hgeneration fun _ => nofun]
  rfl

instance : LawfulCodec Condition where
  decode_encode c := by
    obtain ⟨type, status, time, reason, message, generation⟩ := c
    cases generation <;> exact decode_condition rfl rfl rfl rfl rfl rfl

/-- A status is read from the fields of its document. -/
theorem decode_status_eq_ok_iff {members : Members} {s : Status} :
    decode (.obj members) = (.ok s : Decoded Status) ↔
      (Fields.named members).withDefault 0 "phase" "" = .ok s.phase ∧
      (Fields.named members).optional 1 "message" = .ok s.message ∧
      (Fields.named members).optional 2 "observedGeneration" = .ok s.observedGeneration ∧
      (Fields.named members).withDefault 3 "replicas" 0 = .ok s.replicas ∧
      (Fields.named members).withDefault 4 "volumes" {} = .ok s.volumes ∧
      (Fields.named members).withDefault 5 "conditions" [] = .ok s.conditions := by
  have hfields : decode (.obj members) = (do
      return {
        phase := ← (Fields.named members).withDefault 0 "phase" ""
        message := ← (Fields.named members).optional 1 "message"
        observedGeneration := ← (Fields.named members).optional 2 "observedGeneration"
        replicas := ← (Fields.named members).withDefault 3 "replicas" 0
        volumes := ← (Fields.named members).withDefault 4 "volumes" {}
        conditions := ← (Fields.named members).withDefault 5 "conditions" [] } :
        Decoded Status) := rfl
  rw [hfields]
  constructor
  · simp only [bind_eq_ok]
    rintro ⟨phase, hphase, message, hmessage, generation, hgeneration, replicas, hreplicas,
      volumes, hvolumes, conditions, hconditions, hs⟩
    cases hs
    exact ⟨hphase, hmessage, hgeneration, hreplicas, hvolumes, hconditions⟩
  · rintro ⟨hphase, hmessage, hgeneration, hreplicas, hvolumes, hconditions⟩
    rw [hphase, hmessage, hgeneration, hreplicas, hvolumes, hconditions]
    rfl

instance : LawfulCodec Status where
  decode_encode s := by
    obtain ⟨phase, message, generation, replicas, volumes, conditions⟩ := s
    cases message <;> cases generation <;>
      exact decode_status_eq_ok_iff.2 ⟨Fields.withDefault_eq rfl _,
        Fields.optional_eq rfl fun s => (replaces_str s).1,
        Fields.optional_eq rfl fun n => (replaces_int n.toInt).1,
        Fields.withDefault_eq rfl _, Fields.withDefault_eq rfl _, Fields.withDefault_eq rfl _⟩

/-! ## A status written over another -/

/-- What is read of a status that was written over another one. What it does not set is what was
set before. -/
def Status.over (new : Status) (old : Option Status) : Status :=
  { new with
    message := new.message.or (old.bind Status.message)
    observedGeneration := new.observedGeneration.or (old.bind Status.observedGeneration) }

/-- What was written is read back unchanged exactly where it unsets nothing. -/
theorem Status.over_eq_iff {new : Status} {old : Option Status} :
    new.over old = new ↔ (new.message = none → old.bind Status.message = none) ∧
      (new.observedGeneration = none → old.bind Status.observedGeneration = none) := by
  obtain ⟨phase, message, generation, replicas, volumes, conditions⟩ := new
  cases message <;> cases generation <;> simp [Status.over]

/-- The document of an object stores this status, as an object, or none. -/
inductive Stores (j : Json) : Option Status → Prop
  | unset (h : j.get? "status" = none) : Stores j none
  | cleared (h : j.get? "status" = some .null) : Stores j none
  | set {members : Members} {s : Status} (h : j.get? "status" = some (.obj members))
      (hs : decode (.obj members) = (.ok s : Decoded Status)) : Stores j (some s)

/-- The members of the stored status, of which there are none without one. -/
def storedMembers (j : Json) : Members := ((j.get? "status").getD .null).membersOf

theorem Stores.optional {j : Json} {old : Option Status} (h : Stores j old) :
    (Fields.named (storedMembers j)).optional 1 "message" = .ok (old.bind Status.message) ∧
      (Fields.named (storedMembers j)).optional 2 "observedGeneration" =
        .ok (old.bind Status.observedGeneration) := by
  cases h with
  | unset h =>
    rw [storedMembers, h]
    exact ⟨rfl, rfl⟩
  | cleared h =>
    rw [storedMembers, h]
    exact ⟨rfl, rfl⟩
  | set h hs =>
    rw [storedMembers, h]
    obtain ⟨-, hmessage, hgeneration, -⟩ := decode_status_eq_ok_iff.1 hs
    exact ⟨hmessage, hgeneration⟩

/-- The fields that counts are written with. -/
def StateCounts.fields (c : StateCounts) : List (String × Option Json) :=
  [field "inUse" c.inUse, field "available" c.available, field "draining" c.draining,
   field "drained" c.drained, field "failed" c.failed]

theorem StateCounts.nodup_fields (c : StateCounts) : (c.fields.map Prod.fst).Nodup := by
  change ["inUse", "available", "draining", "drained", "failed"].Nodup
  decide

/-- The fields that a status is written with. -/
def Status.fields (s : Status) : List (String × Option Json) :=
  [field "phase" s.phase, field? "message" s.message,
   field? "observedGeneration" s.observedGeneration, field "replicas" s.replicas,
   field "volumes" s.volumes, field "conditions" s.conditions]

theorem Status.nodup_fields (s : Status) : (s.fields.map Prod.fst).Nodup := by
  change ["phase", "message", "observedGeneration", "replicas", "volumes", "conditions"].Nodup
  decide

/-- Merging a status into a document changes its status like this. -/
theorem get?_merged (s : Status) (j : Json) :
    ((Json.obj [("status", encode s)]).mergePatch j).get? "status" =
      some (.obj (mergeMembers (written s.fields) (storedMembers j))) := by
  have hencode : encode s = .obj (written s.fields) := rfl
  rw [get?_mergePatch_one (by nofun), hencode, mergePatch, storedMembers]

/-- Merged counts are the new ones, whatever was there. -/
theorem decode_mergedCounts (c : StateCounts) (target : Json) :
    decode ((encode c).mergePatch target) = (.ok c : Decoded StateCounts) := by
  have hencode : encode c = .obj (written c.fields) := rfl
  have hnodup := c.nodup_fields
  rw [hencode, mergePatch]
  exact decode_counts (lookup_merge_set hnodup _ rfl (replaces_int _))
    (lookup_merge_set hnodup _ rfl (replaces_int _))
    (lookup_merge_set hnodup _ rfl (replaces_int _))
    (lookup_merge_set hnodup _ rfl (replaces_int _))
    (lookup_merge_set hnodup _ rfl (replaces_int _))

theorem lookup_mergedVolumes (s : Status) (target : Members) :
    ∃ old, (mergeMembers (written s.fields) target).lookup "volumes" =
      some ((encode s.volumes).mergePatch old) := by
  have hvolumes : (s.fields.lookup "volumes").join = some (encode s.volumes) := rfl
  refine ⟨(target.lookup "volumes").getD .null, ?_⟩
  rw [lookup_mergeMembers (nodup_written s.nodup_fields), lookup_written s.nodup_fields, hvolumes]
  rfl

/-- Of a merged status everything is read as it was written, but for what is not set. -/
theorem decode_mergedStatus {s : Status} {target : Members} {message : Option String}
    {generation : Option Int64}
    (hmessage : (Fields.named target).optional 1 "message" = .ok message)
    (hgeneration : (Fields.named target).optional 2 "observedGeneration" = .ok generation) :
    decode (.obj (mergeMembers (written s.fields) target)) = (.ok { s with
      message := s.message.or message
      observedGeneration := s.observedGeneration.or generation } : Decoded Status) := by
  have hnodup := s.nodup_fields
  obtain ⟨old, hvolumes⟩ := lookup_mergedVolumes s target
  refine decode_status_eq_ok_iff.2 ⟨?_, ?_, ?_, ?_, ?_, ?_⟩
  · exact Fields.withDefault_eq (lookup_merge_set hnodup _ rfl (replaces_str _)) _
  · exact Fields.optional_merge hnodup rfl replaces_str hmessage
  · exact Fields.optional_merge hnodup rfl (fun n => replaces_int _) hgeneration
  · exact Fields.withDefault_eq (lookup_merge_set hnodup _ rfl (replaces_int _)) _
  · exact (Fields.withDefault_of_lookup hvolumes _).trans (decode_mergedCounts s.volumes old)
  · exact Fields.withDefault_eq (lookup_merge_set hnodup _ rfl (replaces_arr _)) _

theorem stores_merged {s : Status} {old : Option Status} {j j' : Json} (h : Stores j old)
    (hj' : j'.get? "status" = ((Json.obj [("status", encode s)]).mergePatch j).get? "status") :
    Stores j' (some (s.over old)) := by
  rw [get?_merged] at hj'
  exact .set hj' (decode_mergedStatus h.optional.1 h.optional.2)

theorem Stores.congr {j j' : Json} {old : Option Status} (h : Stores j old)
    (hj' : j'.get? "status" = j.get? "status") : Stores j' old := by
  cases h with
  | unset h => exact .unset (hj'.trans h)
  | cleared h => exact .cleared (hj'.trans h)
  | set h hs => exact .set (hj'.trans h) hs

theorem Stores.unique {j : Json} {s t : Status} (hs : Stores j (some s)) (ht : Stores j (some t)) :
    s = t := by
  cases hs with
  | set h hs =>
    cases ht with
    | set h' ht =>
      cases h.symm.trans h'
      exact Except.ok.inj (hs.symm.trans ht)

/-- A pool is read with the status that its document stores. -/
theorem decode_pool_status {j : Json} {members : Members} {q : BufferPool}
    (h : j.get? "status" = some (.obj members)) (hq : decode j = (.ok q : Decoded BufferPool)) :
    ∃ s, decode (.obj members) = (.ok s : Decoded Status) ∧ q.status = some s := by
  cases j with
  | obj all =>
    have hfields : decode (.obj all) = (do
        return {
          metadata := ← (Fields.named all).required 0 "metadata"
          spec := ← (Fields.named all).required 1 "spec"
          status := ← (Fields.named all).nullable 2 "status" } : Decoded BufferPool) := rfl
    have hlookup : all.lookup "status" = some (.obj members) := h
    rw [hfields, Fields.nullable_eq_optional, Fields.optional_of_lookup hlookup nofun] at hq
    simp only [bind_eq_ok] at hq
    obtain ⟨_, -, _, -, status, hstatus, hq⟩ := hq
    cases hq
    cases hs : (decode (.obj members) : Decoded Status) with
    | error e =>
      rw [hs] at hstatus
      cases hstatus
    | ok s =>
      rw [hs] at hstatus
      cases hstatus
      exact ⟨s, rfl, rfl⟩
  | null | bool | int | decimal | str | arr => cases h

/-- A stored status is the one that a pool read from the document has. -/
theorem Stores.status_eq {j : Json} {s : Status} {q : BufferPool} (h : Stores j (some s))
    (hq : decode j = (.ok q : Decoded BufferPool)) : q.status = some s := by
  cases h with
  | set h hs =>
    obtain ⟨t, ht, hstatus⟩ := decode_pool_status h hq
    rw [hstatus, Except.ok.inj (hs.symm.trans ht)]

/-- After a status was merged in, a pool can only be read with the conditions of that status. -/
theorem stores_conditions {s : Status} {j j' : Json} {q : BufferPool}
    (hj' : j'.get? "status" = ((Json.obj [("status", encode s)]).mergePatch j).get? "status")
    (hq : decode j' = (.ok q : Decoded BufferPool)) :
    ∃ stored, Stores j' (some stored) ∧ stored.conditions = s.conditions := by
  rw [get?_merged] at hj'
  obtain ⟨stored, hstored, -⟩ := decode_pool_status hj' hq
  refine ⟨stored, .set hj' hstored, ?_⟩
  obtain ⟨-, -, -, -, -, hconditions⟩ := decode_status_eq_ok_iff.1 hstored
  have hwritten : (mergeMembers (written s.fields) (storedMembers j)).lookup "conditions" =
      some (encode s.conditions) := lookup_merge_set s.nodup_fields _ rfl (replaces_arr _)
  rw [Fields.withDefault_eq hwritten] at hconditions
  exact (Except.ok.inj hconditions).symm

end VolumeDrain.Pool

namespace VolumeDrain.Operator

open Api Json Manifest Pool Script

/-! ## Writing a status -/

/-- How the server answers what the operator does, with the document of the pool of a name before
and after. A merge into the pool's status that is answered without an error has been carried out on
the stored status, and the answer is the new document; nothing else changes the stored status,
though the rest of the document may be changed by others at any time. -/
inductive Keeps (ns name : String) : (act : Act) → Json → act.Reply → Json → Prop
  | merged {patch j j' : Json}
      (h : j'.get? "status" = (patch.mergePatch j).get? "status") :
      Keeps ns name (.request (.merge (placeOf BufferPool (some ns)) name true patch)) j (.ok j') j'
  | failed (patch j j' : Json) (e : ClientError) :
      Keeps ns name (.request (.merge (placeOf BufferPool (some ns)) name true patch)) j
        (.error e) j'
  | other {r : Request} (reply : Except ClientError Json) {j j' : Json}
      (hr : ∀ patch, r ≠ .merge (placeOf BufferPool (some ns)) name true patch)
      (h : j'.get? "status" = j.get? "status") : Keeps ns name (.request r) j reply j'
  | measured (m : Measurement) {j j' : Json} (h : j'.get? "status" = j.get? "status") :
      Keeps ns name (.measure m) j () j'

variable {p : BufferPool} {status : Status} {j j' : Json} {old : Option Status}

/-- A write that succeeds has merged the status into the stored one. -/
theorem merged_of_writeStatus
    (h : Yields (Keeps p.namespaceName p.name) (writeStatus p status).run j (.ok ()) j') :
    j'.get? "status" = ((Json.obj [("status", encode status)]).mergePatch j).get? "status" ∧
      ∃ q : BufferPool, decode j' = .ok q := by
  obtain ⟨x, hmerge, hx⟩ := yields_discard_iff.1 h
  rw [run_mergeStatus] at hmerge
  split at hmerge
  · obtain ⟨rfl, -⟩ := hmerge.of_done
    cases hx
  · obtain ⟨answer, hkeeps, rfl⟩ := yields_ask_iff.1 hmerge
    cases hkeeps with
    | merged hmerged =>
      refine ⟨hmerged, ?_⟩
      rw [resultOfRead] at hx
      cases hq : (decode j' : Decoded BufferPool) with
      | error e =>
        rw [hq] at hx
        cases hx
      | ok q => exact ⟨q, rfl⟩
    | failed => cases hx
    | other _ hr => exact absurd rfl (hr _)

/-- The statuses that a reconcile computes for a pool. -/
inductive Computed (now : String) (p : BufferPool) : Status → Prop
  | afterPass (replicas : Int32) (counts : StateCounts) (errors : List VolumeError) :
      Computed now p (statusAfterPass now p replicas counts errors)
  | withoutDraining : Computed now p (statusWithoutDraining now p)
  | ofFailure (reason message : String) : Computed now p (statusOfFailure now p reason message)

theorem Computed.generation_eq {now : String} (h : Computed now p status) :
    status.observedGeneration = p.metadata.generation := by
  cases h <;> rfl

/-- A computed status has no message exactly in the phases without trouble. -/
theorem Computed.message_eq_none_iff {now : String} (h : Computed now p status) :
    status.message = none ↔ status.phase = "Ready" ∨ status.phase = "Draining" := by
  cases h with
  | afterPass replicas counts errors =>
    change (phaseAfterPass counts errors).2 = none ↔
      (phaseAfterPass counts errors).1 = "Ready" ∨ (phaseAfterPass counts errors).1 = "Draining"
    rw [phaseAfterPass]
    split
    · simp
    · split
      · simp
      · split <;> simp
  | withoutDraining => simp [statusWithoutDraining]
  | ofFailure reason message => simp [statusOfFailure]

/-- Whatever was stored, a status that was written is read back as it was computed, but for a
message and a generation that it does not set: these are read back as they were stored. The status
read back is the computed one if and only if it unsets neither; of a status that is computed for a
pool with a generation this means that it reports trouble, or that there was no message before. -/
theorem status_read_back (hold : Stores j old)
    (h : Yields (Keeps p.namespaceName p.name) (writeStatus p status).run j (.ok ()) j') :
    Stores j' (some (status.over old)) ∧
      (∃ q : BufferPool, decode j' = (.ok q : Decoded BufferPool) ∧
        q.status = some (status.over old)) ∧
      (status.over old = status ↔ (status.message = none → old.bind Status.message = none) ∧
        (status.observedGeneration = none → old.bind Status.observedGeneration = none)) ∧
      ∀ now, Computed now p status → p.metadata.generation ≠ none →
        (status.over old = status ↔
          (status.phase = "Ready" ∨ status.phase = "Draining" →
            old.bind Status.message = none)) := by
  obtain ⟨hmerged, q, hq⟩ := merged_of_writeStatus h
  have hstores := stores_merged hold hmerged
  refine ⟨hstores, ⟨q, hq, hstores.status_eq hq⟩, Status.over_eq_iff, fun now hcomputed hgen => ?_⟩
  rw [Status.over_eq_iff, hcomputed.message_eq_none_iff, and_iff_left]
  intro hnone
  exact absurd (hcomputed.generation_eq ▸ hnone) hgen

/-! ## A message that stays -/

theorem yields_writeStatus (hname : p.name.isEmpty = false)
    (h : ∃ q, decode ((Json.obj [("status", encode status)]).mergePatch j) =
      (.ok q : Decoded BufferPool)) :
    Yields (Keeps p.namespaceName p.name) (writeStatus p status).run j (.ok ())
      ((Json.obj [("status", encode status)]).mergePatch j) := by
  obtain ⟨q, hq⟩ := h
  refine yields_discard_iff.2 ⟨.ok q, ?_, rfl⟩
  rw [run_mergeStatus, hname]
  exact yields_ask_iff.2 ⟨.ok _, .merged rfl, by rw [resultOfRead, hq]; rfl⟩

/-- The status of a pool that was refused. -/
def refusedStatus : Status :=
  statusOfFailure "2026-01-01T00:00:00Z" (.ofSpec "logs" { replicas := -1 }) "InvalidSpec"
    "spec.replicas: replicas must not be negative"

/-- The pool `logs` after its number of workers was put right. -/
def logsRepaired : BufferPool :=
  { BufferPool.ofSpec "logs" {} with status := some refusedStatus }

/-- The status that the next reconcile computes. -/
def repairedStatus : Status := statusWithoutDraining "2026-01-01T00:01:00Z" logsRepaired

/-- The stored document before that reconcile. -/
def logsDocument : Json := encode logsRepaired

/-- The stored document after it. -/
def logsPatched : Json := (Json.obj [("status", encode repairedStatus)]).mergePatch logsDocument

theorem decodes_logsPatched : ∃ q, decode logsPatched = (.ok q : Decoded BufferPool) :=
  ok_of_isSome (by decide +kernel)

theorem stores_logsDocument : Stores logsDocument (some refusedStatus) := by
  have hencoded : logsDocument.get? "status" = some (encode refusedStatus) := rfl
  exact .set hencoded (decode_encode refusedStatus)

theorem yields_logsPatched :
    Yields (Keeps logsRepaired.namespaceName logsRepaired.name)
      (writeStatus logsRepaired repairedStatus).run logsDocument (.ok ()) logsPatched :=
  yields_writeStatus (by decide) decodes_logsPatched

/-- The refused pool's message is read back from the status of the repaired one. -/
theorem status_read_back_logs :
    Stores logsPatched (some { repairedStatus with message := refusedStatus.message }) ∧
      repairedStatus.over (some refusedStatus) ≠ repairedStatus := by
  obtain ⟨hstores, -, hiff, -⟩ := status_read_back stores_logsDocument yields_logsPatched
  exact ⟨hstores, fun heq => nomatch (hiff.1 heq).1 rfl⟩

/-- Not every status that was computed and written is the one read back: the message of the refused
pool stays when its status is written over. -/
theorem message_outlasts_write :
    ¬ ∀ (now : String) (p : BufferPool) (status : Status) (j j' : Json) (old : Option Status),
      Computed now p status → Stores j old →
      Yields (Keeps p.namespaceName p.name) (writeStatus p status).run j (.ok ()) j' →
      Stores j' (some status) := by
  intro hall
  have hread := hall _ _ _ _ _ _ (.withoutDraining) stores_logsDocument yields_logsPatched
  have hstored : Stores logsPatched (some (repairedStatus.over (some refusedStatus))) :=
    stores_merged stores_logsDocument rfl
  have hsame := hstored.unique hread
  have hmessage := congrArg Status.message hsame
  cases hmessage

end VolumeDrain.Operator
