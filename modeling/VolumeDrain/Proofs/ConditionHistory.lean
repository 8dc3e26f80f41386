import Mathlib.Data.List.Induction
import Mathlib.Data.List.Nodup
import VolumeDrain.Proofs.Justification
import VolumeDrain.Proofs.Readiness
import VolumeDrain.Proofs.StatusWrites

/-!
# The conditions of a pool over time

Each status is computed from the conditions of the last one. Over any number of computations there
stays one condition of each type, and a condition is dated by the computation in which its value
last changed or in which it was last added. The statements are about the conditions as they are
computed; that a status is read back with the conditions that were written is shown where documents
are merged.
-/
namespace VolumeDrain.Pool

/-- The types of conditions, in their order. -/
def typesOf (conditions : List Condition) : List String := conditions.map Condition.type

/-- The status value of the condition of a type, where there is one. -/
def valueOf? (type : String) (conditions : List Condition) : Option String :=
  (conditionOf? type conditions).map Condition.status

/-- What an update makes of the condition of its type. -/
def ConditionUpdate.set (u : ConditionUpdate) (now : String) : Option Condition → Condition
  | some c => u.applyTo now c
  | none => u.fresh now

variable {now : String} {u : ConditionUpdate} {type : String} {c : Condition}
  {conditions : List Condition}

/-! ## One update -/

theorem conditionOf?_cons (type : String) (c : Condition) (rest : List Condition) :
    conditionOf? type (c :: rest) = if c.type = type then some c else conditionOf? type rest := by
  by_cases h : c.type = type <;> simp [conditionOf?, h]

theorem conditionOf?_updateConditions (now : String) (u : ConditionUpdate) (type : String)
    (conditions : List Condition) :
    conditionOf? type (updateConditions now u conditions) =
      if u.type = type then some (u.set now (conditionOf? type conditions))
      else conditionOf? type conditions := by
  induction conditions with
  | nil =>
    rw [updateConditions, conditionOf?_cons]
    rfl
  | cons c rest ih =>
    rw [updateConditions]
    by_cases hsame : c.type = u.type
    · have happlied : (u.applyTo now c).type = c.type := rfl
      rw [if_pos hsame, conditionOf?_cons, conditionOf?_cons, happlied, hsame]
      by_cases hu : u.type = type
      · rw [if_pos hu, if_pos hu, if_pos hu]
        rfl
      · rw [if_neg hu, if_neg hu, if_neg hu]
    · rw [if_neg hsame, conditionOf?_cons, conditionOf?_cons, ih]
      by_cases hc : c.type = type
      · have hu : u.type ≠ type := fun hu => hsame (hc.trans hu.symm)
        rw [if_pos hc, if_pos hc, if_neg hu]
      · rw [if_neg hc, if_neg hc]

/-- An update adds its type at the end where there is no condition of it yet. -/
theorem typesOf_updateConditions (now : String) (u : ConditionUpdate)
    (conditions : List Condition) :
    typesOf (updateConditions now u conditions) =
      if u.type ∈ typesOf conditions then typesOf conditions
      else typesOf conditions ++ [u.type] := by
  induction conditions with
  | nil => rfl
  | cons c rest ih =>
    have hcons : typesOf (c :: rest) = c.type :: typesOf rest := rfl
    rw [updateConditions, hcons]
    by_cases hsame : c.type = u.type
    · rw [if_pos hsame, if_pos (hsame ▸ List.mem_cons_self)]
      rfl
    · have hmem : u.type ∈ c.type :: typesOf rest ↔ u.type ∈ typesOf rest := by
        simp [List.mem_cons, Ne.symm hsame]
      have hrest : typesOf (c :: updateConditions now u rest) =
          c.type :: typesOf (updateConditions now u rest) := rfl
      rw [if_neg hsame, hrest, ih]
      by_cases hu : u.type ∈ typesOf rest
      · rw [if_pos hu, if_pos (hmem.2 hu)]
      · rw [if_neg hu, if_neg (mt hmem.1 hu), List.cons_append]

theorem nodup_updateConditions (h : (typesOf conditions).Nodup) :
    (typesOf (updateConditions now u conditions)).Nodup := by
  rw [typesOf_updateConditions]
  by_cases hu : u.type ∈ typesOf conditions
  · rwa [if_pos hu]
  · rw [if_neg hu]
    exact List.Nodup.append h (List.nodup_singleton _) (List.disjoint_singleton.2 hu)

/-- An update leaves the conditions of other types where and as they are. -/
theorem getElem?_updateConditions (hc : u.type ≠ c.type) (i : Nat) :
    (updateConditions now u conditions)[i]? = some c ↔ conditions[i]? = some c := by
  have hfresh : u.fresh now ≠ c := fun h => hc (congrArg Condition.type h)
  induction conditions generalizing i with
  | nil => cases i <;> simp [updateConditions, hfresh]
  | cons d rest ih =>
    rw [updateConditions]
    by_cases hsame : d.type = u.type
    · have happlied : u.applyTo now d ≠ c := by
        intro h
        have htype : (u.applyTo now d).type = c.type := congrArg Condition.type h
        exact hc (hsame.symm.trans htype)
      have hd : d ≠ c := by
        rintro rfl
        exact hc hsame.symm
      rw [if_pos hsame]
      cases i <;> simp [happlied, hd]
    · rw [if_neg hsame]
      cases i with
      | zero => simp
      | succ i => exact ih i

/-! ## Conditions that are carried on -/

/-- The types of the conditions that the operator sets. -/
def managedTypes : List String :=
  [Condition.readyType, Condition.drainingType, Condition.drainFailedType]

/-- No condition is removed or moved, and those that the operator does not set are as they were. -/
structure CarriedOn (old new : List Condition) : Prop where
  types : typesOf old <+: typesOf new
  foreign : ∀ c, c.type ∉ managedTypes → ∀ i : Nat, new[i]? = some c ↔ old[i]? = some c

theorem CarriedOn.refl (conditions : List Condition) : CarriedOn conditions conditions :=
  ⟨List.prefix_rfl, fun _ _ _ => .rfl⟩

theorem CarriedOn.trans {old mid new : List Condition} (h : CarriedOn old mid)
    (h' : CarriedOn mid new) : CarriedOn old new :=
  ⟨h.types.trans h'.types, fun c hc i => (h'.foreign c hc i).trans (h.foreign c hc i)⟩

theorem carriedOn_updateConditions (hu : u.type ∈ managedTypes) :
    CarriedOn conditions (updateConditions now u conditions) := by
  refine ⟨?_, fun c hc i => getElem?_updateConditions (fun h => hc (h ▸ hu)) i⟩
  rw [typesOf_updateConditions]
  split
  · exact List.prefix_rfl
  · exact List.prefix_append _ _

/-! ## Several updates -/

/-- Applies updates one after another. -/
def updateAll (now : String) (updates : List ConditionUpdate) (conditions : List Condition) :
    List Condition :=
  updates.foldl (fun conditions u => updateConditions now u conditions) conditions

theorem nodup_updateAll (updates : List ConditionUpdate) (h : (typesOf conditions).Nodup) :
    (typesOf (updateAll now updates conditions)).Nodup := by
  induction updates generalizing conditions with
  | nil => exact h
  | cons u rest ih => exact ih (nodup_updateConditions h)

theorem carriedOn_updateAll {updates : List ConditionUpdate}
    (h : ∀ u ∈ updates, u.type ∈ managedTypes) :
    CarriedOn conditions (updateAll now updates conditions) := by
  induction updates generalizing conditions with
  | nil => exact .refl conditions
  | cons u rest ih =>
    obtain ⟨hu, hrest⟩ := List.forall_mem_cons.1 h
    exact (carriedOn_updateConditions hu).trans (ih hrest)

theorem conditionOf?_updateAll_of_notMem {updates : List ConditionUpdate}
    (h : ∀ u ∈ updates, u.type ≠ type) :
    conditionOf? type (updateAll now updates conditions) = conditionOf? type conditions := by
  induction updates generalizing conditions with
  | nil => rfl
  | cons u rest ih =>
    obtain ⟨hu, hrest⟩ := List.forall_mem_cons.1 h
    have hone := conditionOf?_updateConditions now u type conditions
    rw [if_neg hu] at hone
    exact (ih hrest).trans hone

/-- Of updates to different types each sets the condition of its type once. -/
theorem conditionOf?_updateAll {updates : List ConditionUpdate}
    (hdistinct : (updates.map ConditionUpdate.type).Nodup) (hu : u ∈ updates) :
    conditionOf? u.type (updateAll now updates conditions) =
      some (u.set now (conditionOf? u.type conditions)) := by
  induction updates generalizing conditions with
  | nil => cases hu
  | cons v rest ih =>
    obtain ⟨hv, hrest⟩ := List.nodup_cons.1 hdistinct
    have hother : ∀ w ∈ rest, w.type ≠ v.type := fun w hw h =>
      hv (h ▸ List.mem_map_of_mem hw)
    have hone := conditionOf?_updateConditions now v u.type conditions
    rcases List.mem_cons.1 hu with rfl | hmem
    · rw [if_pos rfl] at hone
      exact (conditionOf?_updateAll_of_notMem hother).trans hone
    · rw [if_neg (Ne.symm (hother u hmem))] at hone
      have hlast : conditionOf? u.type (updateAll now rest (updateConditions now v conditions)) =
          some (u.set now (conditionOf? u.type (updateConditions now v conditions))) :=
        ih hrest hmem
      rwa [hone] at hlast

/-! ## The conditions of one type -/

theorem conditionOf?_filter_self (type : String) (conditions : List Condition) :
    conditionOf? type (conditions.filter fun c => c.type == type) =
      conditionOf? type conditions := by
  simp [conditionOf?, List.find?_filter, beq_eq_decide]

theorem conditionOf?_filter_ne {other : String} (h : other ≠ type) (conditions : List Condition) :
    conditionOf? type (conditions.filter fun c => c.type == other) = none := by
  have hne : ∀ c ∈ conditions, (c.type == other) = true → ¬ (c.type == type) = true := by
    intro c _ hc htype
    exact h ((beq_iff_eq.1 hc).symm.trans (beq_iff_eq.1 htype))
  simpa [conditionOf?] using hne

/-- With the conditions of other types removed first, an update leaves one condition. -/
theorem typesOf_update_filter (h : (typesOf conditions).Nodup) :
    typesOf (updateConditions now u (conditions.filter fun c => c.type == u.type)) =
      [u.type] := by
  let kept := conditions.filter fun c => c.type == u.type
  have hall : ∀ t ∈ typesOf kept, t = u.type := by
    intro t ht
    obtain ⟨c, hc, rfl⟩ := List.mem_map.1 ht
    exact beq_iff_eq.1 (List.mem_filter.1 hc).2
  have hsub : (typesOf kept).Nodup := h.sublist (List.filter_sublist.map _)
  have hreplicate : typesOf kept = List.replicate (typesOf kept).length u.type :=
    List.eq_replicate_of_mem hall
  have hlength : (typesOf kept).length ≤ 1 := by
    rw [hreplicate] at hsub
    exact List.nodup_replicate.1 hsub
  change typesOf (updateConditions now u kept) = [u.type]
  rw [typesOf_updateConditions]
  by_cases hnone : (typesOf kept).length = 0
  · have hnil : typesOf kept = [] := List.eq_nil_of_length_eq_zero hnone
    rw [hnil]
    rfl
  · have hone : (typesOf kept).length = 1 := by omega
    rw [hone] at hreplicate
    rw [hreplicate]
    simp

/-! ## The date of a condition -/

/-- What one computation can make of the condition of a type. -/
inductive Moved (now : String) : Option Condition → Option Condition → Prop
  | kept (old : Option Condition) : Moved now old old
  | updated (u : ConditionUpdate) (old : Option Condition) : Moved now old (some (u.set now old))
  | removed (old : Option Condition) : Moved now old none

/-- A condition keeps its date where it keeps its value, and otherwise has the present one. -/
theorem Moved.dated {old : Option Condition} (h : Moved now old (some c)) :
    (∃ c₀, old = some c₀ ∧ c₀.status = c.status ∧ c.lastTransitionTime = c₀.lastTransitionTime) ∨
      (old.map Condition.status ≠ some c.status ∧ c.lastTransitionTime = now) := by
  generalize hnew : some c = new at h
  cases h with
  | kept =>
    subst hnew
    exact .inl ⟨c, rfl, rfl, rfl⟩
  | updated u =>
    cases hnew
    cases old with
    | none => exact .inr ⟨nofun, rfl⟩
    | some c₀ =>
      have hstatus : (u.set now (some c₀)).status = Condition.statusText u.holds := rfl
      have hdate : (u.set now (some c₀)).lastTransitionTime =
        if c₀.status = Condition.statusText u.holds then c₀.lastTransitionTime else now := rfl
      by_cases hsame : c₀.status = Condition.statusText u.holds
      · rw [if_pos hsame] at hdate
        exact .inl ⟨c₀, rfl, hsame, hdate⟩
      · rw [if_neg hsame] at hdate
        refine .inr ⟨?_, hdate⟩
        rw [hstatus]
        simpa using hsame
  | removed => cases hnew

end VolumeDrain.Pool

namespace VolumeDrain.Operator

open Drain Manifest Pool Script

variable {now : String} {p : BufferPool} {status : Status}

/-! ## One computation -/

theorem lastConditions_eq (p : BufferPool) : (p.status.getD {}).conditions = lastConditions p := by
  rw [lastConditions]
  cases p.status <;> rfl

theorem type_readyAfterPass (p : BufferPool) (errors : List VolumeError) :
    (readyAfterPass p errors).type = Condition.readyType := by
  rw [readyAfterPass]
  split <;> rfl

/-- What a status after a pass sets. -/
def updatesAfterPass (p : BufferPool) (counts : StateCounts) (errors : List VolumeError) :
    List ConditionUpdate :=
  [readyAfterPass p errors, drainingAfterPass p counts, drainFailedAfterPass p counts]

theorem types_updatesAfterPass (p : BufferPool) (counts : StateCounts)
    (errors : List VolumeError) :
    (updatesAfterPass p counts errors).map ConditionUpdate.type = managedTypes := by
  rw [updatesAfterPass, List.map_cons, type_readyAfterPass]
  rfl

/-- A status after a pass or after a failure. Draining is on in both. -/
inductive WithDraining (now : String) (p : BufferPool) : Status → Prop
  | afterPass (replicas : Int32) (counts : StateCounts) (errors : List VolumeError) :
      WithDraining now p (statusAfterPass now p replicas counts errors)
  | ofFailure (reason message : String) :
      WithDraining now p (statusOfFailure now p reason message)

/-- Such a status sets conditions of different types, and these are the operator's. -/
theorem WithDraining.updates (h : WithDraining now p status) :
    ∃ updates : List ConditionUpdate, (updates.map ConditionUpdate.type).Nodup ∧
      (∀ u ∈ updates, u.type ∈ managedTypes) ∧
      status.conditions = updateAll now updates (lastConditions p) := by
  cases h with
  | afterPass replicas counts errors =>
    have htypes := types_updatesAfterPass p counts errors
    refine ⟨updatesAfterPass p counts errors, ?_, fun u hu => ?_, rfl⟩
    · rw [htypes]
      decide
    · rw [← htypes]
      exact List.mem_map_of_mem hu
  | ofFailure reason message =>
    let u : ConditionUpdate :=
      { type := Condition.readyType, holds := false, reason, message,
        generation := p.metadata.generation }
    refine ⟨[u], List.nodup_singleton _, fun v hv => ?_, ?_⟩
    · cases List.mem_singleton.1 hv
      exact List.mem_cons_self
    · show updateConditions now u (p.status.getD {}).conditions = _
      rw [lastConditions_eq]
      rfl

theorem WithDraining.carriedOn (h : WithDraining now p status) :
    CarriedOn (lastConditions p) status.conditions := by
  obtain ⟨updates, -, hmanaged, hconditions⟩ := h.updates
  rw [hconditions]
  exact carriedOn_updateAll hmanaged

theorem WithDraining.nodup_types (h : WithDraining now p status)
    (hlast : (typesOf (lastConditions p)).Nodup) : (typesOf status.conditions).Nodup := by
  obtain ⟨updates, -, -, hconditions⟩ := h.updates
  rw [hconditions]
  exact nodup_updateAll updates hlast

theorem WithDraining.moved (h : WithDraining now p status) (type : String) :
    Moved now (conditionOf? type (lastConditions p)) (conditionOf? type status.conditions) := by
  obtain ⟨updates, hdistinct, -, hconditions⟩ := h.updates
  rw [hconditions]
  by_cases hu : ∃ u ∈ updates, u.type = type
  · obtain ⟨u, hmem, rfl⟩ := hu
    rw [conditionOf?_updateAll hdistinct hmem]
    exact .updated u _
  · have hnone : ∀ u ∈ updates, u.type ≠ type := fun u hmem htype => hu ⟨u, hmem, htype⟩
    rw [conditionOf?_updateAll_of_notMem hnone]
    exact .kept _

/-- While draining is off there is the ready condition and no other. -/
theorem types_statusWithoutDraining (hlast : (typesOf (lastConditions p)).Nodup) :
    typesOf (statusWithoutDraining now p).conditions = [Condition.readyType] :=
  typesOf_update_filter hlast

theorem moved_statusWithoutDraining (now : String) (p : BufferPool) (type : String) :
    Moved now (conditionOf? type (lastConditions p))
      (conditionOf? type (statusWithoutDraining now p).conditions) := by
  rw [statusWithoutDraining, conditionOf?_updateConditions]
  by_cases htype : Condition.readyType = type
  · subst htype
    rw [if_pos rfl, conditionOf?_filter_self]
    exact .updated _ _
  · rw [if_neg htype, conditionOf?_filter_ne htype]
    exact .removed _

theorem Computed.cases (h : Computed now p status) :
    WithDraining now p status ∨ status = statusWithoutDraining now p := by
  cases h with
  | afterPass replicas counts errors => exact .inl (.afterPass replicas counts errors)
  | withoutDraining => exact .inr rfl
  | ofFailure reason message => exact .inl (.ofFailure reason message)

theorem Computed.nodup_types (h : Computed now p status)
    (hlast : (typesOf (lastConditions p)).Nodup) : (typesOf status.conditions).Nodup := by
  rcases h.cases with hdraining | rfl
  · exact hdraining.nodup_types hlast
  · rw [types_statusWithoutDraining hlast]
    exact List.nodup_singleton _

theorem Computed.moved (h : Computed now p status) (type : String) :
    Moved now (conditionOf? type (lastConditions p)) (conditionOf? type status.conditions) := by
  rcases h.cases with hdraining | rfl
  · exact hdraining.moved type
  · exact moved_statusWithoutDraining now p type

section

variable {now : Instant} {settings : Settings} {calls : List ClusterExchange} {q : BufferPool}
  {reply : Except OperatorError Unit} {result : Except OperatorError Delay}

/-- A write after calls that write no status is the only one. -/
theorem eq_of_mem_write {written : Status} {r : Except OperatorError Unit}
    (hbefore : ∀ e ∈ calls, e.question.SparesStatus)
    (hmem : ⟨.writeStatus q status, reply⟩ ∈ calls ++ [⟨.writeStatus p written, r⟩]) :
    q = p ∧ status = written := by
  rcases List.mem_append.1 hmem with hmem | hmem
  · exact (hbefore _ hmem).elim
  · cases List.mem_singleton.1 hmem
    exact ⟨rfl, rfl⟩

theorem Ending.computed (h : Ending now settings p calls result)
    (hmem : ⟨.writeStatus q status, reply⟩ ∈ calls) :
    q = p ∧ Computed now.fullText p status := by
  cases h with
  | standby => cases hmem
  | refused =>
    obtain ⟨rfl, rfl⟩ := eq_of_mem_write (List.forall_mem_nil _) hmem
    exact ⟨rfl, .ofFailure _ _⟩
  | serviceFailed => cases List.mem_singleton.1 hmem
  | unbuilt => cases List.mem_singleton.1 hmem
  | workersFailed =>
    rcases List.mem_cons.1 hmem with hmem | hmem
    · cases hmem
    · cases List.mem_singleton.1 hmem
  | withoutDraining =>
    obtain ⟨rfl, rfl⟩ := eq_of_mem_write sparesStatus_applied hmem
    exact ⟨rfl, .withoutDraining⟩
  | unobserved =>
    obtain ⟨rfl, rfl⟩ := eq_of_mem_write sparesStatus_observed hmem
    exact ⟨rfl, .ofFailure _ _⟩
  | @passed set t outcome told _ _ _ _ _ htold =>
    have htells := (tells_announce now p outcome).of_exchanges htold
    have hbefore : ∀ e ∈ applied p set ++ t.map onStore ++ told, e.question.SparesStatus :=
      List.forall_mem_append.2 ⟨sparesStatus_observed, fun e he => (htells e he).sparesStatus⟩
    obtain ⟨rfl, rfl⟩ := eq_of_mem_write hbefore hmem
    exact ⟨rfl, .afterPass _ _ _⟩

/-- Whatever status a reconcile writes, it has computed for the pool as it read it. -/
theorem computed_of_reconcile
    (h : Exchanges (reconcilePlan now settings p) calls (.done result))
    (hmem : ⟨.writeStatus q status, reply⟩ ∈ calls) :
    q = p ∧ Computed now.fullText p status := by
  obtain ⟨u, rfl, hending⟩ := ending_of_reconcilePlan h
  rcases List.mem_append.1 hmem with hmem | hmem
  · exact hending.computed hmem
  · exact (sparesStatus_counted _ hmem).elim

end

/-! ## One computation after another -/

/-- A status that was computed: when, for the pool as it was read, and what came of it. -/
structure StatusRecord where
  time : String
  pool : BufferPool
  status : Status

/-- The conditions after these computations. -/
def conditionsAfter (start : List Condition) (records : List StatusRecord) : List Condition :=
  match records.getLast? with
  | some r => r.status.conditions
  | none => start

@[simp]
theorem conditionsAfter_concat (start : List Condition) (records : List StatusRecord)
    (r : StatusRecord) : conditionsAfter start (records ++ [r]) = r.status.conditions := by
  simp [conditionsAfter]

/-- Statuses are computed one after another, each from the conditions that the one before has left.
A pool that has no status yet starts without conditions. -/
inductive Computes (start : List Condition) : List StatusRecord → Prop
  | started : Computes start []
  | computed {records : List StatusRecord} {now : String} {p : BufferPool} {status : Status}
      (h : Computes start records) (hread : lastConditions p = conditionsAfter start records)
      (hstatus : Computed now p status) : Computes start (records ++ [⟨now, p, status⟩])

/-- Since when a condition has had its value: since the computation in which the value last changed
or the condition was last added, or from the start where neither has happened. -/
inductive DatedBy (start : List Condition) (records : List StatusRecord) (type : String)
    (c : Condition) : Prop
  | changed (before : List StatusRecord) (r : StatusRecord) (after : List StatusRecord)
      (hrecords : records = before ++ r :: after)
      (hchange : valueOf? type r.status.conditions ≠ valueOf? type (conditionsAfter start before))
      (hsince : ∀ s ∈ r :: after, valueOf? type s.status.conditions = some c.status)
      (hdate : c.lastTransitionTime = r.time)
  | unchanged {c₀ : Condition} (hstart : conditionOf? type start = some c₀)
      (hvalue : c₀.status = c.status)
      (hsince : ∀ s ∈ records, valueOf? type s.status.conditions = some c.status)
      (hdate : c.lastTransitionTime = c₀.lastTransitionTime)

variable {start : List Condition} {records before after : List StatusRecord} {r : StatusRecord}
  {type : String} {c c₀ : Condition}

theorem valueOf?_of_conditionOf? {conditions : List Condition}
    (h : conditionOf? type conditions = some c) : valueOf? type conditions = some c.status := by
  rw [valueOf?, h]
  rfl

/-- A computation that keeps the value keeps the date, and what dated the condition still does. -/
theorem DatedBy.kept (h : DatedBy start records type c₀)
    (hc : conditionOf? type r.status.conditions = some c) (hstatus : c₀.status = c.status)
    (hdate : c.lastTransitionTime = c₀.lastTransitionTime) :
    DatedBy start (records ++ [r]) type c := by
  have hlatest : ∀ s ∈ [r], valueOf? type s.status.conditions = some c.status :=
    List.forall_mem_singleton.2 (valueOf?_of_conditionOf? hc)
  cases h with
  | changed before s after hrecords hchange hsince hdate₀ =>
    rw [hstatus] at hsince
    refine .changed before s (after ++ [r]) ?_ hchange ?_ (hdate.trans hdate₀)
    · rw [hrecords, List.append_assoc, List.cons_append]
    · rw [← List.cons_append]
      exact List.forall_mem_append.2 ⟨hsince, hlatest⟩
  | unchanged hstart hvalue hsince hdate₀ =>
    rw [hstatus] at hsince
    exact .unchanged hstart (hvalue.trans hstatus) (List.forall_mem_append.2 ⟨hsince, hlatest⟩)
      (hdate.trans hdate₀)

theorem Computes.dated (h : Computes start records)
    (hc : conditionOf? type (conditionsAfter start records) = some c) :
    DatedBy start records type c := by
  induction h generalizing c with
  | started => exact .unchanged hc rfl (List.forall_mem_nil _) rfl
  | @computed records now p status _ hread hstatus ih =>
    rw [conditionsAfter_concat] at hc
    have hmoved := hstatus.moved type
    rw [hc, hread] at hmoved
    rcases hmoved.dated with ⟨c₀, hold, hvalue, hdate⟩ | ⟨hchange, hdate⟩
    · exact (ih hold).kept hc hvalue hdate
    · have hvalue := valueOf?_of_conditionOf? hc
      refine .changed records _ [] rfl ?_ ?_ hdate
      · rw [hvalue]
        exact Ne.symm hchange
      · exact List.forall_mem_singleton.2 hvalue

theorem Computes.nodup_types (h : Computes start records) (hstart : (typesOf start).Nodup) :
    (typesOf (conditionsAfter start records)).Nodup := by
  induction h with
  | started => exact hstart
  | computed _ hread hstatus ih =>
    rw [conditionsAfter_concat]
    exact hstatus.nodup_types (hread ▸ ih)

/-- The last computation, and what went before it. -/
theorem Computes.last (h : Computes start (before ++ [r])) :
    Computes start before ∧ lastConditions r.pool = conditionsAfter start before ∧
      Computed r.time r.pool r.status := by
  generalize hrecords : before ++ [r] = records at h
  cases h with
  | started => simp at hrecords
  | computed h hread hstatus =>
    obtain ⟨rfl, hr⟩ := List.append_inj' hrecords rfl
    cases hr
    exact ⟨h, hread, hstatus⟩

theorem Computes.of_append (h : Computes start (before ++ after)) : Computes start before := by
  induction after using List.reverseRecOn with
  | nil => simpa using h
  | append_singleton after r ih =>
    rw [← List.append_assoc] at h
    exact ih h.last.1

/-- What a computed status has for conditions, given what went before it. -/
structure Conditioned (start : List Condition) (before : List StatusRecord) (r : StatusRecord) :
    Prop where
  distinct : (typesOf r.status.conditions).Nodup
  dated : ∀ type c, conditionOf? type r.status.conditions = some c →
    DatedBy start (before ++ [r]) type c
  carriedOn : WithDraining r.time r.pool r.status →
    CarriedOn (conditionsAfter start before) r.status.conditions
  removes : (∃ type ∈ typesOf (conditionsAfter start before), type ∉ typesOf r.status.conditions) →
    r.status = statusWithoutDraining r.time r.pool
  keeps : r.status = statusWithoutDraining r.time r.pool →
    typesOf r.status.conditions = [Condition.readyType]

/-- Whatever statuses are computed one after another, each has one condition of each type. A
condition has the date of the computation in which its value last changed or in which it was last
added, and the one it started with where there was none. A status after a pass or a failure carries
on all conditions in their places, and those that the operator does not set as they are; only the
status without draining removes conditions, and it removes all but the ready one. -/
theorem conditions_over_history (h : Computes start records) (hstart : (typesOf start).Nodup)
    (hrecords : records = before ++ r :: after) : Conditioned start before r := by
  have hsplit : before ++ r :: after = before ++ [r] ++ after := by simp
  rw [hrecords, hsplit] at h
  have hpast : Computes start (before ++ [r]) := h.of_append
  obtain ⟨hbefore, hread, hcomputed⟩ := hpast.last
  have hnodup : (typesOf (lastConditions r.pool)).Nodup := by
    rw [hread]
    exact hbefore.nodup_types hstart
  have hcarried : WithDraining r.time r.pool r.status →
      CarriedOn (conditionsAfter start before) r.status.conditions := by
    intro hdraining
    rw [← hread]
    exact hdraining.carriedOn
  refine ⟨hcomputed.nodup_types hnodup, fun type c hc => ?_, hcarried, ?_, ?_⟩
  · apply hpast.dated
    rwa [conditionsAfter_concat]
  · rintro ⟨type, hmem, hgone⟩
    rcases hcomputed.cases with hdraining | hidle
    · exact absurd ((hcarried hdraining).types.subset hmem) hgone
    · exact hidle
  · intro hidle
    rw [hidle]
    exact types_statusWithoutDraining hnodup

/-! ## A pass and then a failure -/

/-- The status of the pool `logs` after a pass that has found one volume being drained. -/
def drainingStatus : Status :=
  statusAfterPass "2026-01-01T00:00:00+00:00" logsPool 3 { inUse := 3, draining := 1 } []

/-- The pool as it is read for the next reconcile. -/
def logsDrainingPool : BufferPool := { logsPool with status := some drainingStatus }

/-- The status of a reconcile that could not list the volumes of the pool. -/
def unobservedStatus : Status :=
  statusOfFailure "2026-01-01T00:01:00+00:00" logsDrainingPool "ObservationFailed" "timeout"

/-- The second status dates the change of the ready condition, and keeps the others' dates. -/
theorem conditions_over_history_logs :
    Conditioned [] [⟨"2026-01-01T00:00:00+00:00", logsPool, drainingStatus⟩]
      ⟨"2026-01-01T00:01:00+00:00", logsDrainingPool, unobservedStatus⟩ ∧
    unobservedStatus.conditions.map (fun c => (c.type, c.status, c.lastTransitionTime)) =
      [("Ready", "False", "2026-01-01T00:01:00+00:00"),
       ("Draining", "True", "2026-01-01T00:00:00+00:00"),
       ("DrainFailed", "False", "2026-01-01T00:00:00+00:00")] := by
  have hfirst : Computes [] ([] ++ [⟨"2026-01-01T00:00:00+00:00", logsPool, drainingStatus⟩]) :=
    .computed .started rfl (.afterPass _ _ _)
  have hsecond : Computes [] ([⟨"2026-01-01T00:00:00+00:00", logsPool, drainingStatus⟩] ++
      [⟨"2026-01-01T00:01:00+00:00", logsDrainingPool, unobservedStatus⟩]) :=
    .computed hfirst rfl (.ofFailure _ _)
  exact ⟨conditions_over_history hsecond List.nodup_nil rfl, by decide⟩

end VolumeDrain.Operator
