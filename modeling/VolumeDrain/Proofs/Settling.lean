import VolumeDrain.Api.Cluster
import VolumeDrain.Proofs.Answers
import VolumeDrain.Proofs.ClientSteps
import VolumeDrain.Proofs.Objects

/-!
# Settling a placeholder

To settle a placeholder takes more than one request, and the controller of the stateful set may make
workers before any of them. What each write of a pod finds under the pod's name is recorded here:
where the controller leaves the name alone, a placeholder is written only where its first request
found no pod or one that is not being deleted, and that is what the write finds.
-/
namespace VolumeDrain.Api

open Manifest Drain Script

/-! ## Pods that are served -/

/-- The pods of a namespace by name. Each write of a pod so far is recorded with the pod's name and
what was stored under it. -/
structure PodStore where
  pods : KeyMap Pod := ∅
  writes : List (String × Option Pod) := []

/-- The controller of the pool's stateful set makes workers for ordinals below a number, where their
names are free. -/
inductive Staffs (p : BufferPool) (n : Int32) : PodStore → PodStore → Prop
  | idle (w : PodStore) : Staffs p n w w
  | start {w w' : PodStore} {i : Nat} {pod : Pod} (h : Staffs p n w w')
      (hi : (i : Int) < n.toInt) (hfree : w'.pods.get? (p.placeholderName i) = none)
      (hworks : Works p i pod) :
      Staffs p n w { w' with pods := w'.pods.insert (p.placeholderName i) pod }

/-- How the server answers a request for a pod. A write that is carried out may leave any pod under
its name, and its answer may be lost; what is not read may also be refused. -/
inductive Serves (ns : String) : (act : Act) → PodStore → act.Reply → PodStore → Prop
  | found {w : PodStore} {name : String} {pod : Pod} {j : Json}
      (h : w.pods.get? name = some pod) (hj : decode j = (.ok pod : Decoded Pod)) :
      Serves ns (.request (.get (placeOf Pod (some ns)) name)) w (.ok j) w
  | missing {w : PodStore} {name : String} (h : w.pods.get? name = none) (e : ClientError) :
      Serves ns (.request (.get (placeOf Pod (some ns)) name)) w (.error e) w
  | unread {e : ClientError} (w : PodStore) (name : String)
      (he : ∀ response, e = .api response → response.reason ≠ "NotFound") :
      Serves ns (.request (.get (placeOf Pod (some ns)) name)) w (.error e) w
  | created {w : PodStore} {name : String} {object : Json}
      (hname : object.textAt? ["metadata", "name"] = some name) (hfree : w.pods.get? name = none)
      (pod : Pod) (reply : Except ClientError Json) :
      Serves ns (.request (.create (placeOf Pod (some ns)) object)) w reply
        ⟨w.pods.insert name pod, w.writes ++ [(name, none)]⟩
  | applied (w : PodStore) (name : String) (object : Json) (pod : Pod)
      (reply : Except ClientError Json) :
      Serves ns (.request (.apply (placeOf Pod (some ns)) name object)) w reply
        ⟨w.pods.insert name pod, w.writes ++ [(name, w.pods.get? name)]⟩
  | deleted (w : PodStore) (name : String) (propagation : Option Propagation)
      (reply : Except ClientError Json) :
      Serves ns (.request (.delete (placeOf Pod (some ns)) name propagation)) w reply
        { w with pods := w.pods.erase name }
  | lingers {w : PodStore} {name : String} {pod : Pod} (h : w.pods.get? name = some pod)
      (time : Instant) (propagation : Option Propagation) (reply : Except ClientError Json) :
      Serves ns (.request (.delete (placeOf Pod (some ns)) name propagation)) w reply
        { w with pods := w.pods.insert name (dyingPod time pod) }
  | refused {r : Request} (hr : r.method ≠ "GET") (w : PodStore) (e : ClientError) :
      Serves ns (.request r) w (.error e) w

/-- The controller may make workers before a request is answered. -/
def Amid (p : BufferPool) (n : Int32) (act : Act) (w : PodStore) (reply : act.Reply)
    (w' : PodStore) : Prop :=
  ∃ mid, Staffs p n w mid ∧ Serves p.namespaceName act mid reply w'

variable {p : BufferPool} {n : Int32} {w w' : PodStore} {name : String} {pod : Pod}

/-- The name is that of no ordinal below the number. -/
def Unstaffed (p : BufferPool) (n : Int32) (name : String) : Prop :=
  ∀ i : Nat, (i : Int) < n.toInt → name ≠ p.placeholderName i

theorem Staffs.writes_eq (h : Staffs p n w w') : w'.writes = w.writes := by
  induction h with
  | idle => rfl
  | start _ _ _ _ ih => exact ih

theorem Staffs.get?_eq (h : Staffs p n w w') (hname : Unstaffed p n name) :
    w'.pods.get? name = w.pods.get? name := by
  induction h with
  | idle => rfl
  | start _ hi _ _ ih => rw [KeyMap.get?_insert, if_neg (hname _ hi), ih]

/-- The controller takes no name that is taken. -/
theorem Staffs.get?_of_some (h : Staffs p n w w') (hpod : w.pods.get? name = some pod) :
    w'.pods.get? name = some pod := by
  induction h with
  | idle => exact hpod
  | start _ _ hfree _ ih =>
    rw [KeyMap.get?_insert, if_neg, ih]
    rintro rfl
    rw [ih] at hfree
    cases hfree

/-! ## What each request can do -/

variable {reply : Except ClientError Json}

theorem Amid.of_get
    (h : Amid p n (.request (.get (placeOf Pod (some p.namespaceName)) name)) w reply w') :
    Staffs p n w w' ∧ ∀ stored, resultOfGet reply = .ok stored → w'.pods.get? name = stored := by
  obtain ⟨mid, hstaffs, hserves⟩ := h
  cases hserves with
  | found hstored hj =>
    refine ⟨hstaffs, fun stored hr => ?_⟩
    rw [resultOfGet, resultOfRead, hj] at hr
    cases hr
    exact hstored
  | missing hnone e =>
    refine ⟨hstaffs, fun stored hr => ?_⟩
    rw [(resultOfGet_error_eq_ok hr).1]
    exact hnone
  | unread _ _ he =>
    refine ⟨hstaffs, fun stored hr => ?_⟩
    obtain ⟨-, response, rfl, hreason⟩ := resultOfGet_error_eq_ok hr
    exact absurd hreason (he response rfl)
  | refused hr => exact absurd rfl hr

theorem Amid.of_create {object : Json} (hname : object.textAt? ["metadata", "name"] = some name)
    (h : Amid p n (.request (.create (placeOf Pod (some p.namespaceName)) object)) w reply w') :
    ∃ mid, Staffs p n w mid ∧ (((∃ e, reply = .error e) ∧ w' = mid) ∨ ∃ new,
      w' = ⟨mid.pods.insert name new, mid.writes ++ [(name, mid.pods.get? name)]⟩) := by
  obtain ⟨mid, hstaffs, hserves⟩ := h
  cases hserves with
  | created hother hfree new =>
    cases hother.symm.trans hname
    exact ⟨mid, hstaffs, .inr ⟨new, by rw [hfree]⟩⟩
  | refused => exact ⟨_, hstaffs, .inl ⟨⟨_, rfl⟩, rfl⟩⟩

theorem Amid.of_apply {object : Json}
    (h : Amid p n (.request (.apply (placeOf Pod (some p.namespaceName)) name object)) w reply w') :
    ∃ mid, Staffs p n w mid ∧ (((∃ e, reply = .error e) ∧ w' = mid) ∨ ∃ new,
      w' = ⟨mid.pods.insert name new, mid.writes ++ [(name, mid.pods.get? name)]⟩) := by
  obtain ⟨mid, hstaffs, hserves⟩ := h
  cases hserves with
  | applied _ _ _ new => exact ⟨mid, hstaffs, .inr ⟨new, rfl⟩⟩
  | refused => exact ⟨_, hstaffs, .inl ⟨⟨_, rfl⟩, rfl⟩⟩

theorem Amid.of_delete {propagation : Option Propagation} (h : Amid p n
      (.request (.delete (placeOf Pod (some p.namespaceName)) name propagation)) w reply w') :
    w'.writes = w.writes ∧ ∀ other, other ≠ name → Unstaffed p n other →
      w'.pods.get? other = w.pods.get? other := by
  obtain ⟨mid, hstaffs, hserves⟩ := h
  cases hserves with
  | deleted =>
    refine ⟨hstaffs.writes_eq, fun other hne hother => ?_⟩
    rw [KeyMap.get?_erase, if_neg hne, hstaffs.get?_eq hother]
  | lingers =>
    refine ⟨hstaffs.writes_eq, fun other hne hother => ?_⟩
    rw [KeyMap.get?_insert, if_neg hne, hstaffs.get?_eq hother]
  | refused => exact ⟨hstaffs.writes_eq, fun other _ hother => hstaffs.get?_eq hother⟩

/-! ## Placeholders -/

/-- What comes of a placeholder that is to be present. Nothing is written where a request is refused
or the pod found is being deleted; otherwise there was no such pod when the name was read. -/
inductive Places (p : BufferPool) (n : Int32) (name : String) (w : PodStore) :
    Except OperatorError (Option Delay) → PodStore → Prop
  | refused {w' : PodStore} (h : Staffs p n w w') (e : OperatorError) :
      Places p n name w (.error e) w'
  | putOff {w' : PodStore} {stored : Pod} (h : Staffs p n w w')
      (hstored : w'.pods.get? name = some stored) (hdying : stored.metadata.isTerminating = true) :
      Places p n name w (.ok (some terminatingDelay)) w'
  | written {read found : PodStore} (hread : Staffs p n w read)
      (halive : ∀ stored, read.pods.get? name = some stored →
        stored.metadata.isTerminating = false)
      (hfound : Staffs p n read found) (new : Pod) (r : Except OperatorError (Option Delay)) :
      Places p n name w r
        ⟨found.pods.insert name new, found.writes ++ [(name, found.pods.get? name)]⟩

theorem Staffs.trans {w'' : PodStore} (h : Staffs p n w w') (h' : Staffs p n w' w'') :
    Staffs p n w w'' := by
  induction h' with
  | idle => exact h
  | start _ hi hfree hworks ih => exact .start ih hi hfree hworks

theorem address_of_ownedMeta (hmeta : pod.metadata = p.ownedMeta name .placeholder) :
    address pod = match p.metadata.namespaceName with
      | none => .error (.configuration (name ++ " has no namespace"))
      | some ns => .ok (ns, name) := by
  obtain ⟨m, spec, status⟩ := pod
  cases hmeta
  rfl

/-- A placeholder is not settled in a pool without a namespace, and in the pool's otherwise. -/
theorem address_placeholder (hmeta : pod.metadata = p.ownedMeta name .placeholder) :
    (∃ e, address pod = .error e) ∨ address pod = .ok (p.namespaceName, name) := by
  rw [address_of_ownedMeta hmeta, BufferPool.namespaceName]
  cases p.metadata.namespaceName with
  | none => exact .inl ⟨_, rfl⟩
  | some ns => exact .inr rfl

theorem run_settle_unaddressed {e : OperatorError} (h : address pod = .error e)
    (presence : Presence) : (settle pod presence).run = .done (.error e) := by
  rw [settle, h]
  rfl

theorem staffs_of_getObject? {r : Except OperatorError (Option Pod)}
    (h : Yields (Amid p n) (viaClient (getObject? Pod p.namespaceName name)).run w r w') :
    Staffs p n w w' ∧ ∀ stored, r = .ok stored → w'.pods.get? name = stored := by
  obtain ⟨answered, hget, rfl⟩ := yields_viaClient_iff.1 h
  rw [run_getObject?] at hget
  split at hget
  · obtain ⟨rfl, rfl⟩ := hget.of_done
    refine ⟨.idle _, fun stored hr => ?_⟩
    cases hr
  · obtain ⟨answer, hserved, rfl⟩ := yields_ask_iff.1 hget
    obtain ⟨hread, hstored⟩ := hserved.of_get
    refine ⟨hread, fun stored hr => hstored stored ?_⟩
    cases hfound : (resultOfGet answer : Except ClientError (Option Pod)) with
    | ok found =>
      rw [hfound] at hr
      cases hr
      rfl
    | error e =>
      rw [hfound] at hr
      cases hr

theorem name_encode (hmeta : pod.metadata = p.ownedMeta name .placeholder) :
    (encode pod).textAt? ["metadata", "name"] = some name := by
  obtain ⟨m, spec, status⟩ := pod
  cases hmeta
  rfl

/-- A write after its reading is refused or carried out. -/
theorem places_of_write {read : PodStore} {r : Except OperatorError (Option Delay)}
    (hread : Staffs p n w read) (halive : ∀ stored, read.pods.get? name = some stored →
      stored.metadata.isTerminating = false)
    (h : ∃ mid, Staffs p n read mid ∧ (((∃ e, reply = .error e) ∧ w' = mid) ∨ ∃ new,
      w' = ⟨mid.pods.insert name new, mid.writes ++ [(name, mid.pods.get? name)]⟩))
    (hfails : ∀ e, reply = .error e → r = .error (.client e)) : Places p n name w r w' := by
  obtain ⟨mid, hmid, ⟨⟨e, he⟩, rfl⟩ | ⟨new, rfl⟩⟩ := h
  · rw [hfails e he]
    exact .refused (hread.trans hmid) _
  · exact .written hread halive hmid new r

/-- A placeholder that is to be present is written only over what its reading allows. -/
theorem places_of_settlePod {r : Except OperatorError (Option Delay)}
    (hmeta : pod.metadata = p.ownedMeta name .placeholder)
    (h : Yields (Amid p n) (settle pod .present).run w r w') : Places p n name w r w' := by
  rcases address_placeholder hmeta with ⟨e, he⟩ | haddress
  · rw [run_settle_unaddressed he] at h
    obtain ⟨rfl, rfl⟩ := h.of_done
    exact .refused (.idle _) e
  rw [settle, haddress, run_liftM_ok_bind] at h
  dsimp only at h
  rcases h.of_run_bind with ⟨stored, mid, hget, h⟩ | ⟨e, hget, rfl⟩
  · obtain ⟨hread, hfound⟩ := staffs_of_getObject? hget
    have hpod := hfound stored rfl
    cases stored with
    | none =>
      obtain ⟨x, hcreate, rfl⟩ := yields_discard_return_iff.1 h
      rw [run_createObject] at hcreate
      obtain ⟨answer, hamid, rfl⟩ := yields_ask_iff.1 hcreate
      refine places_of_write hread (fun _ hsome => nomatch hpod.symm.trans hsome)
        (hamid.of_create (name_encode hmeta)) fun e he => ?_
      rw [he]
      rfl
    | some stored =>
      dsimp only at h
      split at h
      · rename_i hdying
        obtain ⟨rfl, rfl⟩ := Yields.of_done h
        exact .putOff hread hpod hdying
      · rename_i halive
        obtain ⟨x, happly, rfl⟩ := yields_discard_return_iff.1 h
        rw [run_applyObject] at happly
        split at happly
        · obtain ⟨rfl, rfl⟩ := happly.of_done
          exact .refused hread _
        · obtain ⟨answer, hamid, rfl⟩ := yields_ask_iff.1 happly
          refine places_of_write hread (fun other hother => ?_) hamid.of_apply fun e he => ?_
          · cases hpod.symm.trans hother
            exact Bool.eq_false_iff.2 halive
          · rw [he]
            rfl
  · exact .refused (staffs_of_getObject? hget).1 e

section

variable {r : Except OperatorError (Option Delay)}

theorem Places.get?_eq {other : String} (h : Places p n name w r w') (hne : other ≠ name)
    (hother : Unstaffed p n other) : w'.pods.get? other = w.pods.get? other := by
  cases h with
  | refused h => exact h.get?_eq hother
  | putOff h => exact h.get?_eq hother
  | written hread _ hfound =>
    rw [KeyMap.get?_insert, if_neg hne, hfound.get?_eq hother, hread.get?_eq hother]

/-- Under a name that the controller leaves alone, what is written over is what was there before,
and is not being deleted. -/
theorem Places.writes_eq (h : Places p n name w r w') (hname : Unstaffed p n name) :
    w'.writes = w.writes ∨ (w'.writes = w.writes ++ [(name, w.pods.get? name)] ∧
      ∀ stored, w.pods.get? name = some stored → stored.metadata.isTerminating = false) := by
  cases h with
  | refused h => exact .inl h.writes_eq
  | putOff h => exact .inl h.writes_eq
  | written hread halive hfound =>
    refine .inr ⟨?_, fun stored hstored => halive stored (hread.get?_of_some hstored)⟩
    rw [hfound.writes_eq, hread.writes_eq, hfound.get?_eq hname, hread.get?_eq hname]

/-- Over a pod that is being deleted nothing is written, and the caller is asked to come back. -/
theorem Places.of_terminating {stored : Pod} (h : Places p n name w r w')
    (hstored : w.pods.get? name = some stored) (hdying : stored.metadata.isTerminating = true) :
    w'.writes = w.writes ∧ ∀ delay, r = .ok delay → delay = some terminatingDelay := by
  cases h with
  | refused h => exact ⟨h.writes_eq, nofun⟩
  | putOff h => exact ⟨h.writes_eq, fun delay hr => (Except.ok.inj hr).symm⟩
  | written hread halive =>
    rw [halive stored (hread.get?_of_some hstored)] at hdying
    cases hdying

/-- A placeholder that is to be absent is not written, and no other pod is touched. -/
theorem kept_of_settlePod_absent (hmeta : pod.metadata = p.ownedMeta name .placeholder)
    (h : Yields (Amid p n) (settle pod .absent).run w r w') :
    w'.writes = w.writes ∧ ∀ other, other ≠ name → Unstaffed p n other →
      w'.pods.get? other = w.pods.get? other := by
  rcases address_placeholder hmeta with ⟨e, he⟩ | haddress
  · rw [run_settle_unaddressed he] at h
    obtain ⟨-, rfl⟩ := h.of_done
    exact ⟨rfl, fun _ _ _ => rfl⟩
  rw [settle, haddress, run_liftM_ok_bind] at h
  dsimp only at h
  have hdelete : ∃ x, Yields (Amid p n)
      (viaClient (unlessMissing (deleteObject Pod p.namespaceName name none))).run w x w' := by
    rcases h.of_run_bind with ⟨_, w₂, hdelete, hdone⟩ | ⟨e, hdelete, -⟩
    · exact ⟨_, (Yields.of_done hdone).2 ▸ hdelete⟩
    · exact ⟨_, hdelete⟩
  obtain ⟨x, hx⟩ := hdelete
  obtain ⟨y, hy, -⟩ := yields_viaClient_iff.1 hx
  obtain ⟨z, hz⟩ := yields_of_unlessMissing hy
  rw [run_deleteObject] at hz
  split at hz
  · rw [hz.of_done.2]
    exact ⟨rfl, fun _ _ _ => rfl⟩
  · obtain ⟨answer, hamid, -⟩ := yields_ask_iff.1 hz
    exact hamid.of_delete

end

/-! ## Requests that go through -/

section

variable {read : PodStore} (hns : p.metadata.namespaceName = some p.namespaceName)
  (hname : name.isEmpty = false) (hmeta : pod.metadata = p.ownedMeta name .placeholder)
  (hread : Staffs p n w read)
include hns hname hmeta hread

/-- A pod that is found under the placeholder's name is written over. -/
theorem yields_settlePod_over {stored : Pod} (hstored : read.pods.get? name = some stored)
    (halive : (metadata stored).isTerminating = false)
    (hdecode : decode (encode stored) = (.ok stored : Decoded Pod))
    (hanswer : ∃ new, decode (encode pod) = (.ok new : Decoded Pod)) :
    Yields (Amid p n) (settle pod .present).run w (.ok none)
      ⟨read.pods.insert name pod, read.writes ++ [(name, some stored)]⟩ := by
  obtain ⟨new, hnew⟩ := hanswer
  have hfound : Yields (Amid p n) (viaClient (getObject? Pod p.namespaceName name)).run w
      (.ok (some stored)) read := by
    refine yields_viaClient_iff.2 ⟨.ok (some stored), ?_, rfl⟩
    rw [run_getObject?, hname]
    exact yields_ask_iff.2 ⟨.ok (encode stored), ⟨read, hread, .found hstored hdecode⟩,
      by rw [resultOfGet, resultOfRead, hdecode]; rfl⟩
  have happlied : Yields (Amid p n) (applyObject p.namespaceName name pod).run read (.ok new)
      ⟨read.pods.insert name pod, read.writes ++ [(name, some stored)]⟩ := by
    rw [run_applyObject, hname, ← hstored]
    exact yields_ask_iff.2 ⟨.ok (encode pod), ⟨read, .idle read, .applied read name _ pod _⟩,
      by rw [resultOfRead, hnew]; rfl⟩
  rw [settle, address_of_ownedMeta hmeta, hns]
  refine Yields.run_bind (yields_done_iff.2 ⟨rfl, rfl⟩) (hfound.run_bind ?_)
  simp only [halive, Bool.false_eq_true, if_false]
  exact yields_discard_return_iff.2 ⟨.ok new, happlied, rfl⟩

/-- Where no pod is found under its name the placeholder is created. -/
theorem yields_settlePod_new (hfree : read.pods.get? name = none)
    (hanswer : ∃ new, decode (encode pod) = (.ok new : Decoded Pod)) :
    Yields (Amid p n) (settle pod .present).run w (.ok none)
      ⟨read.pods.insert name pod, read.writes ++ [(name, none)]⟩ := by
  obtain ⟨new, hnew⟩ := hanswer
  have hmissing : Yields (Amid p n) (viaClient (getObject? Pod p.namespaceName name)).run w
      (.ok none) read := by
    refine yields_viaClient_iff.2 ⟨.ok none, ?_, rfl⟩
    rw [run_getObject?, hname]
    exact yields_ask_iff.2 ⟨.error (.api ⟨"Failure", "not found", "NotFound", 404⟩),
      ⟨read, hread, .missing hfree _⟩, rfl⟩
  have hcreated : Yields (Amid p n) (createObject p.namespaceName pod).run read (.ok new)
      ⟨read.pods.insert name pod, read.writes ++ [(name, none)]⟩ := by
    rw [run_createObject]
    exact yields_ask_iff.2 ⟨.ok (encode pod),
      ⟨read, .idle read, .created (name_encode hmeta) hfree pod _⟩,
      by rw [resultOfRead, hnew]; rfl⟩
  rw [settle, address_of_ownedMeta hmeta, hns]
  refine Yields.run_bind (yields_done_iff.2 ⟨rfl, rfl⟩) (hmissing.run_bind ?_)
  exact yields_discard_return_iff.2 ⟨.ok new, hcreated, rfl⟩

/-- A placeholder that is to be absent is deleted. -/
theorem yields_settlePod_gone : Yields (Amid p n) (settle pod .absent).run w (.ok none)
    { read with pods := read.pods.erase name } := by
  have hdeleted : Yields (Amid p n) (deleteObject Pod p.namespaceName name none).run w (.ok ())
      { read with pods := read.pods.erase name } := by
    rw [run_deleteObject, hname]
    exact yields_ask_iff.2 ⟨.ok (.obj [("kind", .str "Status")]),
      ⟨read, hread, .deleted read name _ _⟩, rfl⟩
  rw [settle, address_of_ownedMeta hmeta, hns]
  refine Yields.run_bind (yields_done_iff.2 ⟨rfl, rfl⟩) (Yields.run_bind
    (yields_viaClient_iff.2 ⟨.ok (), hdeleted.bind (yields_done_iff.2 ⟨rfl, rfl⟩), rfl⟩) ?_)
  exact yields_done_iff.2 ⟨rfl, rfl⟩

end

end VolumeDrain.Api
