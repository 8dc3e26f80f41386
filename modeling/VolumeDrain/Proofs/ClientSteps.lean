import VolumeDrain.Api.Client
import VolumeDrain.Proofs.Exchange

/-!
# Operations of the client

An operation of the client sends one request, unless it would name no object, and what comes of it
depends on the answer alone.
-/
namespace VolumeDrain.Script

variable {Question : Type} {Reply : Question → Type} {α β σ : Type}
  {answers : (q : Question) → σ → Reply q → σ → Prop} {s s' s'' : σ}

theorem yields_done_iff {a b : α} : Yields answers (.done a) s b s' ↔ b = a ∧ s' = s :=
  ⟨Yields.of_done, fun ⟨hb, hs⟩ => hb ▸ hs ▸ ⟨[], .stop _, rfl⟩⟩

/-- A script of one question. -/
theorem yields_ask_iff {q : Question} {f : Reply q → α} {a : α} :
    Yields answers (.ask q fun r => .done (f r)) s a s' ↔ ∃ r, answers q s r s' ∧ a = f r := by
  constructor
  · intro h
    obtain ⟨r, mid, hanswer, hdone⟩ := h.of_ask
    obtain ⟨rfl, rfl⟩ := hdone.of_done
    exact ⟨r, hanswer, rfl⟩
  · rintro ⟨r, hanswer, rfl⟩
    exact .ask hanswer (yields_done_iff.2 ⟨rfl, rfl⟩)

theorem Yields.run_bind {ε : Type} {step : ExceptT ε (Script Reply) α}
    {k : α → ExceptT ε (Script Reply) β} {a : α} {b : Except ε β}
    (h : Yields answers step.run s (.ok a) s') (hk : Yields answers (k a).run s' b s'') :
    Yields answers (step >>= k).run s b s'' := by
  rw [ExceptT.run_bind]
  exact .bind h hk

theorem run_liftM_ok_bind {ε : Type} (a : α) (k : α → ExceptT ε (Script Reply) β) :
    ((liftM (Except.ok a : Except ε α) : ExceptT ε (Script Reply) α) >>= k).run = (k a).run := rfl

end VolumeDrain.Script

namespace VolumeDrain.Api

open Drain Manifest Script

variable {α : Type} [Resource α] {ns name : String} {a : α}

/-- What comes of a request that is answered by an object. -/
def resultOfRead : Except ClientError Json → Except ClientError α
  | .ok j => Except.mapError .undecodable (decode j)
  | .error e => .error e

/-- What comes of reading an object that may be missing. -/
def resultOfGet (answer : Except ClientError Json) : Except ClientError (Option α) :=
  match (resultOfRead answer : Except ClientError α) with
  | .ok a => .ok (some a)
  | .error (.api r) => if r.reason = "NotFound" then .ok none else .error (.api r)
  | .error e => .error e

/-- What comes of a request that is answered by a list. -/
def resultOfList {α : Type} [Decode α] : Except ClientError Json → Except ClientError (List α)
  | .ok j =>
    Except.mapError .undecodable
      (do Json.memberOr (← j.objectMembers) "items" [] : Decoded (List α))
  | .error e => .error e

/-- What comes of deleting an object. -/
def resultOfDelete (α : Type) [Resource α] (answer : Except ClientError Json) :
    Except ClientError Unit :=
  match answer with
  | .ok j =>
    if j.textAt? ["kind"] = some "Status" then .ok ()
    else (resultOfRead answer : Except ClientError α).map fun _ => ()
  | .error e => .error e

/-- An error is taken for a missing object only where the server says so. -/
theorem resultOfGet_error_eq_ok {e : ClientError} {stored : Option α}
    (h : resultOfGet (.error e) = .ok stored) :
    stored = none ∧ ∃ r, e = .api r ∧ r.reason = "NotFound" := by
  cases e with
  | api r =>
    by_cases hr : r.reason = "NotFound"
    · simp only [resultOfGet, resultOfRead, hr, if_true] at h
      exact ⟨(Except.ok.inj h).symm, r, rfl, hr⟩
    · simp [resultOfGet, resultOfRead, hr] at h
  | transport | emptyName | undecodable => cases h

theorem run_readAnswer (j : Json) :
    (readAnswer j : ClientScript α).run = .done (resultOfRead (.ok j)) := by
  rw [readAnswer, resultOfRead]
  cases (decode j : Decoded α) <;> rfl

/-- A request whose answer is read as an object. -/
theorem run_answerTo (r : Request) :
    (answerTo r >>= fun j => (readAnswer j : ClientScript α)).run =
      .ask (Act.request r) fun answer => .done (resultOfRead answer) := by
  refine congrArg (Script.ask _) (funext fun answer => ?_)
  cases answer with
  | error e => rfl
  | ok j => exact run_readAnswer j

theorem run_listAll {place selector : Option String} :
    (listAll α place selector).run =
      .ask (Act.request (.list (placeOf α place) selector)) fun answer =>
        .done (resultOfList answer) := by
  refine congrArg (Script.ask _) (funext fun answer => ?_)
  cases answer with
  | error e => rfl
  | ok j =>
    change (readItems j : ClientScript (List α)).run = _
    rw [readItems, resultOfList]
    cases (do Json.memberOr (← j.objectMembers) "items" [] : Decoded (List α)) <;> rfl

theorem run_createObject : (createObject ns a).run =
    .ask (Act.request (.create (placeOf α (some ns)) (encode a))) fun answer =>
      .done (resultOfRead answer) :=
  run_answerTo _

/-- Such a request about an object with a name. -/
theorem run_checkName_answerTo (name : String) (r : Request) :
    (do checkName name; readAnswer (← answerTo r) : ClientScript α).run =
      if name.isEmpty then .done (.error .emptyName)
      else .ask (Act.request r) fun answer => .done (resultOfRead answer) := by
  rw [checkName]
  cases name.isEmpty with
  | true => rfl
  | false => exact run_answerTo _

theorem run_applyObject : (applyObject ns name a).run =
    if name.isEmpty then .done (.error .emptyName)
    else .ask (Act.request (.apply (placeOf α (some ns)) name (encode a))) fun answer =>
      .done (resultOfRead answer) :=
  run_checkName_answerTo _ _

theorem run_mergeStatus {patch : Json} : (mergeStatus α ns name patch).run =
    if name.isEmpty then .done (.error .emptyName)
    else .ask (Act.request (.merge (placeOf α (some ns)) name true patch)) fun answer =>
      .done (resultOfRead answer) :=
  run_checkName_answerTo _ _

theorem run_getObject? : (getObject? α ns name).run =
    if name.isEmpty then .done (.error .emptyName)
    else .ask (Act.request (.get (placeOf α (some ns)) name)) fun answer =>
      .done (resultOfGet answer) := by
  rw [getObject?, getObject, checkName]
  cases name.isEmpty with
  | true => rfl
  | false =>
    refine congrArg (Script.ask _) (funext fun answer => ?_)
    cases answer with
    | error e => cases e <;> rfl
    | ok j =>
      change Script.bind (readAnswer j : ClientScript α).run _ = _
      rw [run_readAnswer, resultOfGet]
      generalize (resultOfRead (.ok j) : Except ClientError α) = result
      cases result with
      | ok a => rfl
      | error e => cases e <;> rfl

theorem run_deleteObject {propagation : Option Propagation} :
    (deleteObject α ns name propagation).run =
      if name.isEmpty then .done (.error .emptyName)
      else .ask (Act.request (.delete (placeOf α (some ns)) name propagation)) fun answer =>
        .done (resultOfDelete α answer) := by
  rw [deleteObject, checkName]
  cases name.isEmpty with
  | true => rfl
  | false =>
    refine congrArg (Script.ask _) (funext fun answer => ?_)
    cases answer with
    | error e => rfl
    | ok j =>
      change (if j.textAt? ["kind"] = some "Status" then pure ()
        else discard (readAnswer j : ClientScript α) : ClientScript Unit).run = _
      rw [resultOfDelete]
      split
      · rfl
      · change Script.bind (readAnswer j : ClientScript α).run _ = _
        rw [run_readAnswer]
        cases (resultOfRead (.ok j) : Except ClientError α) <;> rfl

/-! ## Steps of the operator -/

section

variable {β σ : Type} {answers : (act : Act) → σ → act.Reply → σ → Prop} {s s' : σ}
  {step : ClientScript β}

theorem yields_viaClient_iff {r : Except OperatorError β} :
    Yields answers (viaClient step).run s r s' ↔
      ∃ x, Yields answers step.run s x s' ∧ r = x.mapError .client := by
  refine ⟨Yields.of_map, ?_⟩
  rintro ⟨x, hstep, rfl⟩
  change Yields answers (_ <$> step.run) s _ s'
  rw [map_eq_pure_bind]
  exact hstep.bind (yields_done_iff.2 ⟨rfl, rfl⟩)

theorem run_discard_viaClient (step : ClientScript β) :
    (discard (viaClient step) : OperatorScript Unit).run = step.run >>= fun x =>
      .done ((x.map fun _ => ()).mapError OperatorError.client) := by
  change Script.bind (_ <$> step.run) _ = _
  rw [map_eq_pure_bind]
  refine (Script.bind_assoc _ _ _).trans (congrArg _ (funext fun x => ?_))
  cases x <;> rfl

/-- A step of the client whose value is not used. -/
theorem yields_discard_iff {r : Except OperatorError Unit} :
    Yields answers (discard (viaClient step) : OperatorScript Unit).run s r s' ↔
      ∃ x, Yields answers step.run s x s' ∧ r = (x.map fun _ => ()).mapError .client := by
  rw [run_discard_viaClient]
  constructor
  · intro h
    obtain ⟨x, mid, hstep, hdone⟩ := h.of_bind
    obtain ⟨rfl, rfl⟩ := hdone.of_done
    exact ⟨x, hstep, rfl⟩
  · rintro ⟨x, hstep, rfl⟩
    exact hstep.bind (yields_done_iff.2 ⟨rfl, rfl⟩)

theorem yields_discard_return_iff {γ : Type} {c : γ} {r : Except OperatorError γ} :
    Yields answers (do discard (viaClient step); return c : OperatorScript γ).run s r s' ↔
      ∃ x, Yields answers step.run s x s' ∧ r = (x.map fun _ => c).mapError .client := by
  constructor
  · intro h
    rcases h.of_run_bind with ⟨_, mid, hdiscard, hdone⟩ | ⟨e, hdiscard, rfl⟩ <;>
      obtain ⟨x, hstep, hx⟩ := yields_discard_iff.1 hdiscard <;> cases x <;> cases hx
    · obtain ⟨rfl, rfl⟩ := Yields.of_done hdone
      exact ⟨_, hstep, rfl⟩
    · exact ⟨_, hstep, rfl⟩
  · rintro ⟨x, hstep, rfl⟩
    have hdiscard := yields_discard_iff.2 ⟨x, hstep, rfl⟩
    cases x with
    | ok b => exact hdiscard.run_bind (yields_done_iff.2 ⟨rfl, rfl⟩)
    | error e =>
      rw [ExceptT.run_bind]
      exact hdiscard.bind (yields_done_iff.2 ⟨rfl, rfl⟩)

/-- What is taken for success makes no request. -/
theorem yields_of_unlessMissing {step : ClientScript Unit} {r : Except ClientError Unit}
    (h : Yields answers (unlessMissing step).run s r s') : ∃ x, Yields answers step.run s x s' := by
  obtain ⟨x, mid, hstep, hdone⟩ := Yields.of_bind h
  refine ⟨x, ?_⟩
  have hmid : s' = mid := by
    split at hdone <;> exact (Yields.of_done hdone).2
  rwa [hmid]

end

end VolumeDrain.Api
