import VolumeDrain.Proofs.ContentServer
import VolumeDrain.Proofs.ObjectDocuments

/-!
# Settling twice

To settle an object is to read it and then to create it, to apply it or to leave it alone; or else
to delete it. On a server that keeps its promises, and to which nobody else writes, it makes no
difference whether an object is settled once or twice, and of a settling that fails nothing is left.

First the two scripts are written out, then every way in which they can end is listed, whatever the
server refuses. What is said of an object that is missing or being deleted rests on what the server
answers; it is said of servers that report an object as missing only where it is. All else holds
whatever errors are answered.
-/
namespace VolumeDrain

theorem ClientError.isMissing_iff {e : ClientError} :
    e.isMissing = true ↔ ∃ response, e = .api response ∧ response.code = 404 := by
  cases e <;> simp [isMissing, code?]

namespace Api

open Manifest Drain Script

theorem run_discard_return_none {α : Type} (step : ClientScript α) :
    (do discard (viaClient step); return none : OperatorScript (Option Delay)).run =
      step.run >>= fun x => .done ((x.map fun _ => none).mapError .client) := by
  rw [ExceptT.run_bind, run_discard_viaClient, bind_assoc]
  refine congrArg _ (funext fun x => ?_)
  cases x <;> rfl

section

variable {α : Type} [Resource α] {a : α} {ns name : String}

/-- What comes of a write that makes an object present. -/
def resultOfWrite (α : Type) [Resource α] (answer : Except ClientError Json) :
    Except OperatorError (Option Delay) :=
  ((resultOfRead answer : Except ClientError α).map fun _ => none).mapError .client

/-- What comes of a deletion. -/
def resultOfRemoval (α : Type) [Resource α] (answer : Except ClientError Json) :
    Except OperatorError (Option Delay) :=
  match resultOfDelete α answer with
  | .ok () => .ok none
  | .error e => if e.isMissing then .ok none else .error (.client e)

/-- How an object is made present once it is known whether it is there. -/
def afterRead (ns name : String) (a : α) :
    Except ClientError (Option α) → ApiScript (Except OperatorError (Option Delay))
  | .ok (some stored) =>
    if (metadata stored).isTerminating then .done (.ok (some terminatingDelay))
    else .ask (Act.request (.apply (placeOf α (some ns)) name (encode a))) fun answer =>
      .done (resultOfWrite α answer)
  | .ok none =>
    .ask (Act.request (.create (placeOf α (some ns)) (encode a))) fun answer =>
      .done (resultOfWrite α answer)
  | .error e => .done (.error (.client e))

theorem run_settle_present (h : address a = .ok (ns, name)) :
    (settle a .present).run =
      if name.isEmpty then .done (.error (.client .emptyName))
      else .ask (Act.request (.get (placeOf α (some ns)) name)) fun answer =>
        afterRead ns name a (resultOfGet answer) := by
  rw [settle, h, run_liftM_ok_bind, ExceptT.run_bind]
  change (Except.mapError OperatorError.client <$> (getObject? α ns name).run) >>= _ = _
  rw [run_getObject?, map_eq_pure_bind]
  cases hname : name.isEmpty with
  | true => rfl
  | false =>
    refine congrArg (Script.ask _) (funext fun answer => ?_)
    dsimp only
    generalize (resultOfGet answer : Except ClientError (Option α)) = found
    match found with
    | .error e => rfl
    | .ok none =>
      change (do discard (viaClient (createObject ns a)); return none : OperatorScript _).run = _
      rw [run_discard_return_none, run_createObject]
      rfl
    | .ok (some stored) =>
      change (if (metadata stored).isTerminating then pure (some terminatingDelay)
        else do discard (viaClient (applyObject ns name a)); return none : OperatorScript _).run = _
      rw [afterRead]
      split
      · rfl
      · rw [run_discard_return_none, run_applyObject, hname]
        rfl

theorem run_settle_absent (h : address a = .ok (ns, name)) :
    (settle a .absent).run =
      if name.isEmpty then .done (.error (.client .emptyName))
      else .ask (Act.request (.delete (placeOf α (some ns)) name none)) fun answer =>
        .done (resultOfRemoval α answer) := by
  rw [settle, h, run_liftM_ok_bind, ExceptT.run_bind]
  change (Except.mapError OperatorError.client <$>
    (unlessMissing (deleteObject α ns name none)).run) >>= _ = _
  rw [unlessMissing, ExceptT.run_mk, run_deleteObject]
  cases name.isEmpty with
  | true => rfl
  | false =>
    refine congrArg (Script.ask _) (funext fun answer => ?_)
    unfold resultOfRemoval
    dsimp only
    cases resultOfDelete α answer with
    | ok _ => rfl
    | error e =>
      change ((Script.done (if e.isMissing = true then Except.ok () else .error e)).bind _).bind _ =
        .done (if e.isMissing = true then Except.ok none else Except.error (OperatorError.client e))
      cases e.isMissing <;> rfl

/-- A write that is carried out is answered by an object. -/
theorem resultOfWrite_ok {j : Json} {b : α} (h : decode j = .ok b) :
    resultOfWrite α (.ok j) = .ok none := by
  rw [resultOfWrite, resultOfRead, h]
  rfl

/-- A deletion that is carried out is answered by the object or by a report. -/
theorem resultOfRemoval_ok {answer : Json}
    (h : answer.textAt? ["kind"] = some "Status" ∨ ∃ b : α, decode answer = .ok b) :
    resultOfRemoval α (.ok answer) = .ok none := by
  have hdelete : resultOfDelete α (.ok answer) = .ok () := by
    rw [resultOfDelete]
    split
    · rfl
    · rename_i hreport
      obtain ⟨b, hb⟩ := h.resolve_left hreport
      rw [resultOfRead, hb]
      rfl
  rw [resultOfRemoval, hdelete]

theorem resultOfRemoval_missing {e : ClientError} (h : e.isMissing = true) :
    resultOfRemoval α (.error e) = .ok none := by
  simp [resultOfRemoval, resultOfDelete, h]

theorem resultOfRemoval_error {e : ClientError} (h : e.isMissing = false) :
    resultOfRemoval α (.error e) = .error (.client e) := by
  simp [resultOfRemoval, resultOfDelete, h]

end

/-! ## What a run can do -/

section

variable {σ α : Type} [Resource α] (server : ApiServer σ)
  (Refuses : Request → σ → ClientError → Prop) (a : α) (ns name : String)

/-- The ways in which making an object present can end. -/
inductive Presents (s : σ) :
    List (Exchange Act.Reply) → Except OperatorError (Option Delay) → σ → Prop where
  /-- It is not found out whether the object is there. -/
  | unread {t : List (Exchange Act.Reply)} {e : OperatorError} {s' : σ} (hsame : server.Same s s')
      (hquiet : writesIn t = 0) : Presents s t (.error e) s'
  /-- The object is being deleted. -/
  | waits {t : List (Exchange Act.Reply)} {j : Json} {s' : σ}
      (hstored : server.stored? (keyOf α ns name) s = some j)
      (hdying : Server.isTerminating j = true) (hsame : server.Same s s')
      (hquiet : writesIn t = 0) : Presents s t (.ok (some terminatingDelay)) s'
  /-- The write is not carried out. -/
  | unwritten {t : List (Exchange Act.Reply)} {e : OperatorError} {s' : σ}
      (halive : (∀ r s e, Refuses r s e → server.Truthful r s e) →
        ∀ j, server.stored? (keyOf α ns name) s = some j → Server.isTerminating j = false)
      (hsame : server.Same s s') (honce : writesIn t = 1) : Presents s t (.error e) s'
  | created {t : List (Exchange Act.Reply)} {j : Json} {mid s' : σ} (hsame : server.Same s mid)
      (hwrite : server.serve (.create (placeOf α (some ns)) (encode a)) mid = (.ok j, s'))
      (honce : writesIn t = 1) : Presents s t (.ok none) s'
  | applied {t : List (Exchange Act.Reply)} {old j : Json} {mid s' : σ}
      (hsame : server.Same s mid) (hstored : server.stored? (keyOf α ns name) s = some old)
      (halive : Server.isTerminating old = false)
      (hwrite : server.serve (.apply (placeOf α (some ns)) name (encode a)) mid = (.ok j, s'))
      (honce : writesIn t = 1) : Presents s t (.ok none) s'

/-- The ways in which making an object absent can end. -/
inductive Removes (s : σ) :
    List (Exchange Act.Reply) → Except OperatorError (Option Delay) → σ → Prop where
  /-- The object is not deleted, or has no name. -/
  | kept {t : List (Exchange Act.Reply)} {e : OperatorError} {s' : σ} (hsame : server.Same s s')
      (honce : writesIn t ≤ 1) : Removes s t (.error e) s'
  | gone {t : List (Exchange Act.Reply)} {s' : σ} (hname : name ≠ "")
      (hleft : (∀ r s e, Refuses r s e → server.Truthful r s e) →
        ∀ j, server.stored? (keyOf α ns name) s' = some j → Server.isTerminating j = true)
      (hothers : server.SameBut (keyOf α ns name) s s') (honce : writesIn t ≤ 1) :
      Removes s t (.ok none) s'

end

theorem address_of_named {α : Type} [Resource α] {a : α} {ns name : String}
    (hname : (metadata a).name = some name) (hns : (metadata a).namespaceName = some ns) :
    address a = .ok (ns, name) := by
  rw [address, hname]
  dsimp only
  rw [hns]

theorem name_of_address {α : Type} [Resource α] {a : α} {ns name : String}
    (h : address a = .ok (ns, name)) : (metadata a).name = some name := by
  rw [address] at h
  split at h
  · cases h
  · rename_i found hfound
    split at h
    · cases h
    · cases h
      exact hfound

namespace ApiServer.Contract

variable {σ α : Type} [Resource α] {server : ApiServer σ}
  {Refuses : Request → σ → ClientError → Prop} {a : α} {ns name : String} {s s' : σ}
  {t : List (Exchange Act.Reply)} {r : Except OperatorError (Option Delay)}

variable (h : server.Contract α)
include h

/-- What a creation leaves, told by the address of the object that was to be created. -/
theorem created_at [TellsMetadata α] (haddress : address a = .ok (ns, name)) {j : Json}
    (hwrite : server.serve (.create (placeOf α (some ns)) (encode a)) s = (.ok j, s')) :
    server.stored? (keyOf α ns name) s = none ∧ server.Keeps (keyOf α ns name) j s s' ∧
      j.carries (desiredPart (encode a)) = true ∧ Server.isTerminating j = false :=
  h.created (TellsMetadata.name_encode (name_of_address haddress)) hwrite

/-- The last step of making an object present. -/
theorem of_write {request : Request}
    (hreadable : ∀ j s', server.serve request s = (.ok j, s') → ∃ b : α, decode j = .ok b)
    (hcourse : server.Course Refuses (.ask (Act.request request) fun answer =>
      .done (resultOfWrite α answer)) s t r s') :
    (∃ reply, t = [⟨.request request, reply⟩]) ∧
      ((∃ j, server.serve request s = (.ok j, s') ∧ r = .ok none) ∨
        server.Same s s' ∧ ∃ e, r = .error e) := by
  obtain ⟨reply, mid, u, rfl, hanswer, hdone⟩ := hcourse.of_ask
  obtain ⟨rfl, rfl, rfl⟩ := hdone.of_done
  refine ⟨⟨reply, rfl⟩, ?_⟩
  rcases h.of_answered hanswer with ⟨j, rfl, hserve⟩ | ⟨e, rfl, hsame, -⟩
  · obtain ⟨b, hb⟩ := hreadable j _ hserve
    exact .inl ⟨j, hserve, resultOfWrite_ok hb⟩
  · exact .inr ⟨hsame, .client e, rfl⟩

theorem presents [TellsMetadata α] (haddress : address a = .ok (ns, name))
    (hcourse : server.Course Refuses (settle a .present).run s t r s') :
    Presents server Refuses a ns name s t r s' := by
  rw [run_settle_present haddress] at hcourse
  split at hcourse
  · obtain ⟨rfl, rfl, rfl⟩ := hcourse.of_done
    exact .unread (.refl _) rfl
  obtain ⟨reply, mid, u, rfl, hanswer, hrest⟩ := hcourse.of_ask
  obtain ⟨hsame, hfound, hfree⟩ := h.of_get hanswer
  match hresult : (resultOfGet reply : Except ClientError (Option α)) with
  | .error e =>
    rw [hresult] at hrest
    obtain ⟨rfl, rfl, rfl⟩ := hrest.of_done
    exact .unread hsame rfl
  | .ok none =>
    rw [hresult] at hrest
    have hreadable : ∀ j s', server.serve (.create (placeOf α (some ns)) (encode a)) mid =
        (.ok j, s') → ∃ b : α, decode j = .ok b :=
      fun j s' hwrite => h.readable (h.created_at haddress hwrite).2.1.stored
    obtain ⟨⟨reply, rfl⟩, ⟨j, hwrite, rfl⟩ | ⟨hunwritten, e, rfl⟩⟩ := h.of_write hreadable hrest
    · exact .created hsame hwrite rfl
    · refine .unwritten (fun htruthful j hj => ?_) (hsame.trans hunwritten) rfl
      cases (hfree htruthful hresult).symm.trans hj
  | .ok (some stored) =>
    rw [hresult, afterRead] at hrest
    obtain ⟨old, hold, hdecode⟩ := hfound stored hresult
    have hdying := TellsMetadata.isTerminating_decode hdecode
    split at hrest
    · rename_i hterminating
      obtain ⟨rfl, rfl, rfl⟩ := hrest.of_done
      exact .waits hold (hdying.symm.trans hterminating) hsame rfl
    · rename_i hterminating
      have halive : Server.isTerminating old = false :=
        hdying.symm.trans (Bool.eq_false_iff.2 hterminating)
      have hreadable : ∀ j s', server.serve (.apply (placeOf α (some ns)) name (encode a)) mid =
          (.ok j, s') → ∃ b : α, decode j = .ok b :=
        fun j s' hwrite => h.readable (h.applied hwrite).1.stored
      obtain ⟨⟨reply, rfl⟩, ⟨j, hwrite, rfl⟩ | ⟨hunwritten, e, rfl⟩⟩ := h.of_write hreadable hrest
      · exact .applied hsame hold halive hwrite rfl
      · refine .unwritten (fun _ j hj => ?_) (hsame.trans hunwritten) rfl
        cases hold.symm.trans hj
        exact halive

/-- Where an error is taken for a missing object, there is none. -/
theorem stored?_of_isMissing {e : ClientError} (hmissing : e.isMissing = true)
    (hcause : (∃ response, server.serve (.delete (placeOf α (some ns)) name none) s =
      (.error response, s') ∧ e = .api response) ∨
        server.Truthful (.delete (placeOf α (some ns)) name none) s e) :
    server.stored? (keyOf α ns name) s = none := by
  rcases hcause with ⟨response, hserve, -⟩ | htruthful
  · cases hstored : server.stored? (keyOf α ns name) s with
    | none => rfl
    | some j =>
      obtain ⟨answer, s'', hdeleted, -⟩ := h.deleted hstored
      cases hserve.symm.trans hdeleted
  · obtain ⟨response, rfl, hcode⟩ := ClientError.isMissing_iff.1 hmissing
    exact htruthful ⟨response, rfl, .inr hcode⟩ name rfl

/-- A deletion ends well where there was an object, or where none is said to be, and otherwise
changes nothing. -/
theorem removes (haddress : address a = .ok (ns, name))
    (hcourse : server.Course Refuses (settle a .absent).run s t r s') :
    Removes (α := α) server Refuses ns name s t r s' := by
  rw [run_settle_absent haddress] at hcourse
  split at hcourse
  · obtain ⟨rfl, rfl, rfl⟩ := hcourse.of_done
    exact .kept (.refl _) (Nat.zero_le _)
  rename_i hname
  obtain ⟨reply, mid, u, rfl, hanswer, hrest⟩ := hcourse.of_ask
  obtain ⟨rfl, rfl, rfl⟩ := hrest.of_done
  have hne : name ≠ "" := fun heq => hname (heq ▸ rfl)
  have honce : writesIn [⟨.request (.delete (placeOf α (some ns)) name none), reply⟩] ≤ 1 :=
    Nat.le_refl 1
  rcases h.of_answered hanswer with ⟨answer, rfl, hserve⟩ | ⟨e, rfl, hsame, hcause⟩
  · cases hstored : server.stored? (keyOf α ns name) s with
    | none =>
      obtain ⟨e, s'', hmissing, -⟩ := h.missing hstored
      cases hserve.symm.trans hmissing
    | some j =>
      obtain ⟨_, s'', hdeleted, hreadable, hleft, hothers⟩ := h.deleted hstored
      cases hserve.symm.trans hdeleted
      rw [resultOfRemoval_ok hreadable]
      exact .gone hne (fun _ => hleft) hothers honce
  · cases hmissing : e.isMissing with
    | false =>
      rw [resultOfRemoval_error hmissing]
      exact .kept hsame honce
    | true =>
      rw [resultOfRemoval_missing hmissing]
      refine .gone hne (fun htruthful j hj => ?_) (hsame.sameBut _) honce
      have hnone := h.stored?_of_isMissing hmissing (hcause.imp_right (htruthful _ _ _))
      cases ((hsame _).trans hnone).symm.trans hj

/-! ### When every request is carried out -/

theorem run_present_over (haddress : address a = .ok (ns, name)) {j : Json}
    (hstored : server.stored? (keyOf α ns name) s = some j) :
    ∃ stored mid, decode j = (.ok stored : Decoded α) ∧ server.Same s mid ∧
      Script.run server.answer (settle a .present).run s =
        Script.run server.answer (afterRead ns name a (.ok (some stored))) mid := by
  have hname : ¬ name.isEmpty = true := by
    intro hempty
    rw [String.isEmpty_iff.1 hempty, h.nameless] at hstored
    cases hstored
  obtain ⟨stored, hdecode⟩ := h.readable hstored
  obtain ⟨mid, hserve, hsame⟩ := h.found hstored
  refine ⟨stored, mid, hdecode, hsame, ?_⟩
  rw [run_settle_present haddress, if_neg hname, run_ask, ApiServer.answer_of_serve hserve]
  exact congrArg (fun found => Script.run server.answer (afterRead ns name a found) mid)
    (resultOfGet_ok hdecode)

theorem run_present_dying [TellsMetadata α] (haddress : address a = .ok (ns, name)) {j : Json}
    (hstored : server.stored? (keyOf α ns name) s = some j)
    (hdying : Server.isTerminating j = true) :
    (Script.run server.answer (settle a .present).run s).1 = .ok (some terminatingDelay) := by
  obtain ⟨stored, mid, hdecode, -, hrun⟩ := h.run_present_over haddress hstored
  rw [hrun, afterRead, if_pos ((TellsMetadata.isTerminating_decode hdecode).trans hdying)]
  rfl

theorem run_present_again [TellsMetadata α] (haddress : address a = .ok (ns, name)) {j : Json}
    (hstored : server.stored? (keyOf α ns name) s = some j)
    (halive : Server.isTerminating j = false)
    (hcarries : j.carries (desiredPart (encode a)) = true) :
    (Script.run server.answer (settle a .present).run s).1 = .ok none := by
  obtain ⟨stored, mid, hdecode, hsame, hrun⟩ := h.run_present_over haddress hstored
  have hterminating := (TellsMetadata.isTerminating_decode hdecode).trans halive
  obtain ⟨s', hserve, -⟩ := h.reapplied haddress ((hsame _).trans hstored) hcarries
  rw [hrun, afterRead, if_neg (Bool.eq_false_iff.1 hterminating), run_ask,
    ApiServer.answer_of_serve hserve]
  exact resultOfWrite_ok hdecode

omit h in
theorem run_absent_of_serve (haddress : address a = .ok (ns, name)) (hname : name ≠ "")
    {answer : Except ErrorResponse Json}
    (hserve : server.serve (.delete (placeOf α (some ns)) name none) s = (answer, s')) :
    Script.run server.answer (settle a .absent).run s =
      (resultOfRemoval α (answer.mapError .api), s') := by
  have hnonempty : ¬ name.isEmpty = true := fun hempty => hname (String.isEmpty_iff.1 hempty)
  rw [run_settle_absent haddress, if_neg hnonempty, run_ask, ApiServer.answer_of_serve hserve]
  rfl

theorem run_absent_missing (haddress : address a = .ok (ns, name)) (hname : name ≠ "")
    (hstored : server.stored? (keyOf α ns name) s = none) :
    (Script.run server.answer (settle a .absent).run s).1 = .ok none ∧
      server.Same s (Script.run server.answer (settle a .absent).run s).2 := by
  obtain ⟨e, s', hserve, hcode⟩ := h.missing hstored
  have hmissing : (ClientError.api e).isMissing = true :=
    ClientError.isMissing_iff.2 ⟨e, rfl, hcode⟩
  rw [run_absent_of_serve haddress hname hserve]
  exact ⟨resultOfRemoval_missing (α := α) hmissing, h.refused hserve⟩

theorem run_absent (haddress : address a = .ok (ns, name)) (hname : name ≠ "") (s : σ) :
    (Script.run server.answer (settle a .absent).run s).1 = .ok none := by
  cases hstored : server.stored? (keyOf α ns name) s with
  | none => exact (h.run_absent_missing haddress hname hstored).1
  | some j =>
    obtain ⟨answer, s', hserve, hreadable, -⟩ := h.deleted hstored
    rw [run_absent_of_serve haddress hname hserve]
    exact resultOfRemoval_ok hreadable

end ApiServer.Contract

/-! ## Idempotence and atomicity -/

/-- A server may refuse any request with any error. -/
def anyError {σ : Type} : Request → σ → ClientError → Prop := fun _ _ _ => True

/-- What settling an object does on a server, when nobody else writes. -/
structure SettlesCleanly {σ α : Type} [Resource α] (server : ApiServer σ) (a : α)
    (ns name : String) : Prop where
  /-- An object that is being deleted is left alone until it is gone. -/
  waits {s : σ} {j : Json} (hstored : server.stored? (keyOf α ns name) s = some j)
    (hdying : Server.isTerminating j = true) :
    (Script.run server.answer (settle a .present).run s).1 = .ok (some terminatingDelay) ∧
    ∀ t r s', server.Course server.Truthful (settle a .present).run s t r s' →
      writesIn t = 0 ∧ (r = .ok (some terminatingDelay) ∨ ∃ e, r = .error e)
  /-- What was made present is there as it is to be, and making it present again changes nothing. -/
  present {s s' : σ} {t : List (Exchange Act.Reply)}
    (hcourse : server.Course anyError (settle a .present).run s t (.ok none) s') :
    (∃ j, server.stored? (keyOf α ns name) s' = some j ∧ Server.isTerminating j = false ∧
      j.carries (desiredPart (encode a)) = true) ∧
    (Script.run server.answer (settle a .present).run s').1 = .ok none ∧
    ∀ t r s'', server.Course anyError (settle a .present).run s' t r s'' → server.Same s' s''
  /-- What was made absent is gone or on its way out, and making it absent again keeps it so. -/
  absent {s s' : σ} {t : List (Exchange Act.Reply)} {d : Option Delay}
    (hcourse : server.Course server.Truthful (settle a .absent).run s t (.ok d) s') :
    d = none ∧
    (∀ j, server.stored? (keyOf α ns name) s' = some j → Server.isTerminating j = true) ∧
    (Script.run server.answer (settle a .absent).run s').1 = .ok none ∧
    ∀ t r s'', server.Course server.Truthful (settle a .absent).run s' t r s'' →
      ∀ j, server.stored? (keyOf α ns name) s'' = some j → Server.isTerminating j = true
  /-- A missing object counts as absent. -/
  missing {s : σ} (hname : name ≠ "") (hstored : server.stored? (keyOf α ns name) s = none) :
    (Script.run server.answer (settle a .absent).run s).1 = .ok none ∧
      server.Same s (Script.run server.answer (settle a .absent).run s).2
  /-- Whatever is refused, at most one write is sent, a failure changes nothing, and no other
  object is touched. -/
  atomic {presence : Presence} {s s' : σ} {t : List (Exchange Act.Reply)}
    {r : Except OperatorError (Option Delay)}
    (hcourse : server.Course anyError (settle a presence).run s t r s') :
    writesIn t ≤ 1 ∧ (∀ e, r = .error e → server.Same s s') ∧
      server.SameBut (keyOf α ns name) s s'

section

variable {σ α : Type} [Resource α] [TellsMetadata α] {server : ApiServer σ}
  {Refuses : Request → σ → ClientError → Prop} {a : α} {ns name : String} {s s' : σ}
  {t : List (Exchange Act.Reply)} {r : Except OperatorError (Option Delay)}

namespace ApiServer.Contract

variable (h : server.Contract α)
include h

/-- What a creation and an application leave. -/
theorem carried (haddress : address a = .ok (ns, name))
    (hends : Presents server Refuses a ns name s t (.ok none) s') :
    ∃ j, server.Keeps (keyOf α ns name) j s s' ∧ Server.isTerminating j = false ∧
      j.carries (desiredPart (encode a)) = true := by
  cases hends with
  | created hsame hwrite =>
    obtain ⟨-, hkeeps, hcarries, halive⟩ := h.created_at haddress hwrite
    exact ⟨_, ⟨hkeeps.stored, hsame.trans_sameBut hkeeps.others⟩, halive, hcarries⟩
  | applied hsame hstored halive hwrite =>
    obtain ⟨hkeeps, hcarries, hdying⟩ := h.applied hwrite
    rw [hsame, hstored, Option.any_some, halive] at hdying
    exact ⟨_, ⟨hkeeps.stored, hsame.trans_sameBut hkeeps.others⟩, hdying, hcarries⟩

/-- An object that is as it is to be stays so. -/
theorem same_of_carried (haddress : address a = .ok (ns, name)) {j : Json}
    (hstored : server.stored? (keyOf α ns name) s = some j)
    (hcarries : j.carries (desiredPart (encode a)) = true)
    (hends : Presents server Refuses a ns name s t r s') : server.Same s s' := by
  cases hends with
  | unread hsame | waits _ _ hsame | unwritten _ hsame => exact hsame
  | created hsame hwrite =>
    have hfree := (hsame _).symm.trans (h.created_at haddress hwrite).1
    cases hfree.symm.trans hstored
  | applied hsame _ _ hwrite =>
    obtain ⟨s'', hagain, hlast⟩ := h.reapplied haddress ((hsame _).trans hstored) hcarries
    cases hwrite.symm.trans hagain
    exact hsame.trans hlast

theorem settlesCleanly (haddress : address a = .ok (ns, name)) :
    SettlesCleanly server a ns name where
  waits {s j} hstored hdying := by
    refine ⟨h.run_present_dying haddress hstored hdying, fun t r s' hcourse => ?_⟩
    have hends := h.presents haddress hcourse
    cases hends with
    | unread _ hquiet => exact ⟨hquiet, .inr ⟨_, rfl⟩⟩
    | waits _ _ _ hquiet => exact ⟨hquiet, .inl rfl⟩
    | unwritten halive =>
      cases (halive (fun _ _ _ => id) j hstored).symm.trans hdying
    | created hsame hwrite =>
      have hfree := (hsame _).symm.trans (h.created_at haddress hwrite).1
      cases hfree.symm.trans hstored
    | applied _ hold halive =>
      cases hold.symm.trans hstored
      cases halive.symm.trans hdying
  present hcourse := by
    obtain ⟨j, hkeeps, halive, hcarries⟩ := h.carried haddress (h.presents haddress hcourse)
    refine ⟨⟨j, hkeeps.stored, halive, hcarries⟩, ?_, fun t r s'' hagain => ?_⟩
    · exact h.run_present_again haddress hkeeps.stored halive hcarries
    · exact h.same_of_carried haddress hkeeps.stored hcarries (h.presents haddress hagain)
  absent hcourse := by
    have hends := h.removes haddress hcourse
    cases hends with
    | gone hname hleft hothers =>
      have hdying := hleft fun _ _ _ => id
      refine ⟨rfl, hdying, h.run_absent haddress hname _, fun t r s'' hagain j hj => ?_⟩
      have hends := h.removes haddress hagain
      cases hends with
      | kept hsame => exact hdying j ((hsame _).symm.trans hj)
      | gone _ hleft => exact hleft (fun _ _ _ => id) j hj
  missing hname hstored := h.run_absent_missing haddress hname hstored
  atomic {presence} _ _ _ _ hcourse := by
    cases presence with
    | present =>
      have hends := h.presents haddress hcourse
      cases hends with
      | unread hsame hquiet => exact ⟨hquiet ▸ Nat.zero_le 1, fun _ _ => hsame, hsame.sameBut _⟩
      | waits _ _ hsame hquiet =>
        exact ⟨hquiet ▸ Nat.zero_le 1, fun _ _ => hsame, hsame.sameBut _⟩
      | unwritten _ hsame honce =>
        exact ⟨Nat.le_of_eq honce, fun _ _ => hsame, hsame.sameBut _⟩
      | created _ _ honce | applied _ _ _ _ honce =>
        obtain ⟨j, hkeeps, -⟩ := h.carried haddress (h.presents haddress hcourse)
        exact ⟨Nat.le_of_eq honce, nofun, hkeeps.others⟩
    | absent =>
      have hends := h.removes haddress hcourse
      cases hends with
      | kept hsame honce => exact ⟨honce, fun _ _ => hsame, hsame.sameBut _⟩
      | gone _ _ hothers honce => exact ⟨honce, nofun, hothers⟩

end ApiServer.Contract

end

/-- On every server that keeps its promises, jobs and pods with a name and a namespace are settled
idempotently and atomically. -/
theorem settling_is_idempotent_and_atomic {σ : Type} (server : ApiServer σ)
    (hjobs : server.Contract Job) (hpods : server.Contract Pod) (ns name : String) :
    (∀ job : Job, job.metadata.name = some name → job.metadata.namespaceName = some ns →
      SettlesCleanly server job ns name) ∧
    ∀ pod : Pod, pod.metadata.name = some name → pod.metadata.namespaceName = some ns →
      SettlesCleanly server pod ns name := by
  refine ⟨fun job hname hns => hjobs.settlesCleanly ?_, fun pod hname hns =>
    hpods.settlesCleanly ?_⟩
  · exact address_of_named hname hns
  · exact address_of_named hname hns

/-- A placeholder as it is asked for. -/
def reservingPod : Pod where
  metadata :=
    { name := some "logs-buffer-1"
      namespaceName := some "ops"
      labels := some (.ofList [("app.kubernetes.io/component", "placeholder")]) }

/-- A drain job as it is asked for. -/
def movingJob : Job where
  metadata := { name := some "logs-buffer-1-drainer", namespaceName := some "ops" }

theorem settling_is_idempotent_and_atomic_ops :
    (contentServer.Contract Job ∧ contentServer.Contract Pod) ∧
    SettlesCleanly contentServer movingJob "ops" "logs-buffer-1-drainer" ∧
    SettlesCleanly contentServer reservingPod "ops" "logs-buffer-1" ∧
    ∃ c : Content, Script.run contentServer.answer (settle reservingPod .present).run .empty =
        (.ok none, c) ∧
      (∃ j, c.objects (keyOf Pod "ops" "logs-buffer-1") = some j ∧
        Server.isTerminating j = false ∧ j.carries (desiredPart (encode reservingPod)) = true) ∧
      (Script.run contentServer.answer (settle reservingPod .present).run c).1 = .ok none := by
  have hsettles := fun ns name => settling_is_idempotent_and_atomic contentServer
    contract_contentServer_job contract_contentServer_pod ns name
  have hjob := (hsettles "ops" "logs-buffer-1-drainer").1 movingJob rfl rfl
  have hpod := (hsettles "ops" "logs-buffer-1").2 reservingPod rfl rfl
  obtain ⟨hpresent, hagain, -⟩ := hpod.present
    (ApiServer.course_run anyError (settle reservingPod .present).run Content.empty)
  exact ⟨⟨contract_contentServer_job, contract_contentServer_pod⟩, hjob, hpod, _, rfl, hpresent,
    hagain⟩

end Api

end VolumeDrain
