import Mathlib.Logic.Relation
import VolumeDrain.Operator.Reconcile

/-!
# Errors that waiting can clear

An error of the operator may wrap another one, and so on to any depth: a failed observation wraps
the error of its read, the errors of a pass have a fault for each volume, and a fault of the store
wraps what the store answered. Whether waiting can clear an error is decided at the bottom, by the
errors that wrap no other; nothing that lies in between makes a difference.
-/
namespace VolumeDrain

/-- An error that may be a part of another: an error of the operator, or a fault at a volume. -/
inductive ErrorNode where
  | operator (error : OperatorError)
  | volume (fault : VolumeFault)

namespace ErrorNode

/-- Whether waiting alone can clear the error. -/
def isRetriable : ErrorNode → Bool
  | operator error => error.isRetriable
  | volume fault => fault.isRetriable

/-- One error directly wraps another. -/
inductive Wraps : ErrorNode → ErrorNode → Prop
  | observation (what : String) (source : OperatorError) :
      Wraps (operator (.observation what source)) (operator source)
  | member {errors : List VolumeError} {e : VolumeError} (h : e ∈ errors) :
      Wraps (operator (.drain errors)) (volume e.fault)
  | apply (operation : String) (source : OperatorError) :
      Wraps (volume (.apply operation source)) (operator source)

/-- One error is found in another, at some depth. -/
abbrev Reaches : ErrorNode → ErrorNode → Prop := Relation.ReflTransGen Wraps

/-- An error that wraps no other and can clear by itself: a conflict at a volume, an answer of the
server that tells of a conflict or of a failure of its own, or no answer to go by. -/
inductive Transient : ErrorNode → Prop
  | conflict (operation : String) : Transient (volume (.conflict operation))
  | answered {response : ErrorResponse} (h : response.code = 409 ∨ 500 ≤ response.code) :
      Transient (operator (.client (.api response)))
  | unanswered {e : ClientError} (h : ∀ response, e ≠ .api response) :
      Transient (operator (.client e))

variable {n leaf : ErrorNode} {errors : List VolumeError}

/-- What is transient is at the bottom. -/
theorem Transient.not_wraps (h : leaf.Transient) (n : ErrorNode) : ¬ Wraps leaf n := by
  cases h <;> nofun

theorem anyRetriable_eq_any (errors : List VolumeError) :
    VolumeError.anyRetriable errors = errors.any fun e => e.fault.isRetriable := by
  induction errors with
  | nil => rfl
  | cons e rest ih =>
    obtain ⟨name, fault⟩ := e
    rw [VolumeError.anyRetriable, VolumeError.isRetriable, ih, List.any_cons]
    rfl

theorem anyRetriable_iff :
    VolumeError.anyRetriable errors = true ↔ ∃ e ∈ errors, e.fault.isRetriable = true := by
  rw [anyRetriable_eq_any, List.any_eq_true]

theorem isRetriable_client_iff {e : ClientError} :
    e.isRetriable = true ↔ (operator (.client e)).Transient := by
  cases e with
  | api response =>
    rw [ClientError.isRetriable, Bool.or_eq_true, beq_iff_eq, decide_eq_true_iff]
    refine ⟨.answered, fun h => ?_⟩
    cases h with
    | answered h => exact h
    | unanswered h => exact absurd rfl (h response)
  | transport | emptyName | undecodable => exact iff_of_true rfl (.unanswered nofun)

/-- Whether waiting can clear an error is decided by the error itself or by one that it wraps. -/
theorem isRetriable_iff_step :
    n.isRetriable = true ↔ n.Transient ∨ ∃ m, Wraps n m ∧ m.isRetriable = true := by
  cases n with
  | operator error =>
    cases error with
    | client e =>
      refine isRetriable_client_iff.trans ⟨.inl, fun h => h.resolve_right ?_⟩
      rintro ⟨m, h, -⟩
      cases h
    | serialization | configuration | validation =>
      refine iff_of_false nofun ?_
      rintro (h | ⟨m, h, -⟩) <;> cases h
    | observation what source =>
      refine ⟨fun h => .inr ⟨_, .observation what source, h⟩, ?_⟩
      rintro (h | ⟨m, h, hm⟩) <;> cases h
      exact hm
    | drain errors =>
      refine anyRetriable_iff.trans ⟨fun ⟨e, he, h⟩ => .inr ⟨_, .member he, h⟩, ?_⟩
      rintro (h | ⟨m, h, hm⟩) <;> cases h
      exact ⟨_, ‹_›, hm⟩
  | volume fault =>
    cases fault with
    | build | drainFailed =>
      refine iff_of_false nofun ?_
      rintro (h | ⟨m, h, -⟩) <;> cases h
    | apply operation source =>
      refine ⟨fun h => .inr ⟨_, .apply operation source, h⟩, ?_⟩
      rintro (h | ⟨m, h, hm⟩) <;> cases h
      exact hm
    | conflict operation => exact iff_of_true rfl (.inl (.conflict operation))

/-- Errors are built from the bottom up. -/
theorem Wraps.sizeOf_lt {m : ErrorNode} (h : Wraps n m) : sizeOf m < sizeOf n := by
  cases h with
  | observation =>
    simp only [ErrorNode.operator.sizeOf_spec, OperatorError.observation.sizeOf_spec]
    omega
  | apply =>
    simp only [ErrorNode.volume.sizeOf_spec, ErrorNode.operator.sizeOf_spec,
      VolumeFault.apply.sizeOf_spec]
    omega
  | @member errors e h =>
    have hmember := List.sizeOf_lt_of_mem h
    obtain ⟨name, fault⟩ := e
    simp [VolumeError.fault] at hmember ⊢
    omega

/-- Waiting can clear an error exactly if it can clear one of those at its bottom. -/
theorem isRetriable_iff :
    n.isRetriable = true ↔ ∃ leaf, Reaches n leaf ∧ leaf.Transient := by
  constructor
  · -- Each error that is wrapped is smaller than the one that wraps it.
    induction hsize : sizeOf n using Nat.strongRecOn generalizing n with
    | ind size ih =>
      intro h
      rcases isRetriable_iff_step.1 h with htransient | ⟨m, hwraps, hm⟩
      · exact ⟨n, .refl, htransient⟩
      · obtain ⟨leaf, hreaches, htransient⟩ := ih _ (hsize ▸ hwraps.sizeOf_lt) rfl hm
        exact ⟨leaf, .head hwraps hreaches, htransient⟩
  · rintro ⟨leaf, hreaches, htransient⟩
    induction hreaches using Relation.ReflTransGen.head_induction_on with
    | refl => exact isRetriable_iff_step.2 (.inl htransient)
    | head hwraps _ ih => exact isRetriable_iff_step.2 (.inr ⟨_, hwraps, ih⟩)

end ErrorNode

/-- A conflict is told from other errors of the store, and nothing is lost by that. -/
theorem isRetriable_ofStore (operation : String) (e : OperatorError) :
    (VolumeFault.ofStore operation e).isRetriable = e.isRetriable := by
  cases e with
  | client e =>
    rw [VolumeFault.ofStore]
    split
    · rename_i hconflict
      obtain ⟨response, rfl, hcode⟩ : ∃ response, e = .api response ∧ response.code = 409 := by
        cases e with
        | api response => exact ⟨response, rfl, by simpa [ClientError.isConflict,
            ClientError.code?] using hconflict⟩
        | transport | emptyName | undecodable => cases hconflict
      refine Eq.symm (ErrorNode.isRetriable_client_iff.2 (.answered (.inl hcode)))
    · rfl
  | serialization | configuration | validation | observation | drain => rfl

/-- Further errors of a pass take nothing away. -/
theorem isRetriable_drain_mono {errors more : List VolumeError} (hmore : errors ⊆ more)
    (h : (OperatorError.drain errors).isRetriable = true) :
    (OperatorError.drain more).isRetriable = true := by
  obtain ⟨e, he, hretriable⟩ := ErrorNode.anyRetriable_iff.1 h
  exact ErrorNode.anyRetriable_iff.2 ⟨e, hmore he, hretriable⟩

namespace Operator

theorem retryDelay_eq_iff (e : OperatorError) :
    (retryDelay e = .seconds 15 ↔ e.isRetriable = true) ∧
      (retryDelay e = .seconds 60 ↔ e.isRetriable = false) := by
  rw [retryDelay]
  cases e.isRetriable <;> decide

/-- No wrapping changes whether waiting can clear an error. It can exactly if it can clear one of
the errors at the bottom, however deep they lie; a failed observation and a fault of the store go by
what they wrap, the errors of a pass by any one of them; and the operator comes back after fifteen
seconds to what waiting can clear, and after a minute to everything else. -/
theorem retriability_survives_wrapping :
    (∀ n : ErrorNode, n.isRetriable = true ↔
      ∃ leaf, n.Reaches leaf ∧ (∀ m, ¬ leaf.Wraps m) ∧ leaf.Transient) ∧
    (∀ (what : String) (e : OperatorError),
      (OperatorError.observation what e).isRetriable = e.isRetriable) ∧
    (∀ (operation : String) (e : OperatorError),
      (VolumeFault.ofStore operation e).isRetriable = e.isRetriable) ∧
    (∀ errors : List VolumeError, (OperatorError.drain errors).isRetriable = true ↔
      ∃ e ∈ errors, e.fault.isRetriable = true) ∧
    (∀ errors more : List VolumeError, errors ⊆ more →
      (OperatorError.drain errors).isRetriable = true →
        (OperatorError.drain more).isRetriable = true) ∧
    ∀ e : OperatorError, (retryDelay e = .seconds 15 ↔ e.isRetriable = true) ∧
      (retryDelay e = .seconds 60 ↔ e.isRetriable = false) := by
  refine ⟨fun n => ?_, fun _ _ => rfl, isRetriable_ofStore, fun _ => ErrorNode.anyRetriable_iff,
    fun _ _ => isRetriable_drain_mono, retryDelay_eq_iff⟩
  refine ErrorNode.isRetriable_iff.trans (exists_congr fun leaf => and_congr_right fun _ => ?_)
  exact ⟨fun h => ⟨h.not_wraps, h⟩, And.right⟩

/-- The errors of a pass, one of which comes of a conflict two wrappings further down. -/
def failedPass : List VolumeError :=
  [.mk "buffer-logs-0" (.drainFailed 2),
   .mk "buffer-logs-1" (.apply "removing placeholder pod" (.observation "pods"
     (.client (.api ⟨"Failure", "pods was modified", "Conflict", 409⟩))))]

theorem retriability_survives_wrapping_failedPass :
    (OperatorError.drain failedPass).isRetriable = true ∧
    (OperatorError.observation "volumes" (.drain failedPass)).isRetriable = true ∧
    (OperatorError.drain (.mk "buffer-logs-2" (.build .missingClaimName) :: failedPass)).isRetriable
      = true ∧
    retryDelay (.observation "volumes" (.drain failedPass)) = .seconds 15 := by
  obtain ⟨hleaf, hobservation, -, -, hmore, hdelay⟩ := retriability_survives_wrapping
  have hpass : (OperatorError.drain failedPass).isRetriable = true :=
    (hleaf (.operator (.drain failedPass))).2 ⟨_,
      .head (.member (List.mem_cons_of_mem _ List.mem_cons_self)) <|
      .head (.apply _ _) <| .single (.observation _ _), nofun, .answered (.inl rfl)⟩
  have hobserved := (hobservation "volumes" (.drain failedPass)).trans hpass
  exact ⟨hpass, hobserved, hmore _ _ (List.subset_cons_self _ _) hpass, (hdelay _).1.2 hobserved⟩

end Operator

end VolumeDrain
