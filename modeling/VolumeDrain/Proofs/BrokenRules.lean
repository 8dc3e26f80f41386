import Mathlib.Data.List.DropRight
import VolumeDrain.Pool.Validation
import VolumeDrain.Proofs.Numerals

/-!
# The rules of a specification

What a pool's specification has to keep is said here rule by rule, without regard to how it is
checked. Checking reports exactly the rules that are broken: each once, in their order, under the
field and with the text of the rule. In particular an extra volume is reported whenever its name
stands at an earlier place, be it for the second or for the tenth time.
-/
namespace VolumeDrain

namespace Text

variable {s : String}

/-- The text without the white space at its ends. -/
def trim (s : String) : String :=
  String.ofList ((skipBlanks s.toList).rdropWhile isWhiteSpace)

theorem isBlank_iff : isBlank s = true ↔ trim s = "" := by
  rw [isBlank, trim, String.ofList_eq_empty_iff, List.rdropWhile_eq_nil_iff, List.all_eq_true]
  refine ⟨fun h c hc => h c (List.dropWhile_subset _ hc), fun h => ?_⟩
  rw [← List.dropWhile_eq_nil_iff]
  -- What is left after the blanks would start with something else.
  by_contra hne
  have hfirst := List.head_dropWhile_not isWhiteSpace hne
  exact Bool.false_ne_true (hfirst.symm.trans (h _ (List.head_mem hne)))

end Text

namespace Pool

/-- The lowercase labels of RFC 1123. -/
structure IsLabel (s : String) : Prop where
  length_pos : 1 ≤ s.length
  length_le : s.length ≤ 63
  chars : ∀ c ∈ s.toList, ('a' ≤ c ∧ c ≤ 'z') ∨ ('0' ≤ c ∧ c ≤ '9') ∨ c = '-'
  first : ¬ ['-'] <+: s.toList
  last : ¬ ['-'] <:+ s.toList

theorem isLabelChar_iff {c : Char} :
    isLabelChar c = true ↔ ('a' ≤ c ∧ c ≤ 'z') ∨ ('0' ≤ c ∧ c ≤ '9') ∨ c = '-' := by
  simp [isLabelChar, or_assoc]

theorem isDnsLabel_iff {s : String} : isDnsLabel s = true ↔ IsLabel s := by
  have hempty : s.toList.isEmpty = false ↔ 1 ≤ s.length := by
    rw [List.isEmpty_eq_false_iff, ← List.length_pos_iff, String.length_toList]
    exact Iff.rfl
  have hfirst : (s.toList.head? != some '-') = true ↔ ¬ ['-'] <+: s.toList := by
    rw [bne_iff_ne, ne_eq, List.singleton_prefix_iff_head?_eq_some]
  have hlast : (s.toList.getLast? != some '-') = true ↔ ¬ ['-'] <:+ s.toList := by
    rw [bne_iff_ne, ne_eq, List.singleton_suffix_iff_getLast?_eq_some]
  simp only [isDnsLabel, Bool.and_eq_true, Bool.not_eq_true', hempty, hfirst, hlast,
    List.all_eq_true, isLabelChar_iff, decide_eq_true_iff, String.length_toList]
  constructor
  · rintro ⟨⟨⟨⟨hpos, hle⟩, hchars⟩, hfirst⟩, hlast⟩
    exact ⟨hpos, hle, hchars, hfirst, hlast⟩
  · rintro ⟨hpos, hle, hchars, hfirst, hlast⟩
    exact ⟨⟨⟨⟨hpos, hle⟩, hchars⟩, hfirst⟩, hlast⟩

instance (s : String) : Decidable (IsLabel s) := decidable_of_iff _ isDnsLabel_iff

/-! ## The rules -/

/-- A rule that a specification can break. -/
inductive Rule where
  | replicas
  | workerImage
  | claimName
  | drainImage
  | backoffLimit
  /-- The extra volume at a place has a name that none before it has. -/
  | freshName (place : Nat)
  /-- The extra volume at a place is not called as the claim is. -/
  | otherName (place : Nat)
deriving DecidableEq

namespace Rule

/-- The rule is broken by the specification. -/
def Broken (s : Spec) : Rule → Prop
  | replicas => s.replicas.toInt < 0
  | workerImage => Text.trim s.image.repository = ""
  | claimName => ¬ IsLabel s.bufferStorage.claimName
  | drainImage =>
    s.scaling.drain.enabled = true ∧ Text.trim s.scaling.drain.image.repository = ""
  | backoffLimit =>
    s.scaling.drain.enabled = true ∧ ∃ limit ∈ s.scaling.drain.backoffLimit, limit.toInt < 0
  | freshName place =>
    ∃ v ∈ s.extraVolumes[place]?, ∃ earlier ∈ s.extraVolumes.take place,
      earlier.volumeName = v.volumeName
  | otherName place =>
    ∃ v ∈ s.extraVolumes[place]?, v.volumeName = s.bufferStorage.claimName

instance (s : Spec) : DecidablePred (Broken s)
  | replicas => inferInstanceAs (Decidable (_ < _))
  | workerImage => inferInstanceAs (Decidable (_ = _))
  | claimName => inferInstanceAs (Decidable (¬ _))
  | drainImage => inferInstanceAs (Decidable (_ ∧ _))
  | backoffLimit => inferInstanceAs (Decidable (_ ∧ ∃ limit ∈ _, _))
  | freshName _ => inferInstanceAs (Decidable (∃ v ∈ _, ∃ earlier ∈ _, _))
  | otherName _ => inferInstanceAs (Decidable (∃ v ∈ _, _))

/-- The field of the name of an extra volume. -/
def nameField (place : Nat) : String :=
  "spec.extraVolumes[" ++ toString place ++ "].volumeName"

/-- The field that a rule is about. -/
def field : Rule → String
  | replicas => "spec.replicas"
  | workerImage => "spec.image.repository"
  | claimName => "spec.bufferStorage.claimName"
  | drainImage => "spec.scaling.drain.image.repository"
  | backoffLimit => "spec.scaling.drain.backoffLimit"
  | freshName place => nameField place
  | otherName place => nameField place

/-- The name of the extra volume at a place. -/
def nameAt (s : Spec) (place : Nat) : String :=
  ((s.extraVolumes[place]?).map (·.volumeName)).getD ""

/-- What is said of a rule that a specification breaks. -/
def message (s : Spec) : Rule → String
  | replicas => "replicas must not be negative"
  | workerImage => "worker image repository must be set"
  | claimName => "claim name must be a lowercase RFC 1123 label"
  | drainImage => "drain-watch image repository must be set when draining is enabled"
  | backoffLimit => "backoff limit must not be negative"
  | freshName place => "duplicate volume name " ++ nameAt s place
  | otherName _ => "volume name collides with the buffer volume"

theorem message_freshName (s : Spec) (place : Nat) :
    (freshName place).message s = "duplicate volume name " ++ nameAt s place := rfl

/-- The error of a rule. -/
def error (s : Spec) (r : Rule) : SpecError := ⟨r.field, r.message s⟩

/-- The place of a rule among all: the rules about extra volumes come last, by their places. -/
def rank : Rule → Nat
  | replicas => 0
  | workerImage => 1
  | claimName => 2
  | drainImage => 3
  | backoffLimit => 4
  | freshName place => 5 + 2 * place
  | otherName place => 5 + 2 * place + 1

end Rule

variable {s : Spec}

/-- The rules about the extra volumes from a place on, for a number of them. -/
def nameRules (place count : Nat) : List Rule :=
  (List.range' place count).flatMap fun i => [.freshName i, .otherName i]

/-- The rules about a specification, in their order. -/
def Spec.rules (s : Spec) : List Rule :=
  [.replicas, .workerImage, .claimName, .drainImage, .backoffLimit] ++
    nameRules 0 s.extraVolumes.length

theorem nameRules_succ (place count : Nat) : nameRules place (count + 1) =
    [.freshName place, .otherName place] ++ nameRules (place + 1) count := by
  rw [nameRules, List.range'_succ, List.flatMap_cons]
  rfl

theorem mem_nameRules_iff {r : Rule} {place count : Nat} : r ∈ nameRules place count ↔
    ∃ i, place ≤ i ∧ i < place + count ∧ (r = .freshName i ∨ r = .otherName i) := by
  simp [nameRules, List.mem_flatMap, List.mem_range'_1, and_assoc]

theorem map_rank_nameRules (place count : Nat) :
    (nameRules place count).map Rule.rank = List.range' (5 + 2 * place) (2 * count) := by
  induction count generalizing place with
  | zero => rfl
  | succ count ih =>
    rw [nameRules_succ, List.map_append, ih, show 2 * (count + 1) = 2 * count + 1 + 1 from rfl,
      List.range'_succ, List.range'_succ, show 5 + 2 * (place + 1) = 5 + 2 * place + 1 + 1 by omega]
    rfl

theorem pairwise_rules (s : Spec) : s.rules.Pairwise (·.rank < ·.rank) := by
  have hranks : s.rules.map Rule.rank = List.range' 0 (5 + 2 * s.extraVolumes.length) := by
    rw [Spec.rules, List.map_append, map_rank_nameRules]
    change List.range' 0 5 ++ List.range' (0 + 5) _ = _
    exact List.range'_append_1
  rw [← List.pairwise_map (f := Rule.rank), hranks]
  exact List.pairwise_lt_range'

/-- Only a rule about the specification can be broken by it. -/
theorem mem_rules_of_broken {r : Rule} (h : r.Broken s) : r ∈ s.rules := by
  have hplace : ∀ {place : Nat} {v : ExtraVolume}, v ∈ s.extraVolumes[place]? →
      0 ≤ place ∧ place < 0 + s.extraVolumes.length := by
    intro place v hv
    have hlt := (List.getElem?_eq_some_iff.1 hv).1
    omega
  rw [Spec.rules, List.mem_append, mem_nameRules_iff]
  cases r with
  | replicas | workerImage | claimName | drainImage | backoffLimit => exact .inl (by simp)
  | freshName place =>
    obtain ⟨v, hv, -⟩ := h
    exact .inr ⟨place, (hplace hv).1, (hplace hv).2, .inl rfl⟩
  | otherName place =>
    obtain ⟨v, hv, -⟩ := h
    exact .inr ⟨place, (hplace hv).1, (hplace hv).2, .inr rfl⟩

/-! ## What is reported -/

/-- The errors of those of some rules that are broken. -/
def Spec.report (s : Spec) (rules : List Rule) : List SpecError :=
  (rules.filter (Rule.Broken s ·)).map (Rule.error s)

theorem report_append (rules others : List Rule) :
    s.report (rules ++ others) = s.report rules ++ s.report others := by
  rw [Spec.report, List.filter_append, List.map_append]
  rfl

theorem report_cons (r : Rule) (rules : List Rule) :
    s.report (r :: rules) = s.report [r] ++ s.report rules :=
  report_append [r] rules

/-- A rule is reported if it is found broken. -/
theorem errorIf_eq_report (r : Rule) {broken : Bool} (h : broken = true ↔ r.Broken s) :
    Spec.errorIf broken r.field (r.message s) = s.report [r] := by
  cases broken with
  | true => simp [Spec.errorIf, Spec.report, ← h, Rule.error]
  | false => simp [Spec.errorIf, Spec.report, ← h]

theorem drainFieldErrors_eq (s : Spec) :
    s.drainFieldErrors = s.report [.drainImage, .backoffLimit] := by
  have hlimit : s.scaling.drain.backoffLimit.any (· < 0) = true ↔
      ∃ limit ∈ s.scaling.drain.backoffLimit, limit.toInt < 0 := by
    simp [Option.any_eq_true, Int32.lt_iff_toInt_lt]
  rw [Spec.drainFieldErrors]
  cases henabled : s.scaling.drain.enabled with
  | false => simp [Spec.report, Rule.Broken, henabled]
  | true =>
    rw [report_cons]
    refine congrArg₂ (· ++ ·) (errorIf_eq_report .drainImage ?_)
      (errorIf_eq_report .backoffLimit ?_)
    · simp [Rule.Broken, henabled, Text.isBlank_iff]
    · simp only [Rule.Broken, henabled, true_and, hlimit]

/-- The names that were seen are those of the extra volumes before the ones that are left. -/
theorem extraVolumeErrors_eq {before rest : List ExtraVolume} {seen : List String}
    (hsplit : s.extraVolumes = before ++ rest)
    (hseen : ∀ name, name ∈ seen ↔ ∃ earlier ∈ before, earlier.volumeName = name) :
    Spec.extraVolumeErrors s.bufferStorage.claimName seen before.length rest =
      s.report (nameRules before.length rest.length) := by
  induction rest generalizing before seen with
  | nil => rfl
  | cons v rest ih =>
    have hv : s.extraVolumes[before.length]? = some v := by rw [hsplit]; simp
    have hbefore : s.extraVolumes.take before.length = before := by rw [hsplit]; simp
    have hfresh : seen.contains v.volumeName = true ↔
        (Rule.freshName before.length).Broken s := by
      simp [Rule.Broken, hv, hbefore, hseen]
    have hother : (v.volumeName == s.bufferStorage.claimName) = true ↔
        (Rule.otherName before.length).Broken s := by
      simp [Rule.Broken, hv]
    have hnext : ∀ name, name ∈ v.volumeName :: seen ↔
        ∃ earlier ∈ before ++ [v], earlier.volumeName = name := by
      intro name
      rw [List.mem_cons, hseen]
      simp [or_and_right, exists_or, or_comm, eq_comm]
    have hrest := @ih (before ++ [v]) (v.volumeName :: seen)
      (hsplit.trans (List.append_cons before v rest)) hnext
    rw [List.length_append, List.length_singleton] at hrest
    have hname : Rule.nameAt s before.length = v.volumeName := by
      rw [Rule.nameAt, hv, Option.map_some, Option.getD_some]
    rw [List.length_cons, nameRules_succ, report_append, report_cons, ← hrest,
      ← errorIf_eq_report _ hfresh, ← errorIf_eq_report _ hother, Rule.message_freshName, hname]
    exact Spec.extraVolumeErrors.eq_2 ..

theorem errors_eq (s : Spec) : s.errors = s.report s.rules := by
  have hreplicas : decide (s.replicas < 0) = true ↔ Rule.replicas.Broken s := by
    simp [Rule.Broken, Int32.lt_iff_toInt_lt]
  have himage : Text.isBlank s.image.repository = true ↔ Rule.workerImage.Broken s :=
    Text.isBlank_iff
  have hclaim : (!isDnsLabel s.bufferStorage.claimName) = true ↔ Rule.claimName.Broken s := by
    simp [Rule.Broken, ← isDnsLabel_iff]
  have hextras : Spec.extraVolumeErrors s.bufferStorage.claimName [] 0 s.extraVolumes =
      s.report (nameRules 0 s.extraVolumes.length) :=
    extraVolumeErrors_eq (List.nil_append _).symm (by simp)
  rw [Spec.rules, report_append, report_cons, report_cons .workerImage, report_cons .claimName,
    ← errorIf_eq_report _ hreplicas, ← errorIf_eq_report _ himage, ← errorIf_eq_report _ hclaim,
    ← drainFieldErrors_eq, ← hextras, ← List.append_assoc, ← List.append_assoc]
  rfl

theorem nameField_injective {i j : Nat} (h : Rule.nameField i = Rule.nameField j) : i = j :=
  Text.toString_injective ((String.append_right_inj _).1 ((String.append_left_inj _).1 h))

theorem eq_of_field_eq_nameField {r : Rule} {place : Nat} (h : r.field = Rule.nameField place) :
    r = .freshName place ∨ r = .otherName place := by
  have hsixth : r.field.toList[5]? = some 'e' := by
    rw [h]
    change ("spec.extraVolumes[" ++ toString place ++ "].volumeName").toList[5]? = _
    rw [String.append_assoc, String.toList_append]
    rfl
  cases r with
  | freshName i => exact .inl (congrArg _ (nameField_injective h))
  | otherName i => exact .inr (congrArg _ (nameField_injective h))
  | replicas | workerImage | claimName | drainImage | backoffLimit =>
    exact absurd hsixth (by decide)

theorem message_freshName_ne (s : Spec) (i j : Nat) :
    (Rule.freshName i).message s ≠ (Rule.otherName j).message s := by
  intro h
  have hfirst : ((Rule.freshName i).message s).toList.head? = some 'd' := by
    rw [Rule.message_freshName, String.toList_append]
    rfl
  rw [h] at hfirst
  exact absurd hfirst (by decide : "volume name collides with the buffer volume".toList.head? ≠ _)

/-- An error tells which rule is broken. -/
theorem error_injective (s : Spec) : Function.Injective (Rule.error s) := by
  intro r r' h
  obtain ⟨hfield, hmessage⟩ := SpecError.mk.inj h
  cases r' with
  | freshName i =>
    rcases eq_of_field_eq_nameField hfield with rfl | rfl
    · rfl
    · exact absurd hmessage.symm (message_freshName_ne s i i)
  | otherName i =>
    rcases eq_of_field_eq_nameField hfield with rfl | rfl
    · exact absurd hmessage (message_freshName_ne s i i)
    · rfl
  | replicas | workerImage | claimName | drainImage | backoffLimit =>
    cases r with
    | freshName i | otherName i =>
      rcases eq_of_field_eq_nameField hfield.symm with h | h <;> cases h
    | _ => first | rfl | exact absurd hfield (by decide)

theorem mem_broken_iff (s : Spec) (r : Rule) :
    r ∈ s.rules.filter (Rule.Broken s ·) ↔ r.Broken s := by
  rw [List.mem_filter, decide_eq_true_iff]
  exact and_iff_right_of_imp mem_rules_of_broken

/-- A specification is valid exactly if it breaks no rule. -/
theorem isValid_iff (s : Spec) : s.isValid = true ↔ ∀ r : Rule, ¬ r.Broken s := by
  rw [Spec.isValid, List.isEmpty_iff, errors_eq, Spec.report, List.map_eq_nil_iff,
    List.eq_nil_iff_forall_not_mem]
  exact forall_congr' fun r => not_congr (mem_broken_iff s r)

/-- Checking a specification reports the rules that it breaks: each once, in their order and nothing
else; and the specification is valid exactly if it breaks none. -/
theorem errors_are_broken_rules (s : Spec) :
    (∃ broken : List Rule, s.errors = broken.map (Rule.error s) ∧
      (∀ r, r ∈ broken ↔ r.Broken s) ∧ broken.Pairwise (·.rank < ·.rank)) ∧
    s.errors.Nodup ∧ (s.isValid = true ↔ ∀ r : Rule, ¬ r.Broken s) := by
  have hordered : (s.rules.filter (Rule.Broken s ·)).Pairwise (·.rank < ·.rank) :=
    (pairwise_rules s).filter _
  refine ⟨⟨_, errors_eq s, mem_broken_iff s, hordered⟩, ?_, isValid_iff s⟩
  rw [errors_eq, Spec.report, List.Nodup, List.pairwise_map]
  refine hordered.imp fun {r r'} hlt herror => ?_
  rw [error_injective s herror] at hlt
  exact Nat.lt_irrefl _ hlt

end Pool

end VolumeDrain
