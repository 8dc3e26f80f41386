import VolumeDrain.Text.Ordinal

/-!
# Numbers at the ends of names

A number is read digit by digit and given up as soon as it passes a limit, however many digits are
still to come. This refuses no text that is worth less as a whole, for a number never shrinks by
further digits; and leading zeros are worth nothing, so that no length is too long. An ordinal is
read off a name exactly where a number of 32 bits follows the last hyphen.
-/
namespace VolumeDrain.Text

/-! ## Digits -/

/-- The character is a decimal digit. Digits of other scripts are none. -/
def IsDecimal (c : Char) : Prop := '0' ≤ c ∧ c ≤ '9'

instance : DecidablePred IsDecimal := fun c => inferInstanceAs (Decidable ('0' ≤ c ∧ c ≤ '9'))

/-- The text is a run of one or more digits. -/
structure Digits (text : List Char) : Prop where
  ne_nil : text ≠ []
  isDecimal : ∀ c ∈ text, IsDecimal c

variable {limit m n : Nat} {c : Char} {cs suffix : List Char} {name : String}

theorem isDigit_iff : c.isDigit = true ↔ IsDecimal c := by
  rw [Char.isDigit, Bool.and_eq_true, decide_eq_true_iff, decide_eq_true_iff]
  exact Iff.rfl

theorem Digits.notMem (h : Digits cs) (hc : ¬ IsDecimal c) : c ∉ cs := fun hmem =>
  hc (h.isDecimal c hmem)

theorem withDigit?_eq_some_iff : withDigit? limit n c = some m ↔
    IsDecimal c ∧ 10 * n + (c.toNat - '0'.toNat) = m ∧ m ≤ limit := by
  rw [withDigit?, Option.ite_none_right_eq_some, Bool.and_eq_true, isDigit_iff,
    decide_eq_true_iff, Option.some.injEq, and_assoc]
  exact and_congr_right fun _ => ⟨fun ⟨hle, hm⟩ => ⟨hm, hm ▸ hle⟩, fun ⟨hm, hle⟩ => ⟨hm ▸ hle, hm⟩⟩

/-- Further digits never lower a number. -/
theorem le_ofDigitChars (n : Nat) (cs : List Char) : n ≤ Nat.ofDigitChars 10 cs n := by
  have hpow : n ≤ 10 ^ cs.length * n := Nat.le_mul_of_pos_left n (Nat.pow_pos (by decide))
  rw [Nat.ofDigitChars_eq_ofDigitChars_zero]
  omega

/-- Reading on after a number that is within the limit. -/
theorem foldlM_withDigit?_eq_some_iff (hn : n ≤ limit) :
    cs.foldlM (withDigit? limit) n = some m ↔
      (∀ c ∈ cs, IsDecimal c) ∧ Nat.ofDigitChars 10 cs n = m ∧ m ≤ limit := by
  induction cs generalizing n with
  | nil =>
    rw [Nat.ofDigitChars_nil]
    exact ⟨fun h => ⟨nofun, Option.some.inj h, Option.some.inj h ▸ hn⟩,
      fun h => congrArg some h.2.1⟩
  | cons c rest ih =>
    rw [List.foldlM_cons, Option.bind_eq_bind, Option.bind_eq_some_iff, Nat.ofDigitChars_cons,
      List.forall_mem_cons]
    constructor
    · rintro ⟨next, hnext, hrest⟩
      obtain ⟨hc, rfl, hle⟩ := withDigit?_eq_some_iff.1 hnext
      obtain ⟨hdecimal, hvalue, hm⟩ := (ih hle).1 hrest
      exact ⟨⟨hc, hdecimal⟩, hvalue, hm⟩
    · rintro ⟨⟨hc, hdecimal⟩, hvalue, hm⟩
      -- The digits up to here are worth no more than all of them, so the limit is not passed yet.
      have hle : 10 * n + (c.toNat - '0'.toNat) ≤ limit :=
        Nat.le_trans (le_ofDigitChars _ rest) (hvalue ▸ hm)
      exact ⟨_, withDigit?_eq_some_iff.2 ⟨hc, rfl, hle⟩, (ih hle).2 ⟨hdecimal, hvalue, hm⟩⟩

theorem readDigits_eq_some_iff : readDigits limit cs = some n ↔
    Digits cs ∧ Nat.ofDigitChars 10 cs 0 = n ∧ n ≤ limit := by
  rw [readDigits, Option.ite_none_left_eq_some, foldlM_withDigit?_eq_some_iff (Nat.zero_le _),
    List.isEmpty_iff, ← and_assoc]
  exact and_congr_left fun _ => ⟨fun ⟨hne, hdecimal⟩ => ⟨hne, hdecimal⟩, fun h => ⟨h.1, h.2⟩⟩

/-! ## Numerals -/

/-- The text writes the number in digits, any number of leading zeros among them, with one plus
sign in front or none. -/
inductive Numeral : List Char → Nat → Prop
  | bare {digits} (h : Digits digits) : Numeral digits (Nat.ofDigitChars 10 digits 0)
  | plus {digits} (h : Digits digits) : Numeral ('+' :: digits) (Nat.ofDigitChars 10 digits 0)

/-- The text writes no number: no digits are there, or something else than a digit stands elsewhere
than as a plus sign in front. -/
inductive NoNumeral : List Char → Prop
  | empty : NoNumeral []
  | sign : NoNumeral ['+']
  | stray {before c after} (hc : ¬ IsDecimal c) (hsign : before = [] → c ≠ '+') :
    NoNumeral (before ++ c :: after)

theorem withoutPlus_of_ne (h : c ≠ '+') : withoutPlus (c :: cs) = c :: cs :=
  withoutPlus.eq_2 _ fun _ heq => h (List.cons.inj heq).1

theorem Digits.withoutPlus_eq (h : Digits cs) : withoutPlus cs = cs := by
  cases cs with
  | nil => rfl
  | cons c rest =>
    refine withoutPlus_of_ne ?_
    rintro rfl
    exact h.notMem (by decide) List.mem_cons_self

theorem numeral_iff :
    Numeral cs n ↔ Digits (withoutPlus cs) ∧ Nat.ofDigitChars 10 (withoutPlus cs) 0 = n := by
  constructor
  · rintro (⟨h⟩ | ⟨h⟩)
    · rw [h.withoutPlus_eq]
      exact ⟨h, rfl⟩
    · exact ⟨h, rfl⟩
  · rintro ⟨h, rfl⟩
    rcases cs with _ | ⟨c, rest⟩
    · exact .bare h
    · by_cases hc : c = '+'
      · subst hc
        exact .plus h
      · rw [withoutPlus_of_ne hc] at h ⊢
        exact .bare h

theorem Numeral.unique (h : Numeral cs m) (h' : Numeral cs n) : m = n :=
  (numeral_iff.1 h).2.symm.trans (numeral_iff.1 h').2

theorem readUnsigned_eq_some_iff : readUnsigned limit cs = some n ↔ Numeral cs n ∧ n ≤ limit := by
  rw [readUnsigned, readDigits_eq_some_iff, numeral_iff, and_assoc]

theorem NoNumeral.not_numeral (h : NoNumeral cs) : ¬ Numeral cs n := by
  rw [numeral_iff]
  rintro ⟨hdigits, -⟩
  cases h with
  | empty => exact hdigits.ne_nil rfl
  | sign => exact hdigits.ne_nil rfl
  | @stray before c after hc hsign =>
    refine hdigits.notMem hc ?_
    cases before with
    | nil =>
      rw [List.nil_append, withoutPlus_of_ne (hsign rfl)]
      exact List.mem_cons_self
    | cons b rest =>
      by_cases hb : b = '+'
      · subst hb
        exact List.mem_append_right rest List.mem_cons_self
      · rw [List.cons_append, withoutPlus_of_ne hb]
        exact List.mem_append_right (b :: rest) List.mem_cons_self

theorem exists_stray_of_not_digits (hne : cs ≠ []) (h : ¬ Digits cs) :
    ∃ before c after, cs = before ++ c :: after ∧ ¬ IsDecimal c := by
  have hnot : ¬ ∀ c ∈ cs, IsDecimal c := fun hall => h ⟨hne, hall⟩
  obtain ⟨c, hstray⟩ := Classical.not_forall.1 hnot
  obtain ⟨hmem, hc⟩ := Classical.not_imp.1 hstray
  obtain ⟨before, after, rfl⟩ := List.append_of_mem hmem
  exact ⟨before, c, after, rfl, hc⟩

theorem numeral_or_noNumeral (cs : List Char) : (∃ n, Numeral cs n) ∨ NoNumeral cs := by
  rcases cs with _ | ⟨c, rest⟩
  · exact .inr .empty
  · by_cases hc : c = '+'
    · subst hc
      by_cases hrest : Digits rest
      · exact .inl ⟨_, .plus hrest⟩
      · by_cases hne : rest = []
        · subst hne
          exact .inr .sign
        · obtain ⟨before, d, after, rfl, hd⟩ := exists_stray_of_not_digits hne hrest
          exact .inr (show NoNumeral (('+' :: before) ++ d :: after) from .stray hd nofun)
    · by_cases hall : Digits (c :: rest)
      · exact .inl ⟨_, .bare hall⟩
      · obtain ⟨before, d, after, heq, hd⟩ := exists_stray_of_not_digits (List.cons_ne_nil _ _) hall
        rw [heq]
        refine .inr (.stray hd fun hbefore hsign => hc ?_)
        subst hbefore
        exact (List.cons.inj heq).1.trans hsign

/-! ## Numbers as they are written -/

theorem digits_toString (n : Nat) : Digits (toString n).toList := by
  have hdigits : (toString n).toList = Nat.toDigits 10 n := Nat.toList_repr
  rw [hdigits]
  refine ⟨Nat.toDigits_ne_nil, fun c hc => isDigit_iff.1 ?_⟩
  exact Nat.isDigit_of_mem_toDigits (by decide) (by decide) hc

theorem numeral_toString (n : Nat) : Numeral (toString n).toList n := by
  have hvalue : Nat.ofDigitChars 10 (toString n).toList 0 = n :=
    (congrArg (Nat.ofDigitChars 10 · 0) Nat.toList_repr).trans Nat.ofDigitChars_ten_toDigits
  have h := Numeral.bare (digits_toString n)
  rwa [hvalue] at h

theorem toString_injective (h : toString m = toString n) : m = n :=
  (numeral_toString m).unique (h ▸ numeral_toString n)

/-! ## The last hyphen -/

/-- The suffix is what follows the last hyphen of the name. -/
def EndsIn (name suffix : String) : Prop :=
  '-' ∉ suffix.toList ∧ ∃ stem, name = stem ++ "-" ++ suffix

theorem afterLastHyphen_eq_none_iff : afterLastHyphen cs = none ↔ '-' ∉ cs := by
  induction cs with
  | nil => exact ⟨fun _ => List.not_mem_nil, fun _ => rfl⟩
  | cons c rest ih =>
    rw [List.mem_cons, not_or, ← ih, afterLastHyphen]
    cases afterLastHyphen rest with
    | none => simp [eq_comm]
    | some suffix => simp

theorem afterLastHyphen_append (h : '-' ∉ suffix) :
    afterLastHyphen (cs ++ '-' :: suffix) = some suffix := by
  induction cs with
  | nil =>
    rw [List.nil_append, afterLastHyphen, afterLastHyphen_eq_none_iff.2 h]
    rfl
  | cons c rest ih => rw [List.cons_append, afterLastHyphen, ih]

theorem afterLastHyphen_eq_some_iff :
    afterLastHyphen cs = some suffix ↔ '-' ∉ suffix ∧ ∃ stem, cs = stem ++ '-' :: suffix := by
  refine ⟨fun h => ?_, fun ⟨hsuffix, stem, hcs⟩ => hcs ▸ afterLastHyphen_append hsuffix⟩
  induction cs with
  | nil => cases h
  | cons c rest ih =>
    rw [afterLastHyphen] at h
    cases hrest : afterLastHyphen rest with
    | some found =>
      rw [hrest] at h
      obtain ⟨hsuffix, stem, hstem⟩ := ih (hrest.trans h)
      exact ⟨hsuffix, c :: stem, congrArg (c :: ·) hstem⟩
    | none =>
      rw [hrest] at h
      obtain ⟨rfl, hsuffix⟩ := Option.ite_none_right_eq_some.1 h
      obtain rfl := Option.some.inj hsuffix
      exact ⟨afterLastHyphen_eq_none_iff.1 hrest, [], rfl⟩

theorem afterLastHyphen_toList_iff {suffix : String} :
    afterLastHyphen name.toList = some suffix.toList ↔ EndsIn name suffix := by
  refine afterLastHyphen_eq_some_iff.trans (and_congr_right fun _ => ⟨?_, ?_⟩)
  · rintro ⟨stem, hname⟩
    exact ⟨String.ofList stem, String.toList_inj.1 (by simp [hname])⟩
  · rintro ⟨stem, rfl⟩
    exact ⟨stem.toList, by simp⟩

theorem EndsIn.unique {s t : String} (h : EndsIn name s) (h' : EndsIn name t) : s = t := by
  have hsuffix := (afterLastHyphen_toList_iff.2 h).symm.trans (afterLastHyphen_toList_iff.2 h')
  exact String.toList_inj.1 (Option.some.inj hsuffix)

theorem exists_endsIn (h : '-' ∈ name.toList) : ∃ suffix, EndsIn name suffix := by
  cases hsuffix : afterLastHyphen name.toList with
  | none => exact absurd h (afterLastHyphen_eq_none_iff.1 hsuffix)
  | some suffix =>
    exact ⟨String.ofList suffix,
      afterLastHyphen_toList_iff.1 (by rw [hsuffix, String.toList_ofList])⟩

/-! ## Ordinals -/

theorem trailingOrdinal?_eq_some_iff : trailingOrdinal? name = some n ↔
    ∃ suffix, EndsIn name suffix ∧ Numeral suffix.toList n ∧ n ≤ maxOrdinal := by
  rw [trailingOrdinal?, Option.bind_eq_some_iff]
  constructor
  · rintro ⟨cs, hsuffix, hread⟩
    obtain ⟨suffix, rfl⟩ : ∃ suffix : String, suffix.toList = cs := ⟨_, String.toList_ofList⟩
    exact ⟨suffix, afterLastHyphen_toList_iff.1 hsuffix, readUnsigned_eq_some_iff.1 hread⟩
  · rintro ⟨suffix, hends, hnumeral⟩
    exact ⟨_, afterLastHyphen_toList_iff.2 hends, readUnsigned_eq_some_iff.2 hnumeral⟩

/-- An ordinal that is read is at most the largest one. -/
theorem le_of_trailingOrdinal? (h : trailingOrdinal? name = some n) : n ≤ maxOrdinal := by
  obtain ⟨-, -, -, hle⟩ := trailingOrdinal?_eq_some_iff.1 h
  exact hle

theorem endsIn_numbered (name : String) (n : Nat) :
    EndsIn (name ++ "-" ++ toString n) (toString n) :=
  ⟨(digits_toString n).notMem (by decide), name, rfl⟩

/-- The ordinal at the end of a name is found, up to the largest one. -/
theorem trailingOrdinal?_append (name : String) (n : Nat) :
    trailingOrdinal? (name ++ "-" ++ toString n) = if n ≤ maxOrdinal then some n else none := by
  have hends := endsIn_numbered name n
  split
  · rename_i hle
    exact trailingOrdinal?_eq_some_iff.2 ⟨_, hends, numeral_toString n, hle⟩
  · rename_i hlt
    refine Option.eq_none_iff_forall_ne_some.2 fun m hm => hlt ?_
    obtain ⟨suffix, hsuffix, hnumeral, hle⟩ := trailingOrdinal?_eq_some_iff.1 hm
    obtain rfl := hends.unique hsuffix
    rwa [(numeral_toString n).unique hnumeral]

/-- A name has an ordinal exactly where the text after its last hyphen writes a number of 32 bits.
It has none exactly where there is no hyphen, or no number after the last one, or too large a one,
of however many digits. -/
theorem ordinal_iff_trailing_numeral (name : String) :
    (∀ n, trailingOrdinal? name = some n ↔
      ∃ suffix, EndsIn name suffix ∧ Numeral suffix.toList n ∧ n ≤ maxOrdinal) ∧
    (trailingOrdinal? name = none ↔
      '-' ∉ name.toList ∨ ∃ suffix, EndsIn name suffix ∧
        (NoNumeral suffix.toList ∨ ∃ n, Numeral suffix.toList n ∧ maxOrdinal < n)) := by
  refine ⟨fun n => trailingOrdinal?_eq_some_iff, fun hnone => ?_, ?_⟩
  · by_cases hhyphen : '-' ∈ name.toList
    · obtain ⟨suffix, hends⟩ := exists_endsIn hhyphen
      refine .inr ⟨suffix, hends, ?_⟩
      rcases numeral_or_noNumeral suffix.toList with ⟨n, hnumeral⟩ | hno
      · refine .inr ⟨n, hnumeral, Nat.lt_of_not_le fun hle => ?_⟩
        rw [trailingOrdinal?_eq_some_iff.2 ⟨suffix, hends, hnumeral, hle⟩] at hnone
        cases hnone
      · exact .inl hno
    · exact .inl hhyphen
  · rintro (hhyphen | ⟨suffix, hends, hrefused⟩)
    · rw [trailingOrdinal?, afterLastHyphen_eq_none_iff.2 hhyphen]
      rfl
    · refine Option.eq_none_iff_forall_ne_some.2 fun m hm => ?_
      obtain ⟨other, hother, hnumeral, hle⟩ := trailingOrdinal?_eq_some_iff.1 hm
      obtain rfl := hends.unique hother
      rcases hrefused with hno | ⟨n, hn, hlt⟩
      · exact hno.not_numeral hnumeral
      · have heq : n = m := hn.unique hnumeral
        omega

/-- Leading zeros are no reason to refuse a number, nor to read one that is too large. -/
example : trailingOrdinal? "logs-buffer-+0000000000004294967295" = some maxOrdinal ∧
    trailingOrdinal? "logs-buffer-+0000000000004294967296" = none := by
  decide

/-- Nothing at all, a sign alone, and a digit of another script are no numbers. -/
example : ["logs-", "logs-+", "logs-\u0663"].map trailingOrdinal? = [none, none, none] := by
  decide

end VolumeDrain.Text
