/-
Store destinations.  A destination is read as a decimal number that must fit a
byte.  What is accepted is described here by the unbounded value of the numeral,
so that no number is taken for another slot by wrapping.
-/
import SpaceEcho.Device

namespace SpaceEcho.Re202

/-- An optional plus sign and at least one decimal digit, of unbounded value
`n`. -/
def Numeral (s : List Char) (n : ℕ) : Prop :=
  ∃ digits, (s = digits ∨ s = '+' :: digits) ∧ digits ≠ [] ∧
    (∀ c ∈ digits, '0' ≤ c ∧ c ≤ '9') ∧ Nat.ofDigitChars 10 digits 0 = n

/-- The word `manual`, in any case. -/
def NamesManual (dest : String) : Prop :=
  (trim dest.toList).map toAsciiLower = "manual".toList

/-- The number of a user slot. -/
def NamesUser (dest : String) (n : ℕ) : Prop :=
  Numeral (trim dest.toList) n ∧ 1 ≤ n ∧ n ≤ 127

theorem le_ofDigitChars (digits : List Char) (acc : ℕ) :
    acc ≤ Nat.ofDigitChars 10 digits acc := by
  rw [Nat.ofDigitChars_eq_ofDigitChars_zero]
  have hpow : 1 ≤ 10 ^ digits.length := Nat.one_le_pow _ _ (by decide)
  calc
    acc = 1 * acc := (Nat.one_mul acc).symm
    _ ≤ 10 ^ digits.length * acc := Nat.mul_le_mul_right acc hpow
    _ ≤ _ := Nat.le_add_right _ _

/-- The check for overflow at every digit loses no number that fits a byte:
the value only grows. -/
theorem parseDigits_eq_some_iff (digits : List Char) (acc n : UInt8) :
    parseDigits acc digits = some n ↔
      (∀ c ∈ digits, '0' ≤ c ∧ c ≤ '9') ∧
        Nat.ofDigitChars 10 digits acc.toNat = n.toNat := by
  induction digits generalizing acc with
  | nil => simp [parseDigits, Nat.ofDigitChars_nil, UInt8.toNat_inj]
  | cons c rest ih =>
      rw [parseDigits, Nat.ofDigitChars_cons, List.forall_mem_cons]
      by_cases hdigit : '0' ≤ c ∧ c ≤ '9'
      · rw [if_pos hdigit]
        have hcomm : 10 * acc.toNat + (c.toNat - '0'.toNat) =
            acc.toNat * 10 + (c.toNat - '0'.toNat) := by omega
        rw [hcomm]
        by_cases hfits : acc.toNat * 10 + (c.toNat - '0'.toNat) < 256
        · have hnext : (UInt8.ofNat
              (acc.toNat * 10 + (c.toNat - '0'.toNat))).toNat =
              acc.toNat * 10 + (c.toNat - '0'.toNat) :=
            UInt8.toNat_ofNat_of_lt' hfits
          simp only [if_pos hfits, ih, hnext, hdigit, and_self, true_and]
        · have hgrows := le_ofDigitChars rest
            (acc.toNat * 10 + (c.toNat - '0'.toNat))
          have hn := n.toNat_lt
          simp only [if_neg hfits, reduceCtorEq, false_iff]
          rintro ⟨_, hvalue⟩
          omega
      · simp [hdigit]

theorem parseU8_eq_some_iff (s : List Char) (n : UInt8) :
    parseU8 s = some n ↔ Numeral s n.toNat := by
  have hplus : ¬ ('0' ≤ '+' ∧ '+' ≤ '9') := by decide
  unfold parseU8 Numeral
  split
  · simp
  · simp
  · rename_i digits hne
    rw [parseDigits_eq_some_iff]
    constructor
    · rintro ⟨hdigits, hvalue⟩
      exact ⟨digits, Or.inr rfl, hne, hdigits, hvalue⟩
    · rintro ⟨digits', hs | hs, _, hdigits, hvalue⟩
      · exact absurd (hdigits '+' (hs ▸ List.mem_cons_self)) hplus
      · obtain ⟨_, rfl⟩ := List.cons.inj hs
        exact ⟨hdigits, hvalue⟩
  · rename_i hempty _ hnoPlus
    rw [parseDigits_eq_some_iff]
    constructor
    · rintro ⟨hdigits, hvalue⟩
      exact ⟨_, Or.inl rfl, hempty, hdigits, hvalue⟩
    · rintro ⟨digits', rfl | rfl, _, hdigits, hvalue⟩
      · exact ⟨hdigits, hvalue⟩
      · exact absurd rfl (hnoPlus digits')

/-- A numeral starts with a plus sign or a digit, so it is not the word
`manual`. -/
theorem Numeral.ne_manual {s : List Char} {n : ℕ} (hnumeral : Numeral s n) :
    s.map toAsciiLower ≠ "manual".toList := by
  obtain ⟨digits, hs, hne, hdigits, _⟩ := hnumeral
  intro hmanual
  have hfirst : ∀ c rest, s = c :: rest → toAsciiLower c = 'm' := by
    rintro c rest rfl
    exact (List.cons.inj hmanual).1
  rcases hs with rfl | rfl
  · obtain ⟨c, rest, rfl⟩ := List.exists_cons_of_ne_nil hne
    have hc := hdigits c List.mem_cons_self
    have hlower := hfirst c rest rfl
    have hsmall : ¬ ('A' ≤ c ∧ c ≤ 'Z') := by
      intro hupper
      have hbetween : 'A' ≤ '9' := Char.le_trans hupper.1 hc.2
      exact absurd hbetween (by decide)
    rw [toAsciiLower, if_neg hsmall] at hlower
    exact absurd hc (by rw [hlower]; decide)
  · exact absurd (hfirst '+' digits rfl) (by decide)

variable {kit : Kit}

theorem eqIgnoreAsciiCase_manual (d : List Char) :
    eqIgnoreAsciiCase d "manual".toList = true ↔
      d.map toAsciiLower = "manual".toList := by
  have hlower : "manual".toList.map toAsciiLower = "manual".toList := by decide
  rw [eqIgnoreAsciiCase, hlower, beq_iff_eq]

/-- A number is taken for a slot exactly when it is between 1 and 127. -/
theorem fromIndex_filter_eq_some_iff (n : UInt8) (slot : MemorySlot) :
    (MemorySlot.fromIndex n).filter (fun _ => n != 0) = some slot ↔
      slot = .user n ∧ 1 ≤ n.toNat ∧ n.toNat ≤ 127 := by
  have hzero : n = 0 ↔ n.toNat = 0 := UInt8.toNat_inj.symm
  have hmax : n ≤ 127 ↔ n.toNat ≤ 127 := UInt8.le_iff_toNat_le
  rw [Option.filter_eq_some_iff, MemorySlot.fromIndex_eq_some_iff, bne_iff_ne,
    hmax, ne_eq, hzero, Nat.one_le_iff_ne_zero]
  constructor
  · rintro ⟨⟨hn, _⟩ | ⟨hn, hle, rfl⟩, hne⟩
    · exact absurd hn hne
    · exact ⟨rfl, hne, hle⟩
  · rintro ⟨rfl, hne, hle⟩
    exact ⟨Or.inr ⟨hne, hle, rfl⟩, hne⟩

/-- A destination is accepted exactly when it names a slot. -/
theorem parseDest_eq_ok_iff (dest : String) (slot : MemorySlot) :
    parseDest kit dest = .ok slot ↔
      (slot = .manual ∧ NamesManual dest) ∨
      ∃ n : UInt8, slot = .user n ∧ NamesUser dest n.toNat := by
  unfold parseDest NamesManual NamesUser
  simp only
  split_ifs with hempty hmanual
  · rw [List.isEmpty_iff] at hempty
    rw [hempty]
    simp [Numeral]
  · rw [eqIgnoreAsciiCase_manual] at hmanual
    rw [Except.ok.injEq]
    constructor
    · intro hslot
      exact Or.inl ⟨hslot.symm, hmanual⟩
    · rintro (⟨rfl, _⟩ | ⟨n, _, hnumeral, _⟩)
      · rfl
      · exact absurd hmanual hnumeral.ne_manual
  · rw [eqIgnoreAsciiCase_manual] at hmanual
    simp only [← parseU8_eq_some_iff, hmanual, and_false, false_or]
    rcases parseU8 (trim dest.toList) with _ | n
    · simp
    · have hindex : (∃ n' : UInt8, slot = .user n' ∧ some n = some n' ∧
          1 ≤ n'.toNat ∧ n'.toNat ≤ 127) ↔
          (MemorySlot.fromIndex n).filter (fun _ => n != 0) = some slot := by
        rw [fromIndex_filter_eq_some_iff]
        constructor
        · rintro ⟨_, rfl, hsame, hrange⟩
          cases hsame
          exact ⟨rfl, hrange⟩
        · rintro ⟨rfl, hrange⟩
          exact ⟨n, rfl, rfl, hrange⟩
      rw [hindex]
      rcases hslot : (MemorySlot.fromIndex n).filter (fun _ => n != 0) with
        _ | found
      · simp [hslot]
      · simp [hslot]

example : parseDest Kit.reference " ManuaL " = .ok .manual := by decide

example : parseDest Kit.reference "+012" = .ok (.user 12) := by decide

example : parseDest Kit.reference "268" =
    .error (.encode "bad slot \"268\" (expected 1..=127, or `manual`)") := by
  decide

end SpaceEcho.Re202
