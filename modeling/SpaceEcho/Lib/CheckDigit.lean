/-
Check digits by modular complement.  The digit of a sum completes it to a
multiple of the modulus, so among the residues it is the negation of the sum.
-/
import Mathlib.Data.ZMod.Basic

namespace CheckDigit

variable {n : ℕ}

/-- The check digit of the sum `s` modulo `n`. -/
def complement (n s : ℕ) : ℕ := (n - s % n) % n

theorem complement_lt (hn : 0 < n) (s : ℕ) : complement n s < n :=
  Nat.mod_lt _ hn

theorem cast_complement (hn : 0 < n) (s : ℕ) :
    (complement n s : ZMod n) = -(s : ZMod n) := by
  have hle : s % n ≤ n := Nat.le_of_lt (Nat.mod_lt s hn)
  rw [complement, ZMod.natCast_mod, Nat.cast_sub hle, ZMod.natCast_self,
    zero_sub, ZMod.natCast_mod]

/-- Digits below the modulus are told apart by their residues. -/
theorem eq_of_cast_eq {c d : ℕ} (hc : c < n) (hd : d < n)
    (hcast : (c : ZMod n) = d) : c = d := by
  have hmod := (ZMod.natCast_eq_natCast_iff' c d n).mp hcast
  rwa [Nat.mod_eq_of_lt hc, Nat.mod_eq_of_lt hd] at hmod

/-- The check digit is the only digit that completes the sum. -/
theorem eq_complement_iff (hn : 0 < n) (s c : ℕ) :
    c = complement n s ↔ c < n ∧ n ∣ s + c := by
  rw [← ZMod.natCast_eq_zero_iff, Nat.cast_add]
  constructor
  · rintro rfl
    refine ⟨complement_lt hn s, ?_⟩
    rw [cast_complement hn, add_neg_cancel]
  · intro hdigit
    obtain ⟨hlt, hsum⟩ := hdigit
    apply eq_of_cast_eq hlt (complement_lt hn s)
    rw [cast_complement hn]
    exact eq_neg_of_add_eq_zero_right hsum

/-- Two sums have one check digit exactly when they are congruent. -/
theorem complement_eq_iff (hn : 0 < n) (s t : ℕ) :
    complement n s = complement n t ↔ s ≡ t [MOD n] := by
  rw [← ZMod.natCast_eq_natCast_iff]
  constructor
  · intro hsame
    have hcast := congrArg (fun c : ℕ => (c : ZMod n)) hsame
    simpa only [cast_complement hn, neg_inj] using hcast
  · intro hcast
    apply eq_of_cast_eq (complement_lt hn s) (complement_lt hn t)
    rw [cast_complement hn, cast_complement hn, hcast]

/-- The digit of a sum of sums is the digit of the digits' own sum. -/
theorem complement_add (hn : 0 < n) (s t : ℕ) :
    complement n (s + t) = (complement n s + complement n t) % n := by
  apply eq_of_cast_eq (complement_lt hn _) (Nat.mod_lt _ hn)
  rw [ZMod.natCast_mod, Nat.cast_add, cast_complement hn, cast_complement hn,
    cast_complement hn, Nat.cast_add, neg_add]

end CheckDigit
