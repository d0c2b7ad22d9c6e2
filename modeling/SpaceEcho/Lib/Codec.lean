/-
Fallible codecs in general.  A decoder is exact for an encoder when it accepts
the encodings of the valid values and nothing else; a checked encoder refuses
some values and otherwise agrees with a total one.  The rules at the end say
how two such halves, written separately, fit together.
-/
import Mathlib.Logic.Basic

namespace Codec

variable {α β γ ε δ : Type}

/-- A sequence of fallible steps returns exactly when each of them does. -/
theorem bind_returns_iff {x : Except ε α} {f : α → Except ε β} {b : β} :
    x >>= f = .ok b ↔ ∃ a, x = .ok a ∧ f a = .ok b := by
  constructor
  · intro hbind
    cases x with
    | error e => cases hbind
    | ok a => exact ⟨a, rfl, hbind⟩
  · intro hsteps
    obtain ⟨a, rfl, hstep⟩ := hsteps
    exact hstep

/-- A guarded computation returns exactly when the guard passes. -/
theorem guard_returns_iff {c : Prop} [Decidable c] {e : ε} {x : Except ε α}
    {a : α} : (if c then .error e else x) = .ok a ↔ ¬ c ∧ x = .ok a := by
  by_cases hc : c
  · simp [hc]
  · simp [hc]

/-- Rewording an error does not change what is returned. -/
theorem mapError_returns_iff {x : Except ε α} {f : ε → δ} {a : α} :
    x.mapError f = .ok a ↔ x = .ok a := by
  rcases x with e | b
  · change Except.error (f e) = .ok a ↔ Except.error e = .ok a
    simp
  · change Except.ok b = .ok a ↔ Except.ok b = .ok a
    simp

/-- A sequence of steps fails with the first failure. -/
theorem bind_fails_iff {x : Except ε α} {f : α → Except ε β} {e : ε} :
    x >>= f = .error e ↔ x = .error e ∨ ∃ a, x = .ok a ∧ f a = .error e := by
  rcases x with e' | a
  · change Except.error e' = .error e ↔ _
    simp
  · change f a = .error e ↔ _
    simp

theorem mapError_fails_iff {x : Except ε α} {f : ε → δ} {d : δ} :
    x.mapError f = .error d ↔ ∃ e, x = .error e ∧ f e = d := by
  rcases x with e | a
  · change Except.error (f e) = .error d ↔ _
    simp
  · change Except.ok a = .error d ↔ _
    simp

theorem toOption_eq_some_iff {x : Except ε α} {a : α} :
    x.toOption = some a ↔ x = .ok a := by
  rcases x with e | b
  · simp [Except.toOption]
  · simp [Except.toOption]

/-- `decode` accepts exactly the encodings of the valid values, and reads each
of them back as the value it encodes. -/
structure Exact (decode : β → Except ε α) (encode : α → β)
    (Valid : α → Prop) : Prop where
  sound : ∀ {b a}, decode b = .ok a → Valid a ∧ encode a = b
  complete : ∀ {a}, Valid a → decode (encode a) = .ok a

section Exact

variable {decode : β → Except ε α} {encode : α → β} {Valid : α → Prop}

theorem Exact.decode_eq_ok_iff (h : Exact decode encode Valid) {b : β} {a : α} :
    decode b = .ok a ↔ Valid a ∧ encode a = b := by
  constructor
  · exact h.sound
  · intro hencoded
    obtain ⟨hvalid, rfl⟩ := hencoded
    exact h.complete hvalid

/-- A decoder stays exact when its errors are reworded. -/
theorem Exact.reword (h : Exact decode encode Valid) (f : ε → δ) :
    Exact (fun b => (decode b).mapError f) encode Valid where
  sound := fun hdecode => h.sound (mapError_returns_iff.mp hdecode)
  complete := fun hvalid => mapError_returns_iff.mpr (h.complete hvalid)

end Exact

/-- `norm` takes each value to one with the same encoding, which is valid when
the encoding is one of a valid value at all. -/
structure Normalizes (encode : α → β) (Valid Readable : α → Prop)
    (norm : α → α) : Prop where
  encode_norm : ∀ a, encode (norm a) = encode a
  valid_norm : ∀ {a}, Readable a → Valid (norm a)
  readable : ∀ {a a'}, Valid a' → encode a' = encode a → Readable a

section Normalizes

variable {decode : β → Except ε α} {encode : α → β} {norm : α → α}
variable {Valid Readable : α → Prop}

/-- What a value is read back as is its normal form. -/
theorem Normalizes.decode_encode_iff (h : Normalizes encode Valid Readable norm)
    (hexact : Exact decode encode Valid) {a a' : α} :
    decode (encode a) = .ok a' ↔ Readable a ∧ a' = norm a := by
  have hnorm : Readable a → decode (encode a) = .ok (norm a) := by
    intro hreadable
    rw [← h.encode_norm a]
    exact hexact.complete (h.valid_norm hreadable)
  constructor
  · intro hdecode
    obtain ⟨hvalid, hencode⟩ := hexact.sound hdecode
    have hreadable := h.readable hvalid hencode
    rw [hnorm hreadable, Except.ok.injEq] at hdecode
    exact ⟨hreadable, hdecode.symm⟩
  · intro hread
    obtain ⟨hreadable, rfl⟩ := hread
    exact hnorm hreadable

/-- The valid values are the readable ones that are their own normal form. -/
theorem Normalizes.valid_iff (h : Normalizes encode Valid Readable norm)
    (hexact : Exact decode encode Valid) {a : α} :
    Valid a ↔ Readable a ∧ a = norm a := by
  rw [← h.decode_encode_iff hexact, hexact.decode_eq_ok_iff]
  simp

end Normalizes

/-- A fallible encoder that succeeds exactly on the accepted values, where it
returns what the total `encode` returns. -/
structure Checked (tryEncode : α → Except δ γ) (encode : α → γ)
    (Accepts : α → Prop) : Prop where
  ok_iff : ∀ {a c}, tryEncode a = .ok c ↔ Accepts a ∧ encode a = c

section Checked

variable {decode : β → Except ε α} {tryEncode : α → Except δ γ}
variable {encode : α → γ} {view : γ → β} {Valid Accepts : α → Prop}

/-- Whatever the encoder produces decodes to the value it was given exactly
when the encoder refuses every value the decoder cannot express. -/
theorem Checked.decodes_iff (h : Checked tryEncode encode Accepts)
    (hexact : Exact decode (view ∘ encode) Valid) (a : α) :
    (∀ c, tryEncode a = .ok c → decode (view c) = .ok a) ↔
      (Accepts a → Valid a) := by
  constructor
  · intro hround haccepts
    have hdecode := hround (encode a) (h.ok_iff.mpr ⟨haccepts, rfl⟩)
    exact (hexact.sound hdecode).1
  · intro himp c hc
    obtain ⟨haccepts, rfl⟩ := h.ok_iff.mp hc
    exact hexact.complete (himp haccepts)

/-- Passing the encoding and the errors on in another form changes nothing. -/
theorem Checked.pass_on (h : Checked tryEncode encode Accepts) (f : δ → ε) :
    Checked (fun a => ((tryEncode a).map view).mapError f) (view ∘ encode)
      Accepts where
  ok_iff := by
    intro a b
    rw [mapError_returns_iff]
    constructor
    · intro hmap
      rcases htry : tryEncode a with e | c
      · rw [htry] at hmap
        cases hmap
      · obtain ⟨haccepts, rfl⟩ := h.ok_iff.mp htry
        rw [htry] at hmap
        exact ⟨haccepts, Except.ok.inj hmap⟩
    · intro hencode
      obtain ⟨haccepts, rfl⟩ := hencode
      rw [h.ok_iff.mpr ⟨haccepts, rfl⟩]
      rfl

end Checked

/-- Every failure of the computation satisfies `P`. -/
def FailsOnly (P : ε → Prop) (x : Except ε α) : Prop :=
  ∀ e, x = .error e → P e

theorem failsOnly_error {P : ε → Prop} {e : ε} (he : P e) :
    FailsOnly P (.error e : Except ε α) := by
  intro e' heq
  cases heq
  exact he

end Codec
