/-
Records whose encoding gives each field a window of its own.  Setting a field
then overwrites its window and nothing else, and overwriting the window is
read back as setting the field.
-/
import SpaceEcho.Lib.Block

namespace FieldWindow

variable {σ β γ δ ε : Type}

/-- Put `code` in the place of as many elements from `offset` on. -/
def overwrite (l : List β) (offset : ℕ) (code : List β) : List β :=
  l.take offset ++ code ++ l.drop (offset + code.length)

/-- A field of a record: its values, the window it is documented to have, what
is written there, and how it is set. -/
structure BlockField (σ β : Type) where
  Value : Type
  offset : ℕ
  code : Value → List β
  InRange : Value → Prop
  set : Value → σ → σ

namespace BlockField

/-- A field with a window of one element. -/
def single {α : Type} (offset : ℕ) (code : α → β) (set : α → σ → σ)
    (InRange : α → Prop := fun _ => True) : BlockField σ β where
  Value := α
  offset := offset
  code v := [code v]
  InRange := InRange
  set := set

/-- On encode, a new value in range changes the field's window and nothing
else; on decode, a new code in the window changes the field and nothing else. -/
def OwnsWindow (p : BlockField σ β) (tryEncode : σ → Except δ γ) (view : γ → List β)
    (decode : List β → Except ε σ) : Prop :=
  ∀ v, p.InRange v →
    (∀ s c, tryEncode s = .ok c → ∃ c', tryEncode (p.set v s) = .ok c' ∧
      view c' = overwrite (view c) p.offset (p.code v)) ∧
    ∀ l s, decode l = .ok s →
      decode (overwrite l p.offset (p.code v)) = .ok (p.set v s)

/-- A field owns its window when the layout says so and both halves of the
codec go on accepting the record after the field is set. -/
theorem ownsWindow {p : BlockField σ β} {tryEncode : σ → Except δ γ} {encode : σ → γ}
    {view : γ → List β} {decode : List β → Except ε σ} {Valid Accepts : σ → Prop}
    (hexact : Codec.Exact decode (view ∘ encode) Valid)
    (hchecked : Codec.Checked tryEncode encode Accepts)
    (hlayout : ∀ v s, view (encode (p.set v s)) =
      overwrite (view (encode s)) p.offset (p.code v))
    (hvalid : ∀ v s, p.InRange v → Valid s → Valid (p.set v s))
    (haccepts : ∀ v s, p.InRange v → Accepts s → Accepts (p.set v s)) :
    p.OwnsWindow tryEncode view decode := by
  intro v hv
  constructor
  · intro s c hc
    obtain ⟨hs, rfl⟩ := hchecked.ok_iff.mp hc
    exact ⟨encode (p.set v s), hchecked.ok_iff.mpr ⟨haccepts v s hv hs, rfl⟩,
      hlayout v s⟩
  · intro l s hl
    obtain ⟨hs, rfl⟩ := hexact.sound hl
    have hset := hexact.complete (hvalid v s hv hs)
    rwa [Function.comp_apply, hlayout] at hset

end BlockField

end FieldWindow
