/-
The error type shared by the typed System and Memory codecs, with the texts it
is displayed as, and the byte tables their enumerations are read from.
-/
import Mathlib.Data.UInt
import SpaceEcho.Lib.Codec

namespace SpaceEcho

inductive CodecError where
  | wrongLength (expected actual : ℕ)
  | invalidValue (field : String) (value : UInt8) (valid : String)
  | outOfRange (field : String) (value : UInt16) (valid : String)
  | yaml (message : String)
deriving Repr, DecidableEq

/-- One upper-case hexadecimal digit. -/
def hexDigit (n : ℕ) : Char :=
  if n < 10 then Char.ofNat ('0'.toNat + n) else Char.ofNat ('A'.toNat + (n - 10))

/-- The format `{:02X}` of a byte. -/
def hex02 (b : UInt8) : String :=
  String.ofList [hexDigit (b.toNat / 16), hexDigit (b.toNat % 16)]

def CodecError.display : CodecError → String
  | .wrongLength expected actual =>
      "expected " ++ toString expected ++ " bytes, got " ++ toString actual
  | .invalidValue field value valid =>
      "invalid " ++ field ++ " value 0x" ++ hex02 value ++
        " (valid: " ++ valid ++ ")"
  | .outOfRange field value valid =>
      field ++ " out of range: " ++ toString value ++ " (valid: " ++ valid ++ ")"
  | .yaml message => "YAML: " ++ message

example : (CodecError.invalidValue "tape" 0x2F "0=new, 1=aged").display =
    "invalid tape value 0x2F (valid: 0=new, 1=aged)" := by
  decide

/-- Read a byte code off a table; a byte with no entry is an error that names
the field, the byte and the valid codes. -/
def fromTable {α : Type} (table : List (UInt8 × α)) (field valid : String)
    (b : UInt8) : Except CodecError α :=
  match table.lookup b with
  | some a => .ok a
  | none => .error (.invalidValue field b valid)

section Table

variable {α : Type} {table : List (UInt8 × α)}

/-- A table and an encoder that agree entry by entry form an exact byte code
for the whole type. -/
theorem fromTable_exact {toByte : α → UInt8} (field valid : String)
    (hlookup : ∀ a, table.lookup (toByte a) = some a)
    (hentries : ∀ entry ∈ table, toByte entry.2 = entry.1) :
    Codec.Exact (fromTable table field valid) toByte (fun _ => True) where
  sound := by
    intro b a hb
    refine ⟨trivial, ?_⟩
    unfold fromTable at hb
    cases hfound : table.lookup b with
    | none =>
        rw [hfound] at hb
        cases hb
    | some value =>
        rw [hfound] at hb
        have hvalue : value = a := Except.ok.inj hb
        subst hvalue
        obtain ⟨front, back, rfl, _⟩ := List.lookup_eq_some_iff.mp hfound
        exact hentries (b, value) (by simp)
  complete := by
    intro a _
    simp [fromTable, hlookup a]

/-- An error of the block codecs themselves, and not of the document layer. -/
def CodecError.OfBlock : CodecError → Prop
  | .yaml _ => False
  | _ => True

end Table

/-- Both typed codecs read their switches with this table. -/
def byteToBool (b : UInt8) (field : String) : Except CodecError Bool :=
  fromTable [(0, false), (1, true)] field "0 or 1" b

theorem byteToBool_eq_ok_iff (b : UInt8) (field : String) (a : Bool) :
    byteToBool b field = .ok a ↔ a.toUInt8 = b := by
  have hexact : Codec.Exact (fun b => byteToBool b field) Bool.toUInt8
      (fun _ => True) :=
    fromTable_exact _ _ (by intro a; cases a <;> rfl)
      (by simp [Bool.toUInt8])
  simpa using hexact.decode_eq_ok_iff (b := b) (a := a)

end SpaceEcho
