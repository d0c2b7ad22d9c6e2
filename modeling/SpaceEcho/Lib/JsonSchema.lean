/-
JSON Schema, draft 7, as far as derived schemas use it.  A schema is a test of
values, over any type of values that can be looked at as JSON one level at a
time; a keyword is a schema or makes one from others.  A keyword that does not
apply to a value accepts it.
-/
import Mathlib.Data.Bool.Basic
import Mathlib.Data.List.Count
import Mathlib.Data.List.Forall2
import Mathlib.Data.Rat.Defs

namespace JsonSchema

universe u

/-- What a value is as JSON, one level deep. -/
inductive Shape (V : Type u) where
  | null
  | boolean (b : Bool)
  | number (q : ℚ)
  | string (s : String)
  | array (items : List V)
  | object (members : List (String × V))
  | other

/-- The values that can be looked at as JSON. -/
class HasShape (V : Type u) where
  shape : V → Shape V

export HasShape (shape)

abbrev Schema (V : Type u) := V → Bool

inductive SimpleType where
  | null
  | boolean
  | integer
  | number
  | string
  | array
  | object
deriving Repr, DecidableEq

variable {V : Type u} [HasShape V]

/-- The keyword `type`.  An integer is a number with no fractional part. -/
def hasType (t : SimpleType) : Schema V := fun v =>
  match t, shape v with
  | .null, .null => true
  | .boolean, .boolean _ => true
  | .integer, .number q => q.den == 1
  | .number, .number _ => true
  | .string, .string _ => true
  | .array, .array _ => true
  | .object, .object _ => true
  | _, _ => false

/-- The keyword `enum`, where all its values are strings. -/
def enum (values : List String) : Schema V := fun v =>
  match shape v with
  | .string s => values.contains s
  | _ => false

def minimum (m : ℚ) : Schema V := fun v =>
  match shape v with
  | .number q => decide (m ≤ q)
  | _ => true

def required (names : List String) : Schema V := fun v =>
  match shape v with
  | .object members => names.all fun name => (members.lookup name).isSome
  | _ => true

def properties (props : List (String × Schema V)) : Schema V := fun v =>
  match shape v with
  | .object members =>
      members.all fun member =>
        match props.lookup member.1 with
        | some schema => schema member.2
        | none => true
  | _ => true

/-- All keywords of a schema object, and the keyword `allOf`. -/
def allOf (schemas : List (Schema V)) : Schema V := fun v =>
  schemas.all fun schema => schema v

def anyOf (schemas : List (Schema V)) : Schema V := fun v =>
  schemas.any fun schema => schema v

def oneOf (schemas : List (Schema V)) : Schema V := fun v =>
  schemas.countP (fun schema => schema v) == 1

section Objects

variable {v : V} {members : List (String × V)}

theorem hasType_object_iff :
    hasType .object v = true ↔ ∃ members, shape v = .object members := by
  rcases hshape : shape v <;> simp [hasType, hshape]

theorem required_iff (hshape : shape v = .object members) {names : List String} :
    required names v = true ↔ ∀ name ∈ names, name ∈ members.map Prod.fst := by
  simp only [required, hshape, List.all_eq_true, List.lookup_isSome_iff]
  simp

theorem properties_iff (hshape : shape v = .object members)
    {props : List (String × Schema V)} :
    properties props v = true ↔
      ∀ member ∈ members, ∀ schema, props.lookup member.1 = some schema →
        schema member.2 = true := by
  simp only [properties, hshape, List.all_eq_true]
  refine forall₂_congr fun member _ => ?_
  rcases props.lookup member.1 with _ | schema
  · simp
  · simp

/-- An object is tested property by property. -/
theorem object_iff {names : List String} {props : List (String × Schema V)} :
    allOf [hasType .object, required names, properties props] v = true ↔
      ∃ members, shape v = .object members ∧
        (∀ name ∈ names, name ∈ members.map Prod.fst) ∧
        ∀ member ∈ members, ∀ schema, props.lookup member.1 = some schema →
          schema member.2 = true := by
  simp only [allOf, List.all_cons, List.all_nil, Bool.and_true, Bool.and_eq_true,
    hasType_object_iff]
  constructor
  · rintro ⟨⟨members, hshape⟩, hrequired, hprops⟩
    exact ⟨members, hshape, (required_iff hshape).mp hrequired,
      (properties_iff hshape).mp hprops⟩
  · rintro ⟨members, hshape, hrequired, hprops⟩
    exact ⟨⟨members, hshape⟩, (required_iff hshape).mpr hrequired,
      (properties_iff hshape).mpr hprops⟩

end Objects

section Strings

variable {v : V}

/-- One string. -/
def constant (s : String) : Schema V := allOf [hasType .string, enum [s]]

theorem string_enum_iff {values : List String} :
    allOf [hasType .string, enum values] v = true ↔
      ∃ s ∈ values, shape v = .string s := by
  rcases hshape : shape v <;> simp [allOf, hasType, enum, hshape]

/-- A choice between distinct strings. -/
theorem oneOf_constant_iff {values : List String} (hnodup : values.Nodup) :
    oneOf (values.map constant) v = true ↔ ∃ s ∈ values, shape v = .string s := by
  have hconstant : ∀ s, constant s v = true ↔ shape v = .string s := by
    intro s
    rw [constant, string_enum_iff]
    simp
  rw [oneOf, List.countP_map, beq_iff_eq]
  rcases hshape : shape v with _ | _ | _ | s | _ | _ | _
  case string =>
    have hcount : List.countP ((fun schema => schema v) ∘ constant) values =
        values.count s := by
      refine List.countP_congr fun other _ => ?_
      rw [Function.comp_apply, hconstant, hshape, beq_iff_eq]
      simp [eq_comm]
    rw [hcount, List.Nodup.count hnodup]
    simp
  all_goals
    have hnone : List.countP ((fun schema => schema v) ∘ constant) values = 0 := by
      rw [List.countP_eq_zero]
      intro other _
      rw [Function.comp_apply, hconstant, hshape]
      simp
    simp [hnone]

end Strings

section Order

variable {s t : Schema V}

omit [HasShape V] in
/-- A schema lies below another when it accepts less. -/
theorem le_iff : s ≤ t ↔ ∀ v, s v = true → t v = true := by
  simp only [Pi.le_def, Bool.le_iff_imp]

omit [HasShape V] in
theorem allOf_le {ss ts : List (Schema V)} (hle : List.Forall₂ (· ≤ ·) ss ts) :
    allOf ss ≤ allOf ts := by
  rw [le_iff]
  intro v hall
  simp only [allOf, List.all_eq_true] at hall ⊢
  induction hle with
  | nil => simp
  | cons hfirst _ ih =>
      rw [List.forall_mem_cons] at hall ⊢
      exact ⟨le_iff.mp hfirst v hall.1, ih hall.2⟩

omit [HasShape V] in
theorem anyOf_le {ss ts : List (Schema V)} (hle : List.Forall₂ (· ≤ ·) ss ts) :
    anyOf ss ≤ anyOf ts := by
  rw [le_iff]
  intro v hany
  simp only [anyOf, List.any_eq_true] at hany ⊢
  induction hle with
  | nil => simp at hany
  | cons hfirst _ ih =>
      simp only [List.exists_mem_cons_iff] at hany ⊢
      exact hany.imp (le_iff.mp hfirst v) ih

/-- Properties of the same names, each accepting less. -/
theorem properties_le {props props' : List (String × Schema V)}
    (hle : List.Forall₂ (fun p q => p.1 = q.1 ∧ p.2 ≤ q.2) props props') :
    properties props ≤ properties props' := by
  rw [le_iff]
  intro v hprops
  rcases hshape : shape v with _ | _ | _ | _ | _ | members | _
  case object =>
    rw [properties_iff hshape] at hprops ⊢
    intro member hmember
    replace hprops := hprops member hmember
    induction hle with
    | nil => exact hprops
    | cons hfirst _ ih =>
        rename_i p q _ _ _
        obtain ⟨name, schema⟩ := p
        obtain ⟨name', schema'⟩ := q
        obtain ⟨rfl, hschema⟩ := hfirst
        by_cases hname : member.1 = name
        · subst hname
          simp only [List.lookup_cons_self, Option.some.injEq, forall_eq'] at hprops ⊢
          exact le_iff.mp hschema _ hprops
        · have hne : (member.1 == name) = false := beq_eq_false_iff_ne.mpr hname
          simp only [List.lookup_cons, hne] at hprops ⊢
          exact ih hprops
  all_goals simp [properties, hshape]

end Order

end JsonSchema
