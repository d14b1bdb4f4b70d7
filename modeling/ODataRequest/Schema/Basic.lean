import ODataRequest.Table
import ODataRequest.TypeRef
namespace ODataRequest

structure Property where
  type : TypeRef
  nullable : Bool := false
  navigation : Bool := false
  deriving DecidableEq

structure ComplexType where
  scope : String
  name : String
  base : Option TypeRef := none
  key : Option (List String) := none
  properties : Table Property := .empty
  deriving DecidableEq

structure EnumType where
  scope : String
  name : String
  members : Table Int
  flags : Bool := false
  deriving DecidableEq

def ComplexType.type (c : ComplexType) : TypeRef := .named c.scope c.name

def ComplexType.fullName (c : ComplexType) : String := c.scope ++ "." ++ c.name

def EnumType.fullName (e : EnumType) : String := e.scope ++ "." ++ e.name

inductive SchemaType
  | complex (c : ComplexType)
  | enum (e : EnumType)
  deriving DecidableEq

namespace SchemaType

def scope : SchemaType → String
  | complex c => c.scope
  | enum e => e.scope

def name : SchemaType → String
  | complex c => c.name
  | enum e => e.name

def fullName (t : SchemaType) : String := t.scope ++ "." ++ t.name

def Before (t u : SchemaType) : Prop :=
  t.scope < u.scope ∨ t.scope = u.scope ∧ t.name < u.name

instance (t u : SchemaType) : Decidable (t.Before u) := by unfold Before; infer_instance

theorem Before.trans {t u v : SchemaType} (first : t.Before u) (second : u.Before v) :
    t.Before v := by
  rcases first with scopes | ⟨scopes, names⟩ <;> rcases second with scopes' | ⟨scopes', names'⟩
  · exact .inl (String.lt_trans scopes scopes')
  · exact .inl (scopes' ▸ scopes)
  · exact .inl (scopes ▸ scopes')
  · exact .inr ⟨scopes.trans scopes', String.lt_trans names names'⟩

theorem same_of_not_before {t u : SchemaType} (low : ¬t.Before u) (high : ¬u.Before t) :
    t.scope = u.scope ∧ t.name = u.name := by
  simp only [Before, not_or, not_and] at low high
  have scopes := eq_of_not_lt low.1 high.1
  exact ⟨scopes, eq_of_not_lt (low.2 scopes) (high.2 scopes.symm)⟩

end SchemaType

/-- Puts a type at its place; a type of the same scope and name is replaced. -/
def insertType (added : SchemaType) : List SchemaType → List SchemaType
  | [] => [added]
  | other :: rest =>
    if added.Before other then added :: other :: rest
    else if other.Before added then other :: insertType added rest
    else added :: rest

theorem mem_insertType {added t : SchemaType} {types : List SchemaType}
    (member : t ∈ insertType added types) : t = added ∨ t ∈ types := by
  induction types with
  | nil => simpa [insertType] using member
  | cons head rest ih =>
    unfold insertType at member
    split at member
    · simpa using member
    · split at member
      · rcases List.mem_cons.mp member with rfl | member
        · simp
        · rcases ih member with rfl | member <;> simp [*]
      · rcases List.mem_cons.mp member with rfl | member <;> simp [*]

theorem ordered_insertType (added : SchemaType) {types : List SchemaType}
    (ordered : types.Pairwise SchemaType.Before) :
    (insertType added types).Pairwise SchemaType.Before := by
  induction types with
  | nil => simp [insertType]
  | cons head rest ih =>
    obtain ⟨first, ordered'⟩ := List.pairwise_cons.mp ordered
    unfold insertType
    split
    case isTrue before =>
      refine List.pairwise_cons.mpr ⟨fun t member => ?_, ordered⟩
      rcases List.mem_cons.mp member with rfl | member
      · exact before
      · exact before.trans (first t member)
    case isFalse notBefore =>
      split
      case isTrue after =>
        refine List.pairwise_cons.mpr ⟨fun t member => ?_, ih ordered'⟩
        rcases mem_insertType member with rfl | member
        · exact after
        · exact first t member
      case isFalse notAfter =>
        obtain ⟨scopes, names⟩ := SchemaType.same_of_not_before notBefore notAfter
        refine List.pairwise_cons.mpr ⟨fun t member => ?_, ordered'⟩
        simpa [SchemaType.Before, scopes, names] using first t member

/-- The types of a service, ordered by scope and name, so that each full address occurs once. -/
structure Schema where
  types : List SchemaType
  ordered : types.Pairwise SchemaType.Before

inductive TypeKind
  | primitive
  | raw
  | complex (c : ComplexType)
  | enum (e : EnumType)

namespace Schema

instance : DecidableEq Schema := fun s t =>
  decidable_of_iff (s.types = t.types) (by cases s; cases t; simp)

def empty : Schema := ⟨[], List.Pairwise.nil⟩

instance : Inhabited Schema := ⟨empty⟩

def insert (schema : Schema) (type : SchemaType) : Schema :=
  ⟨insertType type schema.types, ordered_insertType type schema.ordered⟩

def complexTypes (schema : Schema) : List ComplexType :=
  schema.types.filterMap fun
    | .complex c => some c
    | .enum _ => none

def get? (schema : Schema) (scope name : String) : Option SchemaType :=
  schema.types.find? fun t => t.scope == scope && t.name == name

/-- Resolves a named type. The primitive scope and the raw scope need no declaration. -/
def kind (schema : Schema) : TypeRef → Except Error TypeKind
  | .collection element =>
    .error (.cannotTraverse (TypeRef.collection element).text
      "expected a single type, found a collection")
  | .named scope name =>
    if scope = edmScope then .ok .primitive
    else if scope = rawScope then .ok .raw
    else match schema.get? scope name with
      | some (.complex c) => .ok (.complex c)
      | some (.enum e) => .ok (.enum e)
      | none => .error (.unknownType (TypeRef.named scope name).text)

def complex (schema : Schema) (type : TypeRef) : Except Error ComplexType :=
  match schema.kind type with
  | .ok (.complex c) => .ok c
  | .ok _ => .error (.unknownType type.text)
  | .error e => .error e

def enumType (schema : Schema) (type : TypeRef) : Except Error EnumType :=
  match schema.kind type with
  | .ok (.enum e) => .ok e
  | .ok _ => .error (.unknownType type.text)
  | .error e => .error e

theorem get?_mem {schema : Schema} {scope name : String} {t : SchemaType}
    (found : schema.get? scope name = some t) :
    t ∈ schema.types ∧ t.scope = scope ∧ t.name = name := by
  have holds := List.find?_some found
  simp only [Bool.and_eq_true, beq_iff_eq] at holds
  exact ⟨List.mem_of_find?_eq_some found, holds⟩

theorem complex_mem {schema : Schema} {type : TypeRef} {c : ComplexType}
    (resolved : schema.complex type = .ok c) : c ∈ schema.complexTypes := by
  cases type with
  | collection element => simp [complex, kind] at resolved
  | named scope name =>
    by_cases edm : scope = edmScope
    · simp [complex, kind, edm] at resolved
    · by_cases raw : scope = rawScope
      · have distinct : rawScope ≠ edmScope := by decide
        simp [complex, kind, raw, distinct] at resolved
      · cases found : schema.get? scope name with
        | none => simp [complex, kind, edm, raw, found] at resolved
        | some t =>
          cases t with
          | enum e => simp [complex, kind, edm, raw, found] at resolved
          | complex d =>
            simp only [complex, kind, edm, raw, found, if_false, Except.ok.injEq] at resolved
            exact List.mem_filterMap.mpr ⟨_, (get?_mem found).1, by simp [resolved]⟩

end Schema
end ODataRequest
