import ODataRequest.Proofs.Casts
import ODataRequest.Schema.Validation
import Mathlib.Data.List.Pairwise
namespace ODataRequest

/-!
Which casts can be named. The types that a type can be cast to are kept under their caster names,
so of two types with one caster name only one is kept. Every derived type can be cast to exactly
if the names of the derived types tell them apart.
-/

section Lookup

variable {α : Type} {name : String} {value : α} {entries : List (String × α)} {entry : String × α}

theorem lookupNamed_of_ordered (ordered : Ordered entries) (member : (name, value) ∈ entries) :
    lookupNamed name entries = some value := by
  induction entries with
  | nil => cases member
  | cons head rest ih =>
    rcases head with ⟨other, old⟩
    rcases List.pairwise_cons.mp ordered with ⟨smallest, ordered'⟩
    unfold lookupNamed
    rcases List.mem_cons.mp member with same | later
    · cases same
      exact if_pos rfl
    · have before : other < name := smallest _ later
      rw [if_neg (String.ne_of_lt before)]
      exact ih ordered' later

theorem mem_insertNamed_self (name : String) (value : α) (entries : List (String × α)) :
    (name, value) ∈ insertNamed name value entries := by
  induction entries with
  | nil => exact List.mem_cons_self
  | cons head rest ih =>
    unfold insertNamed
    split
    · exact List.mem_cons_self
    · split
      · exact List.mem_cons_of_mem _ ih
      · exact List.mem_cons_self

theorem mem_insertNamed_of_ne (different : entry.1 ≠ name) (member : entry ∈ entries) :
    entry ∈ insertNamed name value entries := by
  induction entries with
  | nil => cases member
  | cons head rest ih =>
    rcases head with ⟨other, old⟩
    unfold insertNamed
    split
    · exact List.mem_cons_of_mem _ member
    · split
      · rcases List.mem_cons.mp member with rfl | member
        · exact List.mem_cons_self
        · exact List.mem_cons_of_mem _ (ih member)
      · rename_i notBefore notAfter
        rcases List.mem_cons.mp member with rfl | member
        · exact absurd (eq_of_not_lt notAfter notBefore) different
        · exact List.mem_cons_of_mem _ member

end Lookup

namespace Table

variable {α : Type} {name : String} {value : α} {table : Table α}

theorem get?_of_mem (member : (name, value) ∈ table.entries) : table.get? name = some value :=
  lookupNamed_of_ordered table.ordered member

theorem value_unique {other : α} (member : (name, value) ∈ table.entries)
    (member' : (name, other) ∈ table.entries) : value = other := by
  have first := get?_of_mem member
  rw [get?_of_mem member'] at first
  exact (Option.some.inj first).symm

theorem mem_ofList_of_unique {entries : List (String × α)} {entry : String × α}
    (member : entry ∈ entries) (unique : ∀ other ∈ entries, other.1 = entry.1 → other = entry) :
    entry ∈ (ofList entries).entries := by
  have general : ∀ (entries : List (String × α)) (start : Table α),
      entry ∈ start.entries ∨ entry ∈ entries →
      (∀ other ∈ entries, other.1 = entry.1 → other = entry) →
      entry ∈ (entries.foldl (fun table e => table.insert e.1 e.2) start).entries := by
    intro entries
    induction entries with
    | nil =>
      intro start present _
      exact present.resolve_right List.not_mem_nil
    | cons head rest ih =>
      intro start present unique
      apply ih
      · by_cases same : head.1 = entry.1
        · have replaced : head = entry := unique head List.mem_cons_self same
          exact .inl (replaced ▸ mem_insertNamed_self head.1 head.2 start.entries)
        · rcases present with present | present
          · exact .inl (mem_insertNamed_of_ne (Ne.symm same) present)
          · rcases List.mem_cons.mp present with rfl | present
            · exact absurd rfl same
            · exact .inr present
      · exact fun other later => unique other (List.mem_cons_of_mem _ later)
  exact general entries .empty (.inr member) unique

end Table

namespace Schema

variable {schema : Schema} {c d e : ComplexType}

theorem eq_of_type_eq (declared : d ∈ schema.complexTypes) (declared' : e ∈ schema.complexTypes)
    (same : d.type = e.type) : d = e := by
  simp only [ComplexType.type, TypeRef.named.injEq] at same
  have complex := eq_of_same_address (mem_complexTypes.mp declared) (mem_complexTypes.mp declared')
    (Prod.ext same.1 same.2)
  cases complex
  rfl

/-- What stands between scope and name is a dot in the full name and never one in a caster name. -/
theorem casterName_ne_fullName (schema : Schema) (d : ComplexType) :
    schema.casterName d ≠ d.fullName := by
  intro same
  have chars : (schema.casterName d).toList = d.scope.toList ++ '.' :: d.name.toList := by
    rw [same, ComplexType.fullName]
    simp
  unfold casterName at chars
  dsimp only at chars
  split at chars
  · have length : (Text.replaceFrom ['.'] ['_'] 0 d.scope.toList).length =
        d.scope.toList.length := by
      rw [Text.replaceFrom_char, List.length_map]
    have parts : Text.replaceFrom ['.'] ['_'] 0 d.scope.toList ++ '_' :: d.name.toList =
        d.scope.toList ++ '.' :: d.name.toList := by
      simpa [Text.replaceAll] using chars
    have marks := (List.append_inj parts length).2
    cases (List.cons.inj marks).1
  · have lengths := congrArg List.length chars
    simp at lengths
    omega

/-- `d` is listed among the casts of `c`, and its full name leads to it. -/
def Castable (schema : Schema) (c d : ComplexType) : Prop :=
  d.type ∈ (schema.casters c).values ∧ schema.resolveCast c d.fullName = .ok d.type

/-- The types that `c` can be cast to are told apart by their caster names and by their full
names, and no caster name is the full name of another one. -/
def DistinctNames (schema : Schema) (c : ComplexType) : Prop :=
  ∀ d ∈ schema.derivedTypes c, ∀ e ∈ schema.derivedTypes c, d ≠ e →
    schema.casterName d ≠ schema.casterName e ∧ d.fullName ≠ e.fullName ∧
      schema.casterName d ≠ e.fullName

theorem entry_of_listed (derived : d ∈ schema.derivedTypes c)
    (listed : d.type ∈ (schema.casters c).values) :
    (schema.casterName d, d.type) ∈ (schema.casters c).entries := by
  rcases List.mem_map.mp listed with ⟨entry, member, same⟩
  rcases mem_casters member with ⟨e, derived', rfl⟩
  have one : e = d :=
    eq_of_type_eq (derivedTypes_declared derived') (derivedTypes_declared derived) same
  exact one ▸ member

theorem resolveCast_of_entry {target : String} {type : TypeRef}
    (member : (target, type) ∈ (schema.casters c).entries) :
    schema.resolveCast c target = .ok type := by
  unfold resolveCast
  simp only [Table.get?_of_mem member]

theorem distinctNames_of_castable
    (castable : ∀ d ∈ schema.derivedTypes c, schema.Castable c d) : schema.DistinctNames c := by
  intro d derived e derived' different
  have apart : d.type ≠ e.type := fun same => different
    (eq_of_type_eq (derivedTypes_declared derived) (derivedTypes_declared derived') same)
  have entry : (schema.casterName d, d.type) ∈ (schema.casters c).entries :=
    entry_of_listed derived (castable d derived).1
  have leads : schema.resolveCast c e.fullName = .ok e.type := (castable e derived').2
  refine ⟨?casters, ?full, ?mixed⟩
  case casters =>
    intro same
    have other : (schema.casterName e, e.type) ∈ (schema.casters c).entries :=
      entry_of_listed derived' (castable e derived').1
    exact apart (Table.value_unique (same ▸ entry) other)
  case full =>
    intro same
    have first : schema.resolveCast c d.fullName = .ok d.type := (castable d derived).2
    rw [same, leads] at first
    exact apart (Except.ok.inj first).symm
  case mixed =>
    intro same
    rw [same] at entry
    rw [resolveCast_of_entry entry] at leads
    exact apart (Except.ok.inj leads)

theorem listed_of_distinctNames (distinct : schema.DistinctNames c)
    (derived : d ∈ schema.derivedTypes c) : d.type ∈ (schema.casters c).values := by
  have kept : (schema.casterName d, d.type) ∈ (schema.casters c).entries := by
    apply Table.mem_ofList_of_unique
    · exact List.mem_map.mpr ⟨d, derived, rfl⟩
    · intro other member same
      rcases List.mem_map.mp member with ⟨e, derived', rfl⟩
      by_cases one : d = e
      · rw [one]
      · exact absurd same.symm (distinct d derived e derived' one).1
  exact List.mem_map.mpr ⟨_, kept, rfl⟩

theorem not_casterName_of_distinctNames (distinct : schema.DistinctNames c)
    (derived : d ∈ schema.derivedTypes c) : (schema.casters c).get? d.fullName = none := by
  cases found : (schema.casters c).get? d.fullName with
  | none => rfl
  | some type =>
    rcases mem_casters (Table.mem_of_get? found) with ⟨e, derived', same⟩
    have named : schema.casterName e = d.fullName := (congrArg Prod.fst same).symm
    by_cases one : e = d
    · exact absurd (one ▸ named) (casterName_ne_fullName schema d)
    · exact absurd named (distinct e derived' d derived one).2.2

/-- All types that a type can be cast to are listed and found by their full names exactly if their
names tell them apart. -/
theorem castable_iff_distinctNames (schema : Schema) (c : ComplexType) :
    (∀ d ∈ schema.derivedTypes c, schema.Castable c d) ↔ schema.DistinctNames c := by
  constructor
  · exact distinctNames_of_castable
  · intro distinct d derived
    have listed := listed_of_distinctNames distinct derived
    refine ⟨listed, ?_⟩
    unfold resolveCast
    simp only [not_casterName_of_distinctNames distinct derived]
    split
    · rename_i type found
      have text : type.text = d.fullName := by simpa using List.find?_some found
      rcases values_derived (List.mem_of_find?_eq_some found) with ⟨e, derived', rfl⟩
      by_cases one : e = d
      · rw [one]
      · exact absurd text (distinct e derived' d derived one).2.1
    · rename_i missing
      have fullName : d.type.text = d.fullName := rfl
      exact absurd (List.find?_eq_none.mp missing _ listed) (by simp [fullName])

namespace Clash

def thing : ComplexType := { scope := "Base", name := "Thing" }

def dotted : ComplexType := { scope := "A.B", name := "Part", base := some thing.type }

def underlined : ComplexType := { scope := "A_B", name := "Part", base := some thing.type }

def parts : Schema where
  types := [.complex dotted, .complex underlined, .complex thing]
  ordered := by decide

end Clash

/-- Both parts have the caster name `A_B_Part`, and the one that comes first is lost. -/
theorem dotted_part_not_castable :
    Clash.parts.validate = .ok () ∧ Clash.thing ∈ Clash.parts.complexTypes ∧
      Clash.dotted ∈ Clash.parts.derivedTypes Clash.thing ∧
      (Clash.parts.casters Clash.thing).entries = [("A_B_Part", Clash.underlined.type)] ∧
      Clash.parts.resolveCast Clash.thing Clash.dotted.fullName =
        .error (.unknownCast "Base.Thing" "A.B.Part") := by
  refine ⟨?_, ?_, ?_, ?_, ?_⟩
  · with_unfolding_all rfl
  · decide
  · with_unfolding_all decide
  · with_unfolding_all rfl
  · with_unfolding_all rfl

end Schema
end ODataRequest
