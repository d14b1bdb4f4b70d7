import ODataRequest.Proofs.KeyTexts
namespace ODataRequest

theorem lookupNamed_eq_some_iff {α : Type} {name : String} {entries : List (String × α)} {value : α}
    (distinct : (entries.map Prod.fst).Nodup) :
    lookupNamed name entries = some value ↔ (name, value) ∈ entries := by
  refine ⟨mem_of_lookupNamed, ?_⟩
  intro member
  cases found : lookupNamed name entries with
  | none =>
    have named : name ∈ entries.map Prod.fst := List.mem_map_of_mem member
    exact absurd named (not_mem_of_lookupNamed found)
  | some other =>
    have same := List.inj_on_of_nodup_map distinct (mem_of_lookupNamed found) member rfl
    exact congrArg (some ·.2) same

/-- The pairs have exactly the names of the declared key properties, and their values serialize as
the types of these. -/
structure Mapping.Fits (mapping : Mapping) (pairs : List (String × Value))
    (declared : List (String × Property)) : Prop where
  names : ∀ name, name ∈ pairs.map Prod.fst ↔ name ∈ declared.map Prod.fst
  literals : ∀ property ∈ declared, ∀ value, (property.1, value) ∈ pairs →
    ∃ literal, mapping.serializer mapping.schema value property.2.type = .ok literal

def Mapping.KeyPair (mapping : Mapping) (pairs : List (String × Value))
    (declared : String × Property) (text : String) : Prop :=
  ∃ value literal, (declared.1, value) ∈ pairs ∧
    mapping.serializer mapping.schema value declared.2.type = .ok literal ∧
    text = declared.1 ++ "=" ++ Draft.encoded mapping literal

namespace Draft

variable {mapping : Mapping} {entity : ComplexType} {declared : List (String × Property)}
  {pairs pairs' : List (String × Value)} {style style' : KeyStyle} {text : String}

theorem keyPair_eq_ok {property : String × Property} (distinct : (pairs.map Prod.fst).Nodup) :
    keyPair mapping entity pairs property = .ok text ↔ mapping.KeyPair pairs property text := by
  unfold keyPair
  constructor
  · intro written
    split at written
    · cases written
    · rename_i value found
      rcases bind_eq_ok.mp written with ⟨_, spelled, same⟩
      cases same
      rcases map_eq_ok.mp spelled with ⟨literal, serialized, rfl⟩
      exact ⟨value, literal, (lookupNamed_eq_some_iff distinct).mp found, serialized, rfl⟩
  · rintro ⟨value, literal, member, serialized, rfl⟩
    rw [(lookupNamed_eq_some_iff distinct).mpr member]
    have spelled : keyLiteral mapping value property.2.type = .ok (encoded mapping literal) :=
      map_eq_ok.mpr ⟨literal, serialized, rfl⟩
    exact bind_eq_ok.mpr ⟨encoded mapping literal, spelled, rfl⟩

theorem compositeText_eq_ok (distinct : (pairs.map Prod.fst).Nodup) :
    compositeText mapping entity declared pairs = .ok text ↔
      (∀ name, name ∈ pairs.map Prod.fst ↔ name ∈ declared.map Prod.fst) ∧ ∃ texts,
        List.Forall₂ (mapping.KeyPair pairs) declared texts ∧
        text = "(" ++ Text.joined "," texts ++ ")" := by
  have written : ∀ texts, declared.mapM (keyPair mapping entity pairs) = .ok texts ↔
      List.Forall₂ (mapping.KeyPair pairs) declared texts := by
    intro texts
    rw [mapM_eq_ok]
    simp only [keyPair_eq_ok distinct]
  unfold compositeText
  constructor
  · intro composed
    split at composed
    · cases composed
    · rename_i expected
      rcases bind_eq_ok.mp composed with ⟨texts, mapped, same⟩
      cases same
      have each := (written texts).mp mapped
      refine ⟨?_, texts, each, rfl⟩
      intro name
      constructor
      · intro member
        rcases List.mem_map.mp member with ⟨pair, present, rfl⟩
        simpa using List.find?_eq_none.mp expected pair present
      · intro member
        rcases List.mem_map.mp member with ⟨property, present, rfl⟩
        rcases exists_of_forall₂ each present with ⟨_, _, value, _, given, _⟩
        exact List.mem_map_of_mem given
  · rintro ⟨same, texts, each, rfl⟩
    have expected : (pairs.find? fun pair => !(declared.map Prod.fst).contains pair.1) = none := by
      rw [List.find?_eq_none]
      intro pair member
      simpa using (same pair.1).mp (List.mem_map_of_mem member)
    rw [expected]
    exact bind_eq_ok.mpr ⟨texts, (written texts).mpr each, rfl⟩

theorem compositeText_perm (distinct : (pairs.map Prod.fst).Nodup) (reordered : pairs.Perm pairs') :
    compositeText mapping entity declared pairs = .ok text ↔
      compositeText mapping entity declared pairs' = .ok text := by
  have names : (pairs.map Prod.fst).Perm (pairs'.map Prod.fst) := reordered.map Prod.fst
  have same : mapping.KeyPair pairs = mapping.KeyPair pairs' := by
    funext property text
    simp only [Mapping.KeyPair, reordered.mem_iff]
  rw [compositeText_eq_ok distinct, compositeText_eq_ok (names.nodup_iff.mp distinct), same]
  simp only [names.mem_iff]

theorem compositeText_isOk (distinct : (pairs.map Prod.fst).Nodup) :
    (∃ text, compositeText mapping entity declared pairs = .ok text) ↔
      mapping.Fits pairs declared := by
  constructor
  · rintro ⟨text, written⟩
    rcases (compositeText_eq_ok distinct).mp written with ⟨same, texts, each, _⟩
    refine ⟨same, ?_⟩
    intro property member value given
    rcases exists_of_forall₂ each member with ⟨_, _, other, literal, found, serialized, _⟩
    cases List.inj_on_of_nodup_map distinct given found rfl
    exact ⟨literal, serialized⟩
  · rintro ⟨same, serializes⟩
    have each : ∀ property ∈ declared, ∃ text, mapping.KeyPair pairs property text := by
      intro property member
      have named : property.1 ∈ pairs.map Prod.fst :=
        (same property.1).mpr (List.mem_map_of_mem member)
      rcases List.mem_map.mp named with ⟨⟨name, value⟩, given, rfl⟩
      rcases serializes property member value given with ⟨literal, serialized⟩
      exact ⟨_, value, literal, given, serialized, rfl⟩
    rcases exists_forall₂_iff.mpr each with ⟨texts, each⟩
    exact ⟨_, (compositeText_eq_ok distinct).mpr ⟨same, texts, each, rfl⟩⟩

theorem keyText_composite {keyed : KeyText} :
    keyText mapping entity declared (.styled style (.composite pairs)) = .ok keyed ↔
      ∃ text, compositeText mapping entity declared pairs = .ok text ∧ .behind text = keyed := by
  cases style <;> exact map_eq_ok

theorem addPart_perm {draft draft' : Draft} (distinct : (pairs.map Prod.fst).Nodup)
    (reordered : pairs.Perm pairs') :
    (addPart mapping draft (.key (.styled style (.composite pairs)))).outcome = .ok draft' ↔
      (addPart mapping draft (.key (.styled style' (.composite pairs')))).outcome = .ok draft' := by
  simp only [addPart_key_eq_ok, keyText_composite, compositeText_perm distinct reordered]

end Draft

namespace Mapping

def withComposite (mapping : Mapping) (root : String) (before : List ResourcePart)
    (style : KeyStyle) (pairs : List (String × Value)) (after : List ResourcePart) :
    Except Error Target :=
  mapping.withKey root before (.styled style (.composite pairs)) after

variable {mapping : Mapping} {root : String} {before : List ResourcePart} {target target' : Target}
  {pairs : List (String × Value)} {style : KeyStyle}

theorem withComposite_isOk (distinct : (pairs.map Prod.fst).Nodup)
    (accepted : (mapping.map root ⟨before⟩).outcome = .ok target) :
    (∃ target', mapping.withComposite root before style pairs [] = .ok target') ↔
      ∃ element entity declared, mapping.schema.Keyed target.type element entity declared ∧
        mapping.Fits pairs declared := by
  simp only [withComposite, withKey_eq_ok accepted, Draft.keyText_composite]
  constructor
  · rintro ⟨_, element, entity, declared, _, keyed, ⟨text, composed, rfl⟩, _⟩
    have fits := (Draft.compositeText_isOk distinct).mp ⟨text, composed⟩
    exact ⟨element, entity, declared, keyed, fits⟩
  · rintro ⟨element, entity, declared, keyed, fits⟩
    rcases (Draft.compositeText_isOk distinct).mpr fits with ⟨text, composed⟩
    exact ⟨_, element, entity, declared, .behind text, keyed, ⟨text, composed, rfl⟩, rfl⟩

theorem withComposite_added (distinct : (pairs.map Prod.fst).Nodup)
    (accepted : (mapping.map root ⟨before⟩).outcome = .ok target)
    (mapped : mapping.withComposite root before style pairs [] = .ok target') :
    ∃ element entity declared texts, mapping.schema.Keyed target.type element entity declared ∧
      List.Forall₂ (mapping.KeyPair pairs) declared texts ∧
      target' = target.keyed element (.behind ("(" ++ Text.joined "," texts ++ ")")) := by
  rcases (withKey_eq_ok accepted).mp mapped with ⟨element, entity, declared, _, keyed, written, rfl⟩
  rcases Draft.keyText_composite.mp written with ⟨text, composed, rfl⟩
  rcases (Draft.compositeText_eq_ok distinct).mp composed with ⟨_, texts, each, rfl⟩
  exact ⟨element, entity, declared, texts, keyed, each, rfl⟩

/-- For a composite key with distinct names neither the order of the pairs nor the style makes a
difference: both addresses fail or both are the same. Behind an accepted address it is accepted
exactly when its names are those of the declared key properties and every value serializes as the
type of its property. Then the key stands behind the path, in declared order. -/
theorem composite_canonical (mapping : Mapping) (root : String) (before : List ResourcePart)
    {pairs : List (String × Value)} (distinct : (pairs.map Prod.fst).Nodup) :
    (∀ pairs', pairs.Perm pairs' → ∀ style style' after target,
      mapping.withComposite root before style pairs after = .ok target ↔
        mapping.withComposite root before style' pairs' after = .ok target) ∧
    ∀ target, (mapping.map root ⟨before⟩).outcome = .ok target → ∀ style,
      ((∃ target', mapping.withComposite root before style pairs [] = .ok target') ↔
        ∃ element entity declared, mapping.schema.Keyed target.type element entity declared ∧
          mapping.Fits pairs declared) ∧
      ∀ target', mapping.withComposite root before style pairs [] = .ok target' →
        ∃ element entity declared texts, mapping.schema.Keyed target.type element entity declared ∧
          List.Forall₂ (mapping.KeyPair pairs) declared texts ∧
          target' = target.keyed element (.behind ("(" ++ Text.joined "," texts ++ ")")) := by
  refine ⟨?_, ?_⟩
  · intro pairs' reordered style style' after target
    exact withKey_congr fun draft draft' => Draft.addPart_perm distinct reordered
  · intro target accepted style
    refine ⟨withComposite_isOk distinct accepted, ?_⟩
    exact fun target' mapped => withComposite_added distinct accepted mapped

end Mapping

namespace Ledger

def entry : TypeRef := .named "Ledger" "Entry"

/-- The key of an entry is declared for its base type. -/
def schema : Schema where
  types := [
    .complex { scope := "Ledger", name := "Entry", base := some (.named "Ledger" "Line") },
    .complex {
      scope := "Ledger"
      name := "Line"
      key := some ["Book", "No"]
      properties := .ofList [("Book", ⟨.string, false, false⟩), ("No", ⟨.int64, false, false⟩)] }]
  ordered := by decide

def entries : EntitySet := .ofType "Main" "Entries" entry

def given : List (String × Value) := [("No", .int 7), ("Book", .string "A/B")]

def mapping : Mapping where
  schema := schema

def all : Target := (Draft.ofSet entries).addressed "http://svc" entries.pathType []

def one : Target := all.keyed entry (.behind "(Book='A%2FB',No=7)")

def selected (style : KeyStyle) (pairs : List (String × Value)) : Except Error Target :=
  mapping.withComposite "http://svc" [.entitySet entries] style pairs []

theorem given_distinct : (given.map Prod.fst).Nodup := by decide

theorem given_reverse : given.Perm given.reverse := given.reverse_perm.symm

theorem selected_given : selected .parenthesized given = .ok one := by with_unfolding_all rfl

end Ledger

theorem Mapping.composite_canonical_entry :
    (Ledger.given.map Prod.fst).Nodup ∧ Ledger.given.Perm Ledger.given.reverse ∧
      (Ledger.mapping.map "http://svc" ⟨[.entitySet Ledger.entries]⟩).outcome = .ok Ledger.all ∧
      Ledger.selected .parenthesized Ledger.given = .ok Ledger.one ∧
      Ledger.selected .segment Ledger.given.reverse = .ok Ledger.one ∧
      (∃ declared, Ledger.mapping.Fits Ledger.given declared) ∧
      ∃ element declared texts, List.Forall₂ (Ledger.mapping.KeyPair Ledger.given) declared texts ∧
        Ledger.one = Ledger.all.keyed element (.behind ("(" ++ Text.joined "," texts ++ ")")) := by
  have all : (Ledger.mapping.map "http://svc" ⟨[.entitySet Ledger.entries]⟩).outcome =
      .ok Ledger.all := map_ofSet Ledger.mapping "http://svc" Ledger.entries
  rcases composite_canonical Ledger.mapping "http://svc" [.entitySet Ledger.entries]
    Ledger.given_distinct with ⟨same, behind⟩
  have reversed : Ledger.selected .segment Ledger.given.reverse = .ok Ledger.one :=
    (same _ Ledger.given_reverse .parenthesized .segment [] Ledger.one).mp Ledger.selected_given
  rcases behind Ledger.all all .parenthesized with ⟨accepts, written⟩
  rcases accepts.mp ⟨Ledger.one, Ledger.selected_given⟩ with ⟨_, _, declared, _, fits⟩
  rcases written Ledger.one Ledger.selected_given with ⟨element, _, declared', texts, _, each, one⟩
  exact ⟨Ledger.given_distinct, Ledger.given_reverse, all, Ledger.selected_given, reversed,
    ⟨declared, fits⟩, element, declared', texts, each, one⟩

end ODataRequest
