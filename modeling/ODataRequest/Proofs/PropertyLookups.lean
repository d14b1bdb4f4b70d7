import ODataRequest.Proofs.DerivedTypes
namespace ODataRequest

namespace Schema

variable {schema : Schema} {c owner : ComplexType} {chain : List ComplexType}
  {listed : List Declared} {name : String} {e : Error}

section Failures

theorem declare_eq_error {entry : String × Property}
    (failed : declare owner listed entry = .error e) :
    ∃ earlier ∈ listed, earlier.name = entry.1 ∧
      e = .duplicateProperty owner.fullName earlier.owner.fullName earlier.name := by
  unfold declare at failed
  split at failed
  · rename_i earlier found
    cases failed
    have same : earlier.name = entry.1 := by simpa using List.find?_some found
    exact ⟨earlier, List.mem_of_find?_eq_some found, same, by rw [same]⟩
  · cases failed

/-- The names of one type differ, so a name that returns was listed for a type before it. -/
theorem declareAll_eq_error (distinct : (listed.map Declared.name).Nodup)
    (failed : declareAll listed owner = .error e) :
    ∃ earlier ∈ listed, earlier.name ∈ owner.properties.names ∧
      e = .duplicateProperty owner.fullName earlier.owner.fullName earlier.name := by
  rcases exists_of_foldlM_eq_error failed with ⟨firsts, entry, lasts, _, entries, reached, failed⟩
  rcases (foldlM_continues (fun entry _ _ => declare_eq_ok entry) distinct).mp reached with ⟨rfl, _⟩
  rcases declare_eq_error failed with ⟨earlier, member, same, rfl⟩
  have names := owner.properties.nodup_names
  have own : owner.properties.names = firsts.map Prod.fst ++ entry.1 :: lasts.map Prod.fst := by
    rw [Table.names, entries, List.map_append, List.map_cons]
  rw [own] at names ⊢
  refine ⟨earlier, ?_, by simp [same], rfl⟩
  rcases List.mem_append.mp member with member | member
  · exact member
  -- it cannot be one of those that the same type added before it failed
  · rw [← List.map_eq_flatMap] at member
    rcases List.mem_map.mp member with ⟨first, present, rfl⟩
    have twice : entry.1 ∈ firsts.map Prod.fst := same ▸ List.mem_map_of_mem present
    have once := (List.nodup_cons.mp (List.nodup_middle.mp names)).1
    exact absurd (List.mem_append_left _ twice) once

/-- A property of this name is declared by `owner` and, farther along the chain, by `base`. -/
structure Redeclared (chain : List ComplexType) (owner base : ComplexType) (name : String) :
    Prop where
  order : [owner, base].Sublist chain
  nearer : name ∈ owner.properties.names
  farther : name ∈ base.properties.names

theorem Lineage.fullName_ne {base : ComplexType} (lineage : schema.Lineage c chain)
    (order : [owner, base].Sublist chain) : owner.fullName ≠ base.fullName := by
  have distinct := lineage.distinct.sublist (order.map ComplexType.fullName)
  simpa using distinct

theorem foldlM_declareAll_eq_error (failed : chain.reverse.foldlM declareAll [] = .error e) :
    ∃ owner base name, Redeclared chain owner base name ∧
      e = .duplicateProperty owner.fullName base.fullName name := by
  have nothing : (([] : List Declared).map Declared.name).Nodup := List.nodup_nil
  rcases exists_of_foldlM_eq_error failed with ⟨before, owner, after, _, order, reached, failed⟩
  rcases (foldlM_continues (f := declareAll) (fun _ _ _ => declareAll_eq_ok) nothing).mp reached
    with ⟨rfl, distinct⟩
  rcases declareAll_eq_error distinct failed with ⟨earlier, member, own, rfl⟩
  rcases List.mem_flatMap.mp member with ⟨base, passed, declared⟩
  rcases List.mem_map.mp declared with ⟨entry, present, rfl⟩
  have ordered : [base, owner].Sublist chain.reverse := by
    rw [order]
    exact (List.singleton_sublist.mpr passed).append
      (List.singleton_sublist.mpr List.mem_cons_self)
  have behind : [owner, base].Sublist chain := by simpa using ordered.reverse
  exact ⟨owner, base, entry.1, ⟨behind, own, List.mem_map_of_mem present⟩, rfl⟩

theorem properties_eq_error (failed : schema.properties c = .error e) :
    schema.baseChain c = .error e ∨
      ∃ chain owner base name, schema.Lineage c chain ∧ Redeclared chain owner base name ∧
        e = .duplicateProperty owner.fullName base.fullName name := by
  rcases bind_eq_error.mp failed with walk | ⟨chain, walked, failed⟩
  · exact .inl walk
  rcases bind_eq_error.mp failed with failed | ⟨_, _, failed⟩
  · rcases foldlM_declareAll_eq_error failed with ⟨owner, base, name, redeclared, cause⟩
    exact .inr ⟨chain, owner, base, name, baseChain_eq_ok.mp walked, redeclared, cause⟩
  · cases failed

end Failures

theorem property_eq_error (lineage : schema.Lineage c chain)
    (missing : ∀ p, schema.property c name ≠ .ok p) :
    schema.property c name = .error (.unknownProperty c.fullName name) := by
  cases found : schema.property c name with
  | ok p => exact absurd found (missing p)
  | error e =>
    unfold property at found
    rw [baseChain_eq_ok.mpr lineage] at found
    rcases bind_eq_error.mp found with walk | ⟨_, same, failed⟩
    · cases walk
    · split at failed
      · cases failed
      · cases failed
        rfl

/-- A list of properties has each name once, those of the outermost base type first, and a search
finds the properties on it and no others. Where a name returns, the error is about two types of
different full names that both declare it, the nearer one first. -/
theorem property_lookups_agree (schema : Schema) (c : ComplexType) :
    (∀ listed, schema.properties c = .ok listed →
      (listed.map Prod.fst).Nodup ∧
      (∃ chain, schema.baseChain c = .ok chain ∧ listed = inherited chain) ∧
      ∀ name, (∀ p, schema.property c name = .ok p ↔ (name, p) ∈ listed) ∧
        ((∀ p, (name, p) ∉ listed) →
          schema.property c name = .error (.unknownProperty c.fullName name))) ∧
    ∀ type other name, schema.properties c = .error (.duplicateProperty type other name) →
      ∃ chain owner base, schema.baseChain c = .ok chain ∧ Redeclared chain owner base name ∧
        owner.fullName = type ∧ base.fullName = other ∧ type ≠ other := by
  constructor
  · intro listed succeeded
    rcases properties_eq_ok.mp succeeded with ⟨chain, lineage, rfl, distinct⟩
    have unshadowed := nodup_inherited_iff.mp distinct
    have found (name : String) (p : Property) :
        schema.property c name = .ok p ↔ (name, p) ∈ inherited chain := by
      rw [property_eq_ok lineage, findSome?_eq_some_iff unshadowed, mem_inherited]
    refine ⟨distinct, ⟨chain, baseChain_eq_ok.mpr lineage, rfl⟩, fun name => ⟨found name, ?_⟩⟩
    intro absent
    exact property_eq_error lineage fun p held => absent p ((found name p).mp held)
  · intro type other name failed
    rcases properties_eq_error failed with walk | ⟨chain, owner, base, _, lineage, redeclared, same⟩
    · rcases (schema.baseChain_fails c).of_eq_error walk with ⟨_, _, cause⟩
      cases cause
    · cases same
      exact ⟨chain, owner, base, baseChain_eq_ok.mpr lineage, redeclared, rfl, rfl,
        lineage.fullName_ne redeclared.order⟩

end Schema

namespace Fleet

def tankerProperties : List (String × Property) :=
  [("Plate", plate), ("Load", ⟨.int32, true, false⟩)]

theorem tanker_properties : schema.properties tanker = .ok tankerProperties := by
  with_unfolding_all rfl

def trailer : ComplexType where
  scope := "Fleet"
  name := "Trailer"
  base := some vehicle.type
  properties := .ofList [("Axles", ⟨.int32, false, false⟩), ("Plate", ⟨.string, true, false⟩)]

def withTrailer : Schema where
  types := [.complex trailer, .complex vehicle]
  ordered := by decide

def secondPlate : Error := .duplicateProperty "Fleet.Trailer" "Fleet.Vehicle" "Plate"

theorem trailer_properties : withTrailer.properties trailer = .error secondPlate := by
  with_unfolding_all rfl

end Fleet

/-- The plate of a tanker is found as it is listed and nothing is found under a name that is not. A
trailer has no list, as it and its base type both have a plate. -/
theorem Schema.property_lookups_agree_fleet :
    (Fleet.schema.properties Fleet.tanker = .ok Fleet.tankerProperties ∧
      Fleet.schema.property Fleet.tanker "Plate" = .ok Fleet.plate ∧
      (∀ p, ("Axles", p) ∉ Fleet.tankerProperties) ∧
      Fleet.schema.property Fleet.tanker "Axles" =
        .error (.unknownProperty "Fleet.Liquid.Tanker" "Axles")) ∧
    Fleet.withTrailer.properties Fleet.trailer = .error Fleet.secondPlate ∧
      ∃ chain owner base, Fleet.withTrailer.baseChain Fleet.trailer = .ok chain ∧
        Redeclared chain owner base "Plate" ∧ owner.fullName = "Fleet.Trailer" ∧
        base.fullName = "Fleet.Vehicle" ∧ "Fleet.Trailer" ≠ "Fleet.Vehicle" := by
  rcases (property_lookups_agree Fleet.schema Fleet.tanker).1 _ Fleet.tanker_properties with
    ⟨_, _, found⟩
  have listed : ("Plate", Fleet.plate) ∈ Fleet.tankerProperties := List.mem_cons_self
  have absent (p : Property) : ("Axles", p) ∉ Fleet.tankerProperties := by
    simp [Fleet.tankerProperties]
  refine ⟨⟨Fleet.tanker_properties, ((found "Plate").1 Fleet.plate).mpr listed, absent,
    (found "Axles").2 absent⟩, Fleet.trailer_properties, ?_⟩
  exact (property_lookups_agree Fleet.withTrailer Fleet.trailer).2 _ _ _ Fleet.trailer_properties

end ODataRequest
