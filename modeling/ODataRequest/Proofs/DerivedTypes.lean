import ODataRequest.Proofs.WellFormedSchemas
namespace ODataRequest

namespace Schema

variable {schema : Schema} {c d : ComplexType} {nearer farther : List ComplexType}

theorem property_of_append (lineage : schema.Lineage c (nearer ++ d :: farther))
    (unshadowed : Unshadowed (nearer ++ d :: farther)) {name : String} {p : Property}
    (found : schema.property d name = .ok p) : schema.property c name = .ok p := by
  have rest : Unshadowed (d :: farther) := (List.pairwise_append.mp unshadowed).2.1
  rw [property_eq_ok lineage.of_append, findSome?_eq_some_iff rest] at found
  rw [property_eq_ok lineage, findSome?_eq_some_iff unshadowed]
  rcases found with ⟨owner, member, own⟩
  exact ⟨owner, List.mem_append_right nearer member, own⟩

/-- The base types of a base type are those that follow it, and every property that can be looked
up on a base type is found again on the derived type. -/
theorem derived_keeps_base (valid : schema.validate = .ok ()) (declared : c ∈ schema.complexTypes) :
    ∃ chain, schema.baseChain c = .ok chain ∧ ∀ d ∈ chain,
      (∃ nearer farther, chain = nearer ++ d :: farther ∧ d ∉ nearer ++ farther ∧
        schema.baseChain d = .ok (d :: farther)) ∧
      ∀ name p, schema.property d name = .ok p → schema.property c name = .ok p := by
  rcases checkType_eq_ok.mp (forM_eq_ok.mp valid c declared) with ⟨chain, sound⟩
  refine ⟨chain, baseChain_eq_ok.mpr sound.lineage, ?_⟩
  intro d member
  rcases List.append_of_mem member with ⟨nearer, farther, rfl⟩
  have once : d ∉ nearer ++ farther :=
    (List.nodup_cons.mp (List.nodup_middle.mp sound.lineage.nodup)).1
  refine ⟨⟨nearer, farther, rfl, once, baseChain_eq_ok.mpr sound.lineage.of_append⟩, ?_⟩
  intro name p found
  exact property_of_append sound.lineage sound.unshadowed found

end Schema

namespace Fleet

def plate : Property := ⟨.string, false, false⟩

def vehicle : ComplexType where
  scope := "Fleet"
  name := "Vehicle"
  key := some ["Plate"]
  properties := .ofList [("Plate", plate)]

def truck : ComplexType where
  scope := "Fleet"
  name := "Truck"
  base := some vehicle.type
  properties := .ofList [("Load", ⟨.int32, true, false⟩)]

def tanker : ComplexType where
  scope := "Fleet.Liquid"
  name := "Tanker"
  base := some truck.type
  key := some ["Plate", "Load"]

def schema : Schema where
  types := [.complex truck, .complex vehicle, .complex tanker]
  ordered := by decide

theorem schema_valid : schema.validate = .ok () := by with_unfolding_all rfl

theorem vehicle_plate : schema.property vehicle "Plate" = .ok plate := by with_unfolding_all rfl

end Fleet

theorem Schema.derived_keeps_base_tanker :
    Fleet.schema.validate = .ok () ∧ Fleet.tanker ∈ Fleet.schema.complexTypes ∧
      Fleet.schema.property Fleet.vehicle "Plate" = .ok Fleet.plate ∧
      Fleet.schema.property Fleet.tanker "Plate" = .ok Fleet.plate := by
  have declared : Fleet.tanker ∈ Fleet.schema.complexTypes := by decide
  rcases derived_keeps_base Fleet.schema_valid declared with ⟨chain, walked, keeps⟩
  have walk : Fleet.schema.baseChain Fleet.tanker =
      .ok [Fleet.tanker, Fleet.truck, Fleet.vehicle] := by with_unfolding_all rfl
  cases walked.symm.trans walk
  have kept := (keeps Fleet.vehicle (by decide)).2
  exact ⟨Fleet.schema_valid, declared, Fleet.vehicle_plate, kept "Plate" _ Fleet.vehicle_plate⟩

end ODataRequest
