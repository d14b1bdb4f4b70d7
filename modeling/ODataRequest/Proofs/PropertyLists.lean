import ODataRequest.Proofs.BaseChains
import ODataRequest.Proofs.CastNames
namespace ODataRequest

/-!
The properties of a type. They can be listed exactly if the type has a lineage in which no property
name is declared twice. Then a property is found under its name exactly if some type of the lineage
declares it, whichever type the search meets first.
-/

namespace Table

variable {α : Type} {table : Table α} {name : String} {value : α}

theorem get?_eq_some_iff : table.get? name = some value ↔ (name, value) ∈ table.entries :=
  ⟨mem_of_get?, get?_of_mem⟩

theorem mem_names : name ∈ table.names ↔ ∃ value, (name, value) ∈ table.entries := by
  rw [names, List.mem_map]
  constructor
  · rintro ⟨⟨_, value⟩, member, rfl⟩
    exact ⟨value, member⟩
  · rintro ⟨value, member⟩
    exact ⟨_, member, rfl⟩

theorem get?_eq_none (absent : name ∉ table.names) : table.get? name = none := by
  cases found : table.get? name with
  | none => rfl
  | some value => exact absurd (List.mem_map_of_mem (mem_of_get? found)) absent

theorem nodup_names (table : Table α) : table.names.Nodup := by
  apply List.pairwise_map.mpr
  exact table.ordered.imp fun before => String.ne_of_lt before

end Table

namespace Schema

variable {schema : Schema} {c owner : ComplexType} {listed listed' : List Declared}

/-- What `listed` becomes when more is added to it, if no name returns. -/
def Continues (listed more listed' : List Declared) : Prop :=
  listed' = listed ++ more ∧ (listed'.map Declared.name).Nodup

theorem Continues.nodup {more : List Declared} (continues : Continues listed more listed') :
    (listed.map Declared.name).Nodup := by
  rcases continues with ⟨rfl, distinct⟩
  rw [List.map_append] at distinct
  exact distinct.of_append_left

theorem foldlM_continues {α : Type} {f : List Declared → α → Except Error (List Declared)}
    {added : α → List Declared}
    (step : ∀ a listed listed', (listed.map Declared.name).Nodup →
      (f listed a = .ok listed' ↔ Continues listed (added a) listed'))
    {items : List α} (distinct : (listed.map Declared.name).Nodup) :
    items.foldlM f listed = .ok listed' ↔ Continues listed (items.flatMap added) listed' := by
  induction items generalizing listed with
  | nil =>
    rw [List.flatMap_nil, Continues, List.append_nil]
    constructor
    · intro same
      cases same
      exact ⟨rfl, distinct⟩
    · rintro ⟨rfl, _⟩
      rfl
  | cons a rest ih =>
    rw [List.foldlM_cons, bind_eq_ok, List.flatMap_cons, Continues, ← List.append_assoc]
    constructor
    · rintro ⟨_, first, others⟩
      rcases (step a _ _ distinct).mp first with ⟨rfl, distinct'⟩
      exact (ih distinct').mp others
    · intro continues
      have first : Continues listed (added a) (listed ++ added a) :=
        ⟨rfl, Continues.nodup continues⟩
      exact ⟨_, (step a _ _ distinct).mpr first, (ih first.2).mpr continues⟩

def declaredBy (owner : ComplexType) (entry : String × Property) : Declared :=
  ⟨entry.1, owner, entry.2⟩

theorem declare_eq_ok (entry : String × Property)
    (distinct : (listed.map Declared.name).Nodup) :
    declare owner listed entry = .ok listed' ↔
      Continues listed [declaredBy owner entry] listed' := by
  have names : ((listed ++ [declaredBy owner entry]).map Declared.name).Nodup ↔
      entry.1 ∉ listed.map Declared.name := by
    rw [List.map_append, List.nodup_append_comm]
    exact List.nodup_cons.trans (and_iff_left distinct)
  unfold declare Continues
  split
  · rename_i earlier found
    have present : entry.1 ∈ listed.map Declared.name :=
      List.mem_map.mpr ⟨earlier, List.mem_of_find?_eq_some found,
        by simpa using List.find?_some found⟩
    constructor
    · nofun
    · rintro ⟨rfl, distinct'⟩
      exact absurd present (names.mp distinct')
  · rename_i missing
    have absent : entry.1 ∉ listed.map Declared.name := by
      simpa using List.find?_eq_none.mp missing
    constructor
    · intro same
      cases same
      exact ⟨rfl, names.mpr absent⟩
    · rintro ⟨rfl, _⟩
      rfl

theorem declareAll_eq_ok (distinct : (listed.map Declared.name).Nodup) :
    declareAll listed owner = .ok listed' ↔
      Continues listed (owner.properties.entries.map (declaredBy owner)) listed' := by
  rw [declareAll, List.map_eq_flatMap]
  exact foldlM_continues (fun entry _ _ => declare_eq_ok entry) distinct

/-- The properties along a lineage, those of the outermost base type first. -/
def inherited (chain : List ComplexType) : List (String × Property) :=
  chain.reverse.flatMap fun owner => owner.properties.entries

theorem map_declaredBy (chain : List ComplexType) :
    (chain.reverse.flatMap fun owner => owner.properties.entries.map (declaredBy owner)).map
      (fun d => (d.name, d.property)) = inherited chain := by
  rw [List.map_flatMap, inherited]
  congr
  funext owner
  rw [List.map_map]
  exact List.map_id _

theorem mem_inherited {chain : List ComplexType} {entry : String × Property} :
    entry ∈ inherited chain ↔ ∃ d ∈ chain, entry ∈ d.properties.entries := by
  simp only [inherited, List.mem_flatMap, List.mem_reverse]

/-- A type has a list of properties exactly if it has a lineage along which no name returns. -/
theorem properties_eq_ok {properties : List (String × Property)} :
    schema.properties c = .ok properties ↔
      ∃ chain, schema.Lineage c chain ∧ properties = inherited chain ∧
        ((inherited chain).map Prod.fst).Nodup := by
  unfold Schema.properties
  rw [bind_eq_ok]
  refine exists_congr fun chain => ?_
  have nothing : (([] : List Declared).map Declared.name).Nodup := List.nodup_nil
  rw [baseChain_eq_ok, bind_eq_ok, ← map_declaredBy, List.map_map]
  refine and_congr_right fun _ => ?_
  simp only [foldlM_continues (f := declareAll) (fun _ _ _ => declareAll_eq_ok) nothing]
  constructor
  · rintro ⟨_, ⟨rfl, distinct⟩, same⟩
    cases same
    exact ⟨rfl, distinct⟩
  · rintro ⟨rfl, distinct⟩
    exact ⟨_, ⟨rfl, distinct⟩, rfl⟩

def Unshadowed (chain : List ComplexType) : Prop :=
  chain.Pairwise fun d e => d.properties.names.Disjoint e.properties.names

theorem nodup_inherited_iff {chain : List ComplexType} :
    ((inherited chain).map Prod.fst).Nodup ↔ Unshadowed chain := by
  rw [inherited, List.map_flatMap, List.nodup_flatMap, List.pairwise_reverse]
  have own (owner : ComplexType) : (owner.properties.entries.map Prod.fst).Nodup :=
    owner.properties.nodup_names
  rw [and_iff_right fun owner _ => own owner]
  exact List.Pairwise.iff fun _ _ => List.disjoint_comm

variable {chain : List ComplexType} {name : String} {p : Property}

theorem findSome?_eq_some_iff (unshadowed : Unshadowed chain) :
    (chain.findSome? fun owner => owner.properties.get? name) = some p ↔
      ∃ owner ∈ chain, (name, p) ∈ owner.properties.entries := by
  constructor
  · intro found
    rcases List.exists_of_findSome?_eq_some found with ⟨owner, member, first⟩
    exact ⟨owner, member, Table.get?_eq_some_iff.mp first⟩
  · rintro ⟨owner, member, own⟩
    rcases List.append_of_mem member with ⟨nearer, farther, rfl⟩
    refine List.findSome?_eq_some_iff.mpr
      ⟨nearer, owner, farther, rfl, Table.get?_eq_some_iff.mpr own, fun d near => ?_⟩
    have apart : d.properties.names.Disjoint owner.properties.names :=
      (List.pairwise_append.mp unshadowed).2.2 d near owner List.mem_cons_self
    exact Table.get?_eq_none fun present => apart present (List.mem_map_of_mem own)

theorem property_eq_ok (lineage : schema.Lineage c chain) :
    schema.property c name = .ok p ↔
      (chain.findSome? fun owner => owner.properties.get? name) = some p := by
  unfold Schema.property
  rw [baseChain_eq_ok.mpr lineage]
  cases found : chain.findSome? fun owner => owner.properties.get? name with
  | none => simp [bind, Except.bind, found]
  | some first => simp [bind, Except.bind, pure, Except.pure, found]

theorem exists_property_iff (lineage : schema.Lineage c chain) (unshadowed : Unshadowed chain) :
    (∃ p, schema.property c name = .ok p) ↔ ∃ d ∈ chain, name ∈ d.properties.names := by
  simp only [property_eq_ok lineage, findSome?_eq_some_iff unshadowed, Table.mem_names]
  rw [exists_comm]
  simp only [exists_and_left]

end Schema
end ODataRequest
