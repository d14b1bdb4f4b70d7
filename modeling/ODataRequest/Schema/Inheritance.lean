import ODataRequest.Schema.Basic
namespace ODataRequest.Schema

/-!
Base types and what is inherited from them. References to base types may dangle or run in a
circle; a walk along them carries the names met, and the types not met yet run out.
-/

def unmet (schema : Schema) (met : List String) : List ComplexType :=
  schema.complexTypes.filter fun c => !met.contains c.fullName

theorem unmet_cons (schema : Schema) (name : String) (met : List String) :
    schema.unmet (name :: met) = (schema.unmet met).filter (·.fullName != name) := by
  rw [unmet, unmet, List.filter_filter]
  congr 1
  funext c
  rw [List.contains_cons, Bool.not_or, bne]

theorem unmet_length_lt {schema : Schema} {met : List String} {c : ComplexType}
    (declared : c ∈ schema.complexTypes) (fresh : met.contains c.fullName = false) :
    (schema.unmet (c.fullName :: met)).length < (schema.unmet met).length := by
  have member : c ∈ schema.unmet met :=
    List.mem_filter.mpr ⟨declared, by rw [fresh, Bool.not_false]⟩
  rw [unmet_cons]
  exact List.length_filter_lt_length_iff_exists.mpr ⟨c, member, by simp⟩

/-- The base types of `current`, nearest first. `met` holds the full names on the way to it;
a name that returns means that the references run in a circle. -/
def basesFrom (schema : Schema) (met : List String) (current : ComplexType) :
    Except Error (List ComplexType) :=
  match current.base with
  | none => .ok []
  | some base =>
    match _resolved : schema.complex base with
    | .error _ => .error (.unresolvedBase current.fullName base.text)
    | .ok next =>
      if _fresh : met.contains next.fullName = false then
        (basesFrom schema (next.fullName :: met) next).map (next :: ·)
      else .error (.unresolvedBase current.fullName base.text)
termination_by (schema.unmet met).length
decreasing_by exact unmet_length_lt (complex_mem _resolved) _fresh

def baseChain (schema : Schema) (c : ComplexType) : Except Error (List ComplexType) :=
  (schema.basesFrom [c.fullName] c).map (c :: ·)

structure Declared where
  name : String
  owner : ComplexType
  property : Property

def declare (owner : ComplexType) (listed : List Declared) (entry : String × Property) :
    Except Error (List Declared) :=
  match listed.find? fun d => d.name == entry.1 with
  | some earlier =>
    .error (.duplicateProperty owner.fullName earlier.owner.fullName entry.1)
  | none => .ok (listed ++ [⟨entry.1, owner, entry.2⟩])

def declareAll (listed : List Declared) (owner : ComplexType) : Except Error (List Declared) :=
  owner.properties.entries.foldlM (declare owner) listed

/-- Every property of a type, those of the outermost base type first. -/
def properties (schema : Schema) (c : ComplexType) : Except Error (List (String × Property)) := do
  let chain ← schema.baseChain c
  let listed ← chain.reverse.foldlM declareAll []
  pure (listed.map fun d => (d.name, d.property))

/-- A property by name, from the nearest type that declares it. -/
def property (schema : Schema) (c : ComplexType) (name : String) : Except Error Property := do
  let chain ← schema.baseChain c
  match chain.findSome? fun owner => owner.properties.get? name with
  | some found => pure found
  | none => .error (.unknownProperty c.fullName name)

/-- The key of the nearest type that declares one, in declared order. -/
def keyProperties (schema : Schema) (c : ComplexType) :
    Except Error (List (String × Property)) := do
  let chain ← schema.baseChain c
  match chain.findSome? ComplexType.key with
  | some names => names.mapM fun name => do pure (name, ← schema.property c name)
  | none => .error (.noKey c.fullName)

end ODataRequest.Schema
