import Mathlib.Data.List.Basic
import ODataRequest.Proofs.AliasBinding
import ODataRequest.Proofs.PropertyLists
import ODataRequest.Resource.Mapping
namespace ODataRequest

/-- The schema itself is at fault: a type or a base type is missing, or a property is declared
twice. -/
def Error.ofSchema : Error → Bool
  | .unknownType .. | .unresolvedBase .. | .duplicateProperty .. => true
  | _ => false

section Safe

variable {α β : Type}

/-- The computation comes to a value with the property, or fails through no fault of the
schema. -/
def Safe (x : Except Error α) (P : α → Prop) : Prop :=
  match x with
  | .ok a => P a
  | .error e => e.ofSchema = false

namespace Safe

variable {x : Except Error α} {P Q : α → Prop} {R : β → Prop}

theorem yields_iff : Safe x P ↔ Yields x P fun e => e.ofSchema = false := by
  cases x with
  | ok a => exact Iff.rfl
  | error e => exact Iff.rfl

theorem ok {a : α} (holds : P a) : Safe (.ok a) P := holds

theorem error {e : Error} (other : e.ofSchema = false) : Safe (.error e) P := other

theorem of_eq_error (safe : Safe x P) {e : Error} (failed : x = .error e) :
    e.ofSchema = false := (yields_iff.mp safe).of_eq_error failed

theorem mono (safe : Safe x P) (weaker : ∀ a, P a → Q a) : Safe x Q :=
  yields_iff.mpr ((yields_iff.mp safe).mono weaker)

theorem bind {f : α → Except Error β} (first : Safe x P) (next : ∀ a, P a → Safe (f a) R) :
    Safe (x >>= f) R :=
  yields_iff.mpr ((yields_iff.mp first).bind fun a holds => yields_iff.mp (next a holds))

theorem logged {x : Logged Error α} {f : α → Logged Error β} (first : Safe x.outcome P)
    (next : ∀ a, P a → Safe (f a).outcome R) : Safe (x >>= f).outcome R :=
  yields_iff.mpr ((yields_iff.mp first).logged fun a holds => yields_iff.mp (next a holds))

theorem map {f : α → β} (safe : Safe x P) (sends : ∀ a, P a → R (f a)) : Safe (x.map f) R :=
  yields_iff.mpr ((yields_iff.mp safe).map sends)

theorem mapM {f : α → Except Error β} {items : List α} (each : ∀ a ∈ items, Safe (f a) R) :
    Safe (items.mapM f) fun results => ∀ b ∈ results, R b :=
  yields_iff.mpr (Yields.mapM fun a member => yields_iff.mp (each a member))

theorem forM {f : α → Except Error Unit} {items : List α}
    (each : ∀ a ∈ items, Safe (f a) fun _ => True) : Safe (items.forM f) fun _ => True :=
  yields_iff.mpr (Yields.forM fun a member => yields_iff.mp (each a member))

theorem foldlM {f : β → α → Except Error β} {items : List α} {start : β} (holds : R start)
    (step : ∀ b, R b → ∀ a ∈ items, Safe (f b a) R) : Safe (items.foldlM f start) R := by
  apply yields_iff.mpr
  apply Yields.foldlM holds
  intro b kept a member
  exact yields_iff.mp (step b kept a member)

theorem foldlM_logged {f : β → α → Logged Error β} {items : List α} {start : β} (holds : R start)
    (step : ∀ b, R b → ∀ a ∈ items, Safe (f b a).outcome R) :
    Safe (items.foldlM f start).outcome R := by
  apply yields_iff.mpr
  apply Yields.foldlM_logged holds
  intro b kept a member
  exact yields_iff.mp (step b kept a member)

end Safe

end Safe

namespace Schema

variable {schema : Schema} {c : ComplexType}

/-- The type, or that of the elements, is declared or needs no declaration. -/
def Resolves (schema : Schema) (type : TypeRef) : Prop :=
  ∃ kind, schema.kind type.innermost = .ok kind

theorem resolves_of_check {type : TypeRef}
    (checked : ((schema.kind type.innermost).map fun _ => ()) = .ok ()) :
    schema.Resolves type :=
  map_unit_eq_ok.mp checked

theorem resolves_of_complex {type : TypeRef} (resolved : schema.complex type = .ok c) :
    schema.Resolves type := by
  cases type with
  | named scope name => exact ⟨_, complex_eq_ok.mp resolved⟩
  | collection element => cases resolved

/-- Every type can be listed with all of its properties, and the types of these resolve. -/
structure Closed (schema : Schema) : Prop where
  listed : ∀ c ∈ schema.complexTypes, ∃ properties, schema.properties c = .ok properties ∧
    ∀ entry ∈ properties, schema.Resolves entry.2.type

theorem closed_of_validate (valid : schema.validate = .ok ()) : schema.Closed where
  listed := by
    intro c declared
    have checked : schema.checkType c = .ok () := forM_eq_ok.mp valid c declared
    rcases bind_eq_ok.mp checked with ⟨properties, listed, checked⟩
    rcases bind_eq_ok.mp checked with ⟨_, resolved, _⟩
    exact ⟨properties, listed, fun entry member =>
      resolves_of_check (forM_eq_ok.mp resolved entry member)⟩

theorem own_mem_properties {properties : List (String × Property)}
    (listed : schema.properties c = .ok properties) {entry : String × Property}
    (own : entry ∈ c.properties.entries) : entry ∈ properties := by
  rcases properties_eq_ok.mp listed with ⟨chain, lineage, rfl, _⟩
  exact mem_inherited.mpr ⟨c, List.mem_of_mem_head? lineage.starts, own⟩

namespace Closed

theorem own (closed : schema.Closed) (declared : c ∈ schema.complexTypes)
    {entry : String × Property} (own : entry ∈ c.properties.entries) :
    schema.Resolves entry.2.type := by
  rcases closed.listed c declared with ⟨properties, listed, resolve⟩
  exact resolve entry (own_mem_properties listed own)

theorem baseChain (closed : schema.Closed) (declared : c ∈ schema.complexTypes) :
    ∃ chain, schema.baseChain c = .ok chain := by
  rcases closed.listed c declared with ⟨_, listed, _⟩
  rcases bind_eq_ok.mp listed with ⟨chain, walked, _⟩
  exact ⟨chain, walked⟩

theorem property (closed : schema.Closed) (declared : c ∈ schema.complexTypes) (name : String) :
    Safe (schema.property c name) fun property => schema.Resolves property.type := by
  cases found : schema.property c name with
  | ok property =>
    rcases property_declared declared found with ⟨owner, member, own⟩
    exact closed.own member own
  | error e =>
    rcases closed.baseChain declared with ⟨chain, walked⟩
    rw [Schema.property, walked] at found
    simp only [Bind.bind, Except.bind] at found
    split at found
    · cases found
    · cases found
      exact Safe.error rfl

theorem keyProperties (closed : schema.Closed) (declared : c ∈ schema.complexTypes) :
    Safe (schema.keyProperties c) fun key => ∀ entry ∈ key, schema.Resolves entry.2.type := by
  rcases closed.baseChain declared with ⟨chain, walked⟩
  have known : Safe (schema.baseChain c) fun _ => True := by
    rw [walked]
    exact Safe.ok trivial
  apply known.bind
  intro chain _
  split
  · apply Safe.mapM
    intro name _
    apply Safe.bind (closed.property declared name)
    intro property resolves
    exact Safe.ok resolves
  · exact Safe.error rfl

end Closed
end Schema

namespace Cursor

variable {schema : Schema} {cursor : Cursor} {type : TypeRef}

theorem classifySingle_safe (closed : schema.Closed) {found : TypeKind}
    (resolved : schema.kind type = .ok found) :
    Safe (classifySingle schema type) fun kind =>
      kind = .complex → ∃ c, schema.complex type = .ok c := by
  rw [classifySingle, resolved]
  cases found with
  | primitive => exact Safe.ok nofun
  | raw => exact Safe.ok nofun
  | enum e => exact Safe.ok nofun
  | complex c =>
    have declared : schema.complex type = .ok c := by rw [Schema.complex, resolved]
    rcases closed.listed c (Schema.complex_mem declared) with ⟨properties, listed, resolve⟩
    change Safe (schema.properties c >>= _) _
    rw [listed]
    change Safe (properties.forM _ >>= _) _
    have checked : Safe (properties.forM fun entry =>
        (schema.kind entry.2.type.innermost).map fun _ => ()) fun _ => True := by
      apply Safe.forM
      intro entry member
      rcases resolve entry member with ⟨kind, known⟩
      rw [known]
      exact Safe.ok trivial
    exact checked.bind fun _ _ => Safe.ok fun _ => ⟨c, declared⟩

theorem classify_safe (closed : schema.Closed) (resolves : schema.Resolves type) :
    Safe (classify schema type) fun kind =>
      kind = .complex → ∃ c, schema.complex type = .ok c := by
  rcases resolves with ⟨found, resolved⟩
  unfold classify
  split
  · exact Safe.error rfl
  · rename_i shallow
    cases type with
    | named scope name => exact classifySingle_safe closed resolved
    | collection element =>
      cases element with
      | named scope name => exact (classifySingle_safe closed resolved).map fun _ _ => nofun
      | collection inner => exact absurd (Nat.succ_lt_succ (Nat.succ_pos _)) shallow

/-- A step that an author can take without naming a type. -/
inductive Advance
  | property (name : String)
  | element (variableName : String)
  | count
  | value
  | context (name : String)

def advance (cursor : Cursor) : Advance → Except Error Cursor
  | .property name => cursor.property name
  | .element variableName => cursor.element variableName
  | .count => cursor.count
  | .value => cursor.value
  | .context name => .ok (cursor.inContext name)

structure Located (schema : Schema) (cursor : Cursor) : Prop where
  within : cursor.schema = schema
  resolves : schema.Resolves cursor.type
  complex : cursor.kind = .complex → ∃ c, schema.complex cursor.type = .ok c

theorem start_safe (closed : schema.Closed) (resolves : schema.Resolves type)
    (root : RootSymbol) : Safe (start schema type root) (Located schema) := by
  apply (classify_safe closed resolves).bind
  intro kind complex
  exact Safe.ok ⟨rfl, resolves, complex⟩

theorem cannotTraverse_ofSchema (cursor : Cursor) (what : String) :
    (cursor.cannotTraverse what).ofSchema = false := rfl

theorem property_safe (closed : schema.Closed) (located : Located schema cursor)
    (name : String) : Safe (cursor.property name) (Located schema) := by
  rw [Cursor.property]
  split
  · rename_i complex
    rcases located.complex complex with ⟨c, resolved⟩
    rw [located.within, resolved]
    apply (closed.property (Schema.complex_mem resolved) name).bind
    intro property resolves
    apply (classify_safe closed resolves).bind
    intro kind complex
    exact Safe.ok ⟨located.within, resolves, complex⟩
  · exact Safe.error rfl
  · exact Safe.error (cursor.cannotTraverse_ofSchema name)

theorem element_safe (closed : schema.Closed) (located : Located schema cursor)
    (variableName : String) : Safe (cursor.element variableName) (Located schema) := by
  rw [Cursor.element]
  split
  · cases reached : cursor.type with
    | named scope name => exact Safe.error rfl
    | collection element =>
      cases element with
      | collection inner => exact Safe.error rfl
      | named scope name =>
        have resolves : schema.Resolves (.named scope name) := by
          have outer := located.resolves
          rwa [reached] at outer
        rw [located.within]
        apply (start_safe closed resolves _).bind
        intro element inside
        exact Safe.ok ⟨inside.within, inside.resolves, inside.complex⟩
  · exact Safe.error (cursor.cannotTraverse_ofSchema _)

theorem advance_safe (closed : schema.Closed) (located : Located schema cursor) (a : Advance) :
    Safe (cursor.advance a) (Located schema) := by
  cases a with
  | property name => exact property_safe closed located name
  | element variableName => exact element_safe closed located variableName
  | count =>
    change Safe cursor.count _
    rw [Cursor.count]
    split
    · exact Safe.ok ⟨located.within, ⟨.primitive, rfl⟩, nofun⟩
    · exact Safe.error (cursor.cannotTraverse_ofSchema _)
  | value =>
    change Safe cursor.value _
    rw [Cursor.value]
    split
    · exact Safe.ok ⟨located.within, ⟨.primitive, rfl⟩, nofun⟩
    · exact Safe.error (cursor.cannotTraverse_ofSchema _)
  | context name => exact Safe.ok ⟨located.within, located.resolves, located.complex⟩

def explore (schema : Schema) (type : TypeRef) (root : RootSymbol) (advances : List Advance) :
    Except Error Cursor := do
  let cursor ← start schema type root
  advances.foldlM advance cursor

theorem explore_safe (closed : schema.Closed) (resolves : schema.Resolves type)
    (root : RootSymbol) (advances : List Advance) :
    Safe (explore schema type root advances) (Located schema) := by
  apply (start_safe closed resolves root).bind
  intro cursor located
  apply Safe.foldlM located
  intro next inside a _
  exact advance_safe closed inside a

end Cursor

section Literal

variable {schema : Schema}

theorem TypeRef.innermost_elementOrSelf (type : TypeRef) :
    type.elementOrSelf.innermost = type.innermost := by
  cases type with
  | named scope name => rfl
  | collection element => rfl

theorem Literal.scalar_safe {type : TypeRef} (resolves : schema.Resolves type) (value : Value) :
    Safe (scalar schema value type) fun _ => True := by
  have known : Safe (schema.kind type.innermost) fun _ => True := by
    rcases resolves with ⟨kind, resolved⟩
    rw [resolved]
    exact Safe.ok trivial
  have written (text : Option String) :
      Safe ((text.map pure).getD (.error (mismatch value type))) fun _ => True := by
    cases text with
    | some text => exact Safe.ok trivial
    | none => exact Safe.error rfl
  apply known.bind
  intro kind _
  cases kind with
  | raw => cases value <;> exact Safe.ok trivial
  | primitive =>
    cases type.innermost with
    | named scope name => exact written _
    | collection element => exact Safe.error rfl
  | enum e => exact written _
  | complex c => exact Safe.error rfl

mutual

theorem Literal.serialize_safe {type : TypeRef} (resolves : schema.Resolves type) :
    (value : Value) → Safe (serialize schema value type) fun _ => True
  | .null => Safe.ok trivial
  | .raw text => Safe.ok trivial
  | .list items => by
    rw [serialize]
    split
    · exact Safe.error rfl
    · have inner : schema.Resolves type.elementOrSelf := by
        rw [Schema.Resolves, type.innermost_elementOrSelf]
        exact resolves
      apply (Literal.serializeItems_safe inner items).bind
      intro texts _
      exact Safe.ok trivial
  | .bool _ | .int _ | .float _ | .decimal _ | .string _ | .guid _ | .dateTimeOffset _ | .date _
  | .timeOfDay _ | .duration _ | .binary _ | .member _ => by
    rw [serialize.eq_def]
    exact Literal.scalar_safe resolves _

theorem Literal.serializeItems_safe {type : TypeRef} (resolves : schema.Resolves type) :
    (items : List Value) → Safe (serializeItems schema items type) fun _ => True
  | [] => Safe.ok trivial
  | item :: rest => by
    rw [serializeItems]
    apply (Literal.serialize_safe resolves item).bind
    intro text _
    apply (Literal.serializeItems_safe resolves rest).bind
    intro texts _
    exact Safe.ok trivial

end

end Literal

namespace EntitySet

variable {schema : Schema} {set : EntitySet}

theorem resolves_entityType (valid : set.validate schema = .ok ()) :
    schema.Resolves set.entityType := by
  rw [validate] at valid
  split at valid
  · cases valid
  · rcases bind_eq_ok.mp valid with ⟨c, resolved, _⟩
    exact Schema.resolves_of_complex resolved

theorem resolves_pathType (valid : set.validate schema = .ok ()) :
    schema.Resolves set.pathType := by
  rw [pathType]
  split
  · exact resolves_entityType valid
  · exact resolves_entityType valid

theorem checkFunction_of_mem (valid : set.validate schema = .ok ()) {f : BoundFunction}
    (member : f ∈ set.functions) : checkFunction schema f = .ok () := by
  rw [validate] at valid
  split at valid
  · cases valid
  · rcases bind_eq_ok.mp valid with ⟨c, _, checked⟩
    exact forM_eq_ok.mp checked f member

theorem boundFunction_safe (valid : set.validate schema = .ok ()) (binding : TypeRef)
    (name : String) :
    Safe (set.boundFunction binding name) fun f =>
      schema.Resolves f.result ∧ ∀ p ∈ f.parameters, schema.Resolves p.type := by
  rw [boundFunction]
  split
  · rename_i f found
    have checked := checkFunction_of_mem valid (List.mem_of_find?_eq_some found)
    rcases bind_eq_ok.mp checked with ⟨_, _, checked⟩
    rcases bind_eq_ok.mp checked with ⟨_, result, parameters⟩
    exact Safe.ok ⟨Schema.resolves_of_check result, fun p member =>
      Schema.resolves_of_check (forM_eq_ok.mp parameters p member)⟩
  · exact Safe.error rfl

end EntitySet

/-- The schema is closed, and values of its types are written without a fault of the schema. -/
structure Mapping.Trusted (mapping : Mapping) : Prop where
  closed : mapping.schema.Closed
  writes : ∀ value type, mapping.schema.Resolves type →
    Safe (mapping.serializer mapping.schema value type) fun _ => True

namespace Draft

variable {mapping : Mapping} {draft : Draft} {type : TypeRef}

def Settled (schema : Schema) (param : Alias) : Prop :=
  ∃ value type, param.payload = .constant value type ∧ schema.Resolves type

structure Closed (schema : Schema) (draft : Draft) : Prop where
  type : ∀ type, draft.type = some type → schema.Resolves type
  entitySet : ∀ set, draft.entitySet = some set → set.validate schema = .ok ()
  aliases : ∀ param ∈ draft.aliases.params, Settled schema param

theorem closed_start (schema : Schema) : Closed schema {} where
  type := nofun
  entitySet := nofun
  aliases := nofun

theorem Closed.segment {schema : Schema} (closed : Closed schema draft) (segment : String)
    (resolves : schema.Resolves type) (accept : Accept) (terminal : Option String) :
    Closed schema { draft.addSegment segment type with accept, terminal } where
  type := fun _ reached => Option.some.inj reached ▸ resolves
  entitySet := closed.entitySet
  aliases := closed.aliases

theorem Closed.behind {schema : Schema} (closed : Closed schema draft) (text : String)
    (resolves : schema.Resolves type) : Closed schema (draft.extendSegment text type) where
  type := fun _ reached => Option.some.inj reached ▸ resolves
  entitySet := closed.entitySet
  aliases := closed.aliases

theorem addRoot_safe {schema : Schema} (closed : Closed schema draft) {part : ResourcePart}
    (valid : ∀ set, part = .entitySet set → set.validate schema = .ok ()) :
    Safe (draft.addRoot part) (Closed schema) := by
  cases part with
  | container name =>
    rw [addRoot]
    split
    · exact Safe.ok ⟨closed.type, closed.entitySet, closed.aliases⟩
    · exact Safe.error rfl
  | entitySet set =>
    have sound : set.validate schema = .ok () := valid set rfl
    exact Safe.ok {
      type := fun _ reached => Option.some.inj reached ▸ EntitySet.resolves_pathType sound
      entitySet := fun _ addressed => Option.some.inj addressed ▸ sound
      aliases := closed.aliases }
  | key _ | property _ | count | value | cast _ | function _ _ | query _ => exact Safe.error rfl

theorem addProperty_safe (trusted : mapping.Trusted) (closed : Closed mapping.schema draft)
    (name : String) : Safe (draft.addProperty mapping type name) (Closed mapping.schema) := by
  rw [addProperty]
  split
  · rename_i c resolved
    apply (trusted.closed.property (Schema.complex_mem resolved) name).bind
    intro property resolves
    exact Safe.ok (closed.segment name resolves _ _)
  · exact Safe.error rfl

theorem addCount_safe {schema : Schema} (closed : Closed schema draft) :
    Safe (draft.addCount type) (Closed schema) := by
  rw [addCount]
  split
  · exact Safe.ok (closed.segment _ ⟨.primitive, rfl⟩ _ _)
  · exact Safe.error rfl

theorem isLeaf_safe {schema : Schema} (resolves : schema.Resolves type) :
    Safe (isLeaf schema type) fun _ => True := by
  rcases resolves with ⟨kind, resolved⟩
  cases type with
  | collection element => exact Safe.ok trivial
  | named scope name =>
    change Safe ((schema.kind (TypeRef.named scope name).innermost).map _) _
    rw [resolved]
    exact Safe.ok trivial

theorem addValue_safe (closed : Closed mapping.schema draft)
    (resolves : mapping.schema.Resolves type) :
    Safe (draft.addValue mapping type) (Closed mapping.schema) := by
  apply (isLeaf_safe resolves).bind
  intro leaf _
  cases leaf with
  | true => exact Safe.ok (closed.segment _ ⟨.primitive, rfl⟩ _ _)
  | false => exact Safe.error rfl

theorem keyedElement_safe (schema : Schema) (type : TypeRef) :
    Safe (keyedElement schema type) fun keyed =>
      schema.Resolves keyed.1 ∧ keyed.2 ∈ schema.complexTypes := by
  unfold keyedElement
  split
  · split
    · rename_i resolved
      exact Safe.ok ⟨Schema.resolves_of_complex resolved, Schema.complex_mem resolved⟩
    · exact Safe.error rfl
  · exact Safe.error rfl

theorem singleKeyType_safe {schema : Schema} {key : List (String × Property)}
    (resolve : ∀ entry ∈ key, schema.Resolves entry.2.type) (entity : ComplexType)
    (value : Value) : Safe (singleKeyType entity key value) schema.Resolves := by
  rw [singleKeyType.eq_def]
  split
  · exact Safe.error rfl
  · exact Safe.ok (resolve _ List.mem_cons_self)
  · exact Safe.error rfl

theorem keyLiteral_safe (trusted : mapping.Trusted) (resolves : mapping.schema.Resolves type)
    (value : Value) : Safe (keyLiteral mapping value type) fun _ => True :=
  (trusted.writes value type resolves).map fun _ _ => trivial

theorem segmentText_safe (trusted : mapping.Trusted) (resolves : mapping.schema.Resolves type)
    (value : Value) : Safe (segmentText mapping value type) fun _ => True := by
  rw [segmentText.eq_def]
  split
  · exact Safe.ok trivial
  · exact keyLiteral_safe trusted resolves _

theorem compositeText_safe (trusted : mapping.Trusted) {key : List (String × Property)}
    (resolve : ∀ entry ∈ key, mapping.schema.Resolves entry.2.type) (entity : ComplexType)
    (pairs : List (String × Value)) :
    Safe (compositeText mapping entity key pairs) fun _ => True := by
  rw [compositeText]
  split
  · exact Safe.error rfl
  · have texts : Safe (key.mapM (keyPair mapping entity pairs)) fun _ => True := by
      refine (Safe.mapM (R := fun _ => True) ?_).mono fun _ _ => trivial
      intro entry member
      rw [keyPair]
      split
      · exact Safe.error rfl
      · apply (keyLiteral_safe trusted (resolve entry member) _).bind
        intro text _
        exact Safe.ok trivial
    apply texts.bind
    intro texts _
    exact Safe.ok trivial

theorem addKey_safe (trusted : mapping.Trusted) (closed : Closed mapping.schema draft)
    (key : KeySelection) :
    Safe (draft.addKey mapping type key).outcome (Closed mapping.schema) := by
  apply Safe.logged (keyedElement_safe mapping.schema type)
  rintro ⟨element, entity⟩ ⟨resolves, member⟩
  apply Safe.logged (trusted.closed.keyProperties member)
  intro declared resolve
  cases key with
  | raw text => exact Safe.ok (closed.behind _ resolves)
  | styled style key =>
    cases key with
    | single value =>
      cases style with
      | parenthesized =>
        apply Safe.logged (singleKeyType_safe resolve entity value)
        intro keyType typed
        apply Safe.logged (keyLiteral_safe trusted typed value)
        intro text _
        exact Safe.ok (closed.behind _ resolves)
      | segment =>
        apply Safe.logged (singleKeyType_safe resolve entity value)
        intro keyType typed
        apply Safe.logged (segmentText_safe trusted typed value)
        intro text _
        exact Safe.ok (closed.segment _ resolves _ _)
    | composite pairs =>
      have written := compositeText_safe trusted resolve entity pairs
      cases style with
      | parenthesized =>
        apply Safe.logged written
        intro text _
        exact Safe.ok (closed.behind _ resolves)
      | segment =>
        have warned (ignored : Bool) (warning : Warning) :
            Safe (warnUnless ignored warning).outcome fun _ => True := by
          cases ignored with
          | true => exact Safe.ok trivial
          | false => exact Safe.ok trivial
        apply Safe.logged (warned _ _)
        intro _ _
        apply Safe.logged written
        intro text _
        exact Safe.ok (closed.behind _ resolves)

theorem addArgument_safe {schema : Schema} {f : BoundFunction}
    {arguments : List (String × Value)} {state : AliasList × List String} {p : FunctionParameter}
    (settled : ∀ param ∈ state.1.params, Settled schema param) (resolves : schema.Resolves p.type) :
    Safe (addArgument f arguments state p) fun state =>
      ∀ param ∈ state.1.params, Settled schema param := by
  rw [addArgument]
  split
  · exact Safe.error rfl
  · rename_i value _
    intro param member
    rcases List.mem_append.mp member with member | member
    · exact settled param member
    · cases List.mem_singleton.mp (mem_of_mem_unmet member)
      exact ⟨value, p.type, rfl, resolves⟩

theorem addFunction_safe (closed : Closed mapping.schema draft) (name : String)
    (arguments : List (String × Value)) :
    Safe (draft.addFunction type name arguments) (Closed mapping.schema) := by
  rw [addFunction]
  split
  · exact Safe.error rfl
  · rename_i set addressed
    apply (EntitySet.boundFunction_safe (closed.entitySet set addressed) type name).bind
    rintro f ⟨result, parameters⟩
    dsimp only
    split
    · exact Safe.error rfl
    · have passed : Safe (f.parameters.foldlM (addArgument f arguments) (draft.aliases, []))
          fun state => ∀ param ∈ state.1.params, Settled mapping.schema param := by
        apply Safe.foldlM closed.aliases
        intro state settled p member
        exact addArgument_safe settled (parameters p member)
      apply passed.bind
      rintro ⟨aliases, texts⟩ settled
      exact Safe.ok ⟨fun _ reached => Option.some.inj reached ▸ result, closed.entitySet, settled⟩

/-- A part of the path that names no type of its own. -/
def Descends : ResourcePart → Prop
  | .cast _ | .query _ => False
  | _ => True

theorem addPathPart_safe (trusted : mapping.Trusted) (closed : Closed mapping.schema draft)
    (reached : draft.type = some type) {part : ResourcePart} (descends : Descends part) :
    Safe (draft.addPathPart mapping type part).outcome (Closed mapping.schema) := by
  cases part with
  | container name => exact Safe.error rfl
  | entitySet set => exact Safe.error rfl
  | key key => exact addKey_safe trusted closed key
  | property name => exact addProperty_safe trusted closed name
  | count => exact addCount_safe closed
  | value => exact addValue_safe closed (closed.type type reached)
  | cast target => exact absurd descends id
  | function name arguments => exact addFunction_safe closed name arguments
  | query clauses => exact absurd descends id

theorem addPart_safe (trusted : mapping.Trusted) (closed : Closed mapping.schema draft)
    {part : ResourcePart} (descends : Descends part)
    (valid : ∀ set, part = .entitySet set → set.validate mapping.schema = .ok ()) :
    Safe (addPart mapping draft part).outcome (Closed mapping.schema) := by
  unfold addPart
  split
  · exact absurd descends id
  · split
    · exact Safe.error rfl
    · exact addRoot_safe closed valid
    · rename_i reached
      exact addPathPart_safe trusted closed reached descends

theorem addBinding_safe (bindings : List (String × String)) (name text : String) :
    Safe (Renderer.addBinding bindings name text) fun _ => True := by
  rw [Renderer.addBinding]
  split
  · exact Safe.ok trivial
  · split
    · exact Safe.ok trivial
    · exact Safe.error rfl

theorem bindPending_safe (trusted : mapping.Trusted) {pending : List Alias}
    (settled : ∀ param ∈ pending, Settled mapping.schema param) (met : List AliasId)
    (bindings : List (String × String)) :
    Safe (mapping.renderer.bindPending met pending bindings) fun _ => True := by
  induction pending generalizing met bindings with
  | nil =>
    rw [Renderer.bindPending]
    exact Safe.ok trivial
  | cons param rest ih =>
    rcases settled param List.mem_cons_self with ⟨value, type, payload, resolves⟩
    have written := trusted.writes value type resolves
    have rendered : mapping.renderer.aliasText param =
        ⟨[], mapping.serializer mapping.schema value type⟩ := by
      rw [Renderer.aliasText, payload]
      rfl
    cases outcome : mapping.serializer mapping.schema value type with
    | error e =>
      rw [Renderer.bindPending, rendered, outcome]
      exact Safe.error (written.of_eq_error outcome)
    | ok text =>
      rw [outcome] at rendered
      have bound := addBinding_safe bindings param.name text
      cases added : Renderer.addBinding bindings param.name text with
      | error e =>
        rw [Renderer.bindPending, rendered]
        dsimp only
        rw [added]
        exact Safe.error (bound.of_eq_error added)
      | ok bindings' =>
        have others : ∀ other ∈ rest, Settled mapping.schema other := fun other member =>
          settled other (List.mem_cons_of_mem _ member)
        -- The text of a value meets nothing, so the pending aliases only get fewer.
        rw [Renderer.bindPending_cons rendered added, unmet, List.append_nil]
        exact ih others _ bindings'

theorem addPair_safe (draft : Draft) (key text : String) :
    Safe (draft.addPair key text) fun _ => True := by
  rw [addPair]
  split
  · exact Safe.error rfl
  · exact Safe.ok trivial

theorem finish_safe (trusted : mapping.Trusted) (closed : Closed mapping.schema draft)
    (root : String) : Safe (draft.finish mapping root) fun _ => True := by
  rw [finish]
  split
  · exact Safe.error rfl
  · apply (bindPending_safe trusted closed.aliases draft.aliases.ids []).bind
    intro bindings _
    have paired : Safe (bindings.foldlM (fun draft binding =>
        draft.addPair binding.1 binding.2) draft) fun _ => True := by
      apply Safe.foldlM trivial
      intro draft _ binding _
      exact draft.addPair_safe binding.1 binding.2
    apply paired.bind
    intro final _
    exact Safe.ok trivial

end Draft

theorem Mapping.map_safe {mapping : Mapping} (trusted : mapping.Trusted) {resource : ResourceParts}
    (descends : ∀ part ∈ resource.parts, Draft.Descends part)
    (valid : ∀ set, .entitySet set ∈ resource.parts → set.validate mapping.schema = .ok ())
    (root : String) : Safe (mapping.map root resource).outcome fun _ => True := by
  have drafted : Safe (mapping.draft resource).outcome (Draft.Closed mapping.schema) := by
    apply Safe.foldlM_logged (Draft.closed_start mapping.schema)
    intro draft closed part member
    exact Draft.addPart_safe trusted closed (descends part member)
      fun set same => valid set (same ▸ member)
  apply Safe.logged drafted
  intro draft closed
  exact Draft.finish_safe trusted closed root

/-- Behind validation the schema is never at fault: neither for steps from a position at a type
that resolves, nor for parts of a path below validated entity sets. -/
theorem Schema.validate_closes {schema : Schema} (valid : schema.validate = .ok ()) :
    (∀ type, schema.Resolves type → ∀ root advances e,
      Cursor.explore schema type root advances = .error e → e.ofSchema = false) ∧
    ∀ options root (resource : ResourceParts), (∀ part ∈ resource.parts, Draft.Descends part) →
      (∀ set, .entitySet set ∈ resource.parts → set.validate schema = .ok ()) →
      ∀ e, (Mapping.map { schema, options } root resource).outcome = .error e →
        e.ofSchema = false := by
  have closed := closed_of_validate valid
  constructor
  · intro type resolves root advances e failed
    exact (Cursor.explore_safe closed resolves root advances).of_eq_error failed
  · intro options root resource descends sets e failed
    have trusted : Mapping.Trusted { schema, options } :=
      ⟨closed, fun value _ resolves => Literal.serialize_safe resolves value⟩
    exact (Mapping.map_safe trusted descends sets root).of_eq_error failed

namespace Depot

def item : TypeRef := .named "Depot" "Item"

def schema : Schema where
  types := [
    .enum { scope := "Depot", name := "Grade", members := .ofList [("Fine", 0)] },
    .complex {
      scope := "Depot"
      name := "Item"
      base := some (.named "Depot" "Thing")
      properties := .ofList [("Grade", ⟨.named "Depot" "Grade", false, false⟩)] },
    .complex {
      scope := "Depot"
      name := "Thing"
      key := some ["Id"]
      properties := .ofList [("Id", ⟨.int64, false, false⟩)] }]
  ordered := by decide

def items : EntitySet :=
  (EntitySet.ofType "Main" "Items" item).withFunction
    ⟨"Depot", "Graded", .collection item, [⟨"grade", .named "Depot" "Grade"⟩], .collection item⟩

def misplaced : ResourceParts :=
  ⟨[.entitySet items, .function "Graded" [("grade", .member "Fine")],
    .key (.styled .parenthesized (.single (.string "first")))]⟩

theorem schema_valid : schema.validate = .ok () := by with_unfolding_all rfl

theorem items_valid : items.validate schema = .ok () := rfl

def astray : List Cursor.Advance := [.element "i", .property "Grade", .value, .count]

theorem map_misplaced :
    (Mapping.map { schema := schema } "http://svc" misplaced).outcome =
      .error (.notSerializable "\"first\"" "Edm.Int64") := by
  with_unfolding_all rfl

theorem explore_astray :
    Cursor.explore schema (.collection item) (.ofType itContext item) astray =
      .error (.cannotTraverse "Edm.String" "cannot traverse a $value ($count)") := by
  with_unfolding_all rfl

end Depot

/-- A text as the key of an item fails, and so does the number of a raw grade, but not because
of the schema. -/
theorem Schema.validate_closes_depot :
    Depot.schema.validate = .ok () ∧ Depot.items.validate Depot.schema = .ok () ∧
      (∃ e, Cursor.explore Depot.schema (.collection Depot.item) (.ofType itContext Depot.item)
          Depot.astray = .error e ∧ e.ofSchema = false) ∧
      ∃ e, (Mapping.map { schema := Depot.schema } "http://svc" Depot.misplaced).outcome =
        .error e ∧ e.ofSchema = false := by
  have closes := validate_closes Depot.schema_valid
  have resolves : Depot.schema.Resolves (.collection Depot.item) :=
    EntitySet.resolves_pathType Depot.items_valid
  have descends : ∀ part ∈ Depot.misplaced.parts, Draft.Descends part := by
    intro part member
    rcases List.mem_cons.mp member with rfl | member
    · trivial
    · rcases List.mem_cons.mp member with rfl | member
      · trivial
      · rcases List.mem_singleton.mp member with rfl
        trivial
  have valid : ∀ set, .entitySet set ∈ Depot.misplaced.parts →
      set.validate Depot.schema = .ok () := by
    intro set member
    simp only [Depot.misplaced, List.mem_cons, ResourcePart.entitySet.injEq, reduceCtorEq,
      List.not_mem_nil, or_false] at member
    exact member ▸ Depot.items_valid
  exact ⟨Depot.schema_valid, Depot.items_valid,
    ⟨_, Depot.explore_astray, closes.1 _ resolves _ _ _ Depot.explore_astray⟩,
    ⟨_, Depot.map_misplaced,
      closes.2 {} "http://svc" Depot.misplaced descends valid _ Depot.map_misplaced⟩⟩

end ODataRequest
