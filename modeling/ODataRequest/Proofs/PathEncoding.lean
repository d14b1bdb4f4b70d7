import ODataRequest.Proofs.Alike
import ODataRequest.Proofs.BaseChains
import ODataRequest.Proofs.Casts
import ODataRequest.Proofs.PercentDecoding
import ODataRequest.Resource.Mapping
namespace ODataRequest

/-!
Mapping with and without percent-encoding. The runs are compared part by part: they fail alike,
and what they know differs in the segments of the path only, which decode to one another.
-/

namespace Text

def PercentFree (text : String) : Prop := '%' ∉ text.toList

instance (text : String) : Decidable (PercentFree text) :=
  inferInstanceAs (Decidable ('%' ∉ text.toList))

/-- The octets that the encoded text stands for are those of the other one. -/
def Encodes (encoded text : String) : Prop :=
  decodeOctets? encoded.toList = some (toUtf8 text)

theorem PercentFree.append {text rest : String} (front : PercentFree text)
    (back : PercentFree rest) : PercentFree (text ++ rest) := by
  rw [PercentFree, String.toList_append, List.mem_append]
  exact not_or.mpr ⟨front, back⟩

theorem decodeOctets?_append {front : List Char} {octets : List UInt8}
    (decoded : decodeOctets? front = some octets) (rest : List Char) :
    decodeOctets? (front ++ rest) = (decodeOctets? rest).map (octets ++ ·) := by
  fun_induction decodeOctets? front generalizing octets with
  | case1 =>
    cases decoded
    simp
  | case2 high low others ih =>
    simp only [Option.bind_eq_bind, Option.bind_eq_some_iff, Option.pure_def,
      Option.some.injEq] at decoded
    rcases decoded with ⟨octet, read, later, inner, rfl⟩
    rw [List.cons_append, List.cons_append, List.cons_append, decodeOctets?, read, ih inner]
    cases decodeOctets? rest <;> rfl
  | case3 => cases decoded
  | case4 char others short plain ih =>
    rcases Option.map_eq_some_iff.mp decoded with ⟨later, inner, rfl⟩
    rw [List.cons_append, decodeOctets?, if_neg plain, ih inner, Option.map_map]
    · simp only [Function.comp_def, List.append_assoc]
    · intro high low _ same
      exact absurd same plain

theorem decodeOctets?_percentFree {chars : List Char} (plain : '%' ∉ chars) :
    decodeOctets? chars = some (chars.flatMap String.utf8EncodeChar) := by
  induction chars with
  | nil => rfl
  | cons char rest ih =>
    rcases not_or.mp (mt List.mem_cons.mpr plain) with ⟨other, rest_plain⟩
    have first : char ≠ '%' := Ne.symm other
    rw [decodeOctets?, if_neg first, ih rest_plain]
    · rfl
    · intro high low _ same
      exact absurd same first

namespace Encodes

variable {encoded encoded' text text' : String}

theorem self (plain : PercentFree text) : Encodes text text := decodeOctets?_percentFree plain

theorem component (text : String) : Encodes (encodeComponent text) text := by
  rw [Encodes, encodeComponent, String.toList_ofList]
  exact decodeOctets?_encode text.toList

theorem append (front : Encodes encoded text) (back : Encodes encoded' text') :
    Encodes (encoded ++ encoded') (text ++ text') := by
  calc
    decodeOctets? (encoded ++ encoded').toList =
        decodeOctets? (encoded.toList ++ encoded'.toList) := by rw [String.toList_append]
    _ = (decodeOctets? encoded'.toList).map (toUtf8 text ++ ·) := decodeOctets?_append front _
    _ = some (toUtf8 text ++ toUtf8 text') := by rw [back, Option.map_some]
    _ = some (toUtf8 (text ++ text')) := by
      simp only [toUtf8, String.toList_append, List.flatMap_append]

theorem joined {separator : String} (plain : PercentFree separator) {texts texts' : List String}
    (encodes : List.Forall₂ Encodes texts texts') :
    Encodes (Text.joined separator texts) (Text.joined separator texts') := by
  cases encodes with
  | nil => exact self List.not_mem_nil
  | cons first others =>
    rw [joined_cons, joined_cons]
    apply append first
    induction others with
    | nil => exact self List.not_mem_nil
    | cons next _ ih =>
      rw [List.map_cons, List.map_cons, String.join_cons, String.join_cons]
      exact ((self plain).append next).append ih

theorem decode (encodes : Encodes encoded text) : decodeComponent? encoded = some text := by
  rw [decodeComponent?, encodes, Option.bind_some, toUtf8, ofUtf8?_utf8Encode,
    String.ofList_toList]

end Encodes
end Text

/-- Names that are written into a path are free of percent signs: those of types and of
properties. -/
structure Schema.PercentFree (schema : Schema) : Prop where
  types : ∀ c ∈ schema.complexTypes, Text.PercentFree c.fullName
  properties : ∀ c ∈ schema.complexTypes, ∀ entry ∈ c.properties.entries,
    Text.PercentFree entry.1

structure BoundFunction.PercentFree (f : BoundFunction) : Prop where
  fullName : Text.PercentFree f.fullName
  parameters : ∀ p ∈ f.parameters, Text.PercentFree p.name

structure EntitySet.PercentFree (set : EntitySet) : Prop where
  name : Text.PercentFree set.name
  functions : ∀ f ∈ set.functions, f.PercentFree

theorem EntitySet.PercentFree.boundFunction {set : EntitySet} (free : set.PercentFree)
    {binding : TypeRef} {name : String} {f : BoundFunction}
    (bound : set.boundFunction binding name = .ok f) : f.PercentFree := by
  unfold EntitySet.boundFunction at bound
  dsimp only at bound
  split at bound
  · rename_i found
    cases bound
    exact free.functions _ (List.mem_of_find?_eq_some found)
  · cases bound

/-- What an author writes into a path without a check is free of percent signs. -/
def ResourcePart.PercentFree : ResourcePart → Prop
  | .entitySet set => set.PercentFree
  | .key (.raw text) => Text.PercentFree text
  | _ => True

theorem Schema.PercentFree.property {schema : Schema} (plain : schema.PercentFree)
    {c : ComplexType} (declared : c ∈ schema.complexTypes) {name : String} {found : Property}
    (resolved : schema.property c name = .ok found) : Text.PercentFree name := by
  rcases property_declared declared resolved with ⟨owner, member, own⟩
  exact plain.properties owner member _ own

theorem Schema.PercentFree.keyProperties {schema : Schema} (plain : schema.PercentFree)
    {c : ComplexType} (declared : c ∈ schema.complexTypes) {key : List (String × Property)}
    (listed : schema.keyProperties c = .ok key) : ∀ entry ∈ key, Text.PercentFree entry.1 := by
  rcases bind_eq_ok.mp listed with ⟨chain, _, listed⟩
  split at listed
  · intro entry member
    rcases mem_mapM listed member with ⟨name, _, resolved⟩
    rcases bind_eq_ok.mp resolved with ⟨property, found, same⟩
    cases same
    exact plain.property declared found
  · cases listed

def Mapping.withEncoding (mapping : Mapping) (urlEncode : Bool) : Mapping :=
  { mapping with options := { mapping.options with urlEncode } }

namespace Draft

variable {mapping : Mapping} {draft plain : Draft} {type : TypeRef}

/-- The second draft is the first one with the segments that these are encodings of. -/
inductive Recoded (draft : Draft) : Draft → Prop
  | intro (segments : List String) (encodes : List.Forall₂ Text.Encodes draft.segments segments)
      (named : ∀ set, draft.entitySet = some set → set.PercentFree) :
      Recoded draft { draft with segments }

namespace Recoded

theorem aliases_eq (recoded : Recoded draft plain) : plain.aliases = draft.aliases := by
  cases recoded with | intro => rfl

theorem entitySet_eq (recoded : Recoded draft plain) : plain.entitySet = draft.entitySet := by
  cases recoded with | intro => rfl

theorem type_eq (recoded : Recoded draft plain) : plain.type = draft.type := by
  cases recoded with | intro => rfl

theorem terminal_eq (recoded : Recoded draft plain) : plain.terminal = draft.terminal := by
  cases recoded with | intro => rfl

theorem named (recoded : Recoded draft plain) {set : EntitySet}
    (chosen : draft.entitySet = some set) : set.PercentFree := by
  cases recoded with | intro _ _ named => exact named set chosen

theorem segment (recoded : Recoded draft plain) {segment segment' : String}
    (encodes : Text.Encodes segment segment') (type : TypeRef) :
    Recoded (draft.addSegment segment type) (plain.addSegment segment' type) := by
  cases recoded with
  | intro segments before named =>
    exact .intro (segments ++ [segment']) (List.rel_append before (.cons encodes .nil)) named

theorem ended (recoded : Recoded draft plain) (accept : Accept) (terminal : Option String) :
    Recoded { draft with accept, terminal } { plain with accept, terminal } := by
  cases recoded with
  | intro segments encodes named => exact .intro segments encodes named

theorem withAliases (recoded : Recoded draft plain) (aliases : AliasList) :
    Recoded { draft with aliases } { plain with aliases } := by
  cases recoded with
  | intro segments encodes named => exact .intro segments encodes named

end Recoded

theorem encodes_extended {segments segments' : List String} {text text' : String}
    (encodes : List.Forall₂ Text.Encodes segments segments') (more : Text.Encodes text text') :
    List.Forall₂ Text.Encodes
      (match segments.getLast? with
        | some last => segments.dropLast ++ [last ++ text]
        | none => [])
      (match segments'.getLast? with
        | some last => segments'.dropLast ++ [last ++ text']
        | none => []) := by
  induction encodes with
  | nil => exact .nil
  | cons first others ih =>
    cases others with
    | nil => exact .cons (first.append more) .nil
    | cons second others =>
      rw [List.getLast?_cons, List.getLast?_cons] at ih
      rw [List.getLast?_cons_cons, List.getLast?_cons_cons, List.getLast?_cons,
        List.getLast?_cons]
      exact .cons first ih

theorem Recoded.behind (recoded : Recoded draft plain) {text text' : String}
    (encodes : Text.Encodes text text') (type : TypeRef) :
    Recoded (draft.extendSegment text type) (plain.extendSegment text' type) := by
  cases recoded with
  | intro segments before named => exact .intro _ (encodes_extended before encodes) named

theorem addPair_alike (recoded : Recoded draft plain) (key text : String) :
    Alike Recoded (draft.addPair key text) (plain.addPair key text) := by
  cases recoded with
  | intro segments encodes named =>
    rw [addPair, addPair]
    split
    · exact .error _
    · exact .ok (.intro segments encodes named)

theorem addClause_alike (mapping : Mapping) (recoded : Recoded draft plain) (clause : Clause) :
    Alike Recoded (draft.addClause mapping clause) (plain.addClause mapping clause) := by
  rw [addClause, addClause, recoded.aliases_eq]
  apply Alike.step
  intro key _
  apply Alike.step
  intro text _
  exact addPair_alike (recoded.withAliases _) key _

theorem addRoot_alike (recoded : Recoded draft plain) {part : ResourcePart}
    (free : part.PercentFree) : Alike Recoded (draft.addRoot part) (plain.addRoot part) := by
  cases part with
  | container name =>
    cases recoded with
    | intro segments encodes named =>
      rw [addRoot, addRoot]
      split
      · exact .ok (.intro segments encodes named)
      · exact .error _
  | entitySet set =>
    have rooted := recoded.segment (.self (EntitySet.PercentFree.name free)) set.pathType
    cases recoded with
    | intro segments encodes named =>
      cases rooted with
      | intro segments encodes _ =>
        exact .ok (.intro _ encodes fun _ addressed => Option.some.inj addressed ▸ free)
  | key _ | property _ | count | value | cast _ | function _ _ | query _ => exact .error _

theorem addProperty_alike (mapping : Mapping) (names : mapping.schema.PercentFree)
    (recoded : Recoded draft plain) (name : String) :
    Alike Recoded (draft.addProperty mapping type name) (plain.addProperty mapping type name) := by
  rw [addProperty, addProperty]
  split
  · rename_i c resolved
    apply Alike.step
    intro property found
    have free := names.property (Schema.complex_mem resolved) found
    exact .ok (recoded.segment (.self free) property.type)
  · exact .error _

theorem addCount_alike (recoded : Recoded draft plain) :
    Alike Recoded (draft.addCount type) (plain.addCount type) := by
  rw [addCount, addCount]
  split
  · have free : Text.PercentFree "$count" := by decide
    exact .ok ((recoded.segment (.self free) .int64).ended _ _)
  · exact .error _

theorem addValue_alike (mapping : Mapping) (recoded : Recoded draft plain) :
    Alike Recoded (draft.addValue mapping type) (plain.addValue mapping type) := by
  apply Alike.step
  intro leaf _
  cases leaf with
  | true =>
    have free : Text.PercentFree "$value" := by decide
    exact .ok ((recoded.segment (.self free) .string).ended _ _)
  | false => exact .error _

theorem addCast_alike (mapping : Mapping) (names : mapping.schema.PercentFree)
    (recoded : Recoded draft plain) (target : String) :
    Alike Recoded (draft.addCast mapping type target) (plain.addCast mapping type target) := by
  rw [addCast, addCast]
  split
  · exact .error _
  · apply Alike.step
    intro c resolved
    apply Alike.step
    intro derived cast
    rcases Schema.resolveCast_derived cast with ⟨d, member, rfl⟩
    have free : Text.PercentFree d.type.text :=
      names.types d (Schema.derivedTypes_declared member)
    exact .ok (recoded.segment (.self free) _)

theorem keyLiteral_alike (mapping : Mapping) (value : Value) (type : TypeRef) :
    Alike Text.Encodes (keyLiteral (mapping.withEncoding true) value type)
      (keyLiteral (mapping.withEncoding false) value type) := by
  rw [keyLiteral, keyLiteral]
  change Alike Text.Encodes ((mapping.serializer mapping.schema value type).map _)
    ((mapping.serializer mapping.schema value type).map _)
  cases mapping.serializer mapping.schema value type with
  | error e => exact .error e
  | ok text => exact .ok (.component text)

theorem segmentText_alike (mapping : Mapping) (value : Value) (type : TypeRef) :
    Alike Text.Encodes (segmentText (mapping.withEncoding true) value type)
      (segmentText (mapping.withEncoding false) value type) := by
  rw [segmentText.eq_def, segmentText.eq_def]
  split
  · rename_i text
    exact .ok (.component text)
  · exact keyLiteral_alike mapping _ type

theorem encodes_parenthesized {text text' : String} (encodes : Text.Encodes text text') :
    Text.Encodes ("(" ++ text ++ ")") ("(" ++ text' ++ ")") := by
  have opening : Text.PercentFree "(" := by decide
  have closing : Text.PercentFree ")" := by decide
  exact ((Text.Encodes.self opening).append encodes).append (.self closing)

theorem keyPair_alike (mapping : Mapping) (entity : ComplexType) (pairs : List (String × Value))
    {declared : String × Property} (free : Text.PercentFree declared.1) :
    Alike Text.Encodes (keyPair (mapping.withEncoding true) entity pairs declared)
      (keyPair (mapping.withEncoding false) entity pairs declared) := by
  rw [keyPair, keyPair]
  split
  · exact .error _
  · rename_i value _
    apply (keyLiteral_alike mapping value declared.2.type).bind
    intro text text' encodes
    have equals : Text.PercentFree "=" := by decide
    exact .ok ((Text.Encodes.self (free.append equals)).append encodes)

theorem compositeText_alike (mapping : Mapping) (entity : ComplexType)
    {key : List (String × Property)} (free : ∀ entry ∈ key, Text.PercentFree entry.1)
    (pairs : List (String × Value)) :
    Alike Text.Encodes (compositeText (mapping.withEncoding true) entity key pairs)
      (compositeText (mapping.withEncoding false) entity key pairs) := by
  rw [compositeText, compositeText]
  split
  · exact .error _
  · have texts := Alike.mapM (List.forall₂_same.mpr fun entry member =>
      keyPair_alike mapping entity pairs (free entry member))
    apply texts.bind
    intro texts texts' encodes
    have comma : Text.PercentFree "," := by decide
    exact .ok (encodes_parenthesized (Text.Encodes.joined comma encodes))

theorem keyedElement_declared {schema : Schema} {element : TypeRef} {entity : ComplexType}
    (keyed : keyedElement schema type = .ok (element, entity)) : entity ∈ schema.complexTypes := by
  unfold keyedElement at keyed
  split at keyed
  · split at keyed
    · rename_i resolved
      cases keyed
      exact Schema.complex_mem resolved
    · cases keyed
  · cases keyed

/-- The one kind of part whose text depends on the encoding. -/
theorem addKey_alike (names : mapping.schema.PercentFree) (recoded : Recoded draft plain)
    {key : KeySelection} (free : (ResourcePart.key key).PercentFree) :
    Logged.Alike Recoded (draft.addKey (mapping.withEncoding true) type key)
      (plain.addKey (mapping.withEncoding false) type key) := by
  apply Logged.Alike.step
  rintro ⟨element, entity⟩ keyed
  apply Logged.Alike.step
  intro declared listed
  have entry_free : ∀ entry ∈ declared, Text.PercentFree entry.1 :=
    names.keyProperties (keyedElement_declared keyed) listed
  have composite (pairs : List (String × Value)) :=
    Logged.Alike.ofExcept (compositeText_alike mapping entity entry_free pairs)
  cases key with
  | raw text =>
    exact ⟨rfl, .ok (recoded.behind (encodes_parenthesized (.self free)) element)⟩
  | styled style key =>
    cases style with
    | parenthesized =>
      cases key with
      | single value =>
        apply Logged.Alike.step
        intro keyType _
        apply (Logged.Alike.ofExcept (keyLiteral_alike mapping value keyType)).bind
        intro text text' encodes
        exact ⟨rfl, .ok (recoded.behind (encodes_parenthesized encodes) element)⟩
      | composite pairs =>
        apply (composite pairs).bind
        intro text text' encodes
        exact ⟨rfl, .ok (recoded.behind encodes element)⟩
    | segment =>
      cases key with
      | single value =>
        apply Logged.Alike.step
        intro keyType _
        apply (Logged.Alike.ofExcept (segmentText_alike mapping value keyType)).bind
        intro text text' encodes
        exact ⟨rfl, .ok (recoded.segment encodes element)⟩
      | composite pairs =>
        apply Logged.Alike.step
        intro _ _
        apply (composite pairs).bind
        intro text text' encodes
        exact ⟨rfl, .ok (recoded.behind encodes element)⟩

theorem percentFree_create {name : String} (free : Text.PercentFree name) (id : AliasId)
    (payload : AliasPayload) : Text.PercentFree (AliasOf.create id name payload).name := by
  rw [AliasOf.create]
  dsimp only
  split
  · exact free
  · have mark : Text.PercentFree "@" := by decide
    exact mark.append free

theorem addArgument_free {f : BoundFunction} {arguments : List (String × Value)}
    {state state' : AliasList × List String} {p : FunctionParameter}
    (free : Text.PercentFree p.name) (before : ∀ text ∈ state.2, Text.PercentFree text)
    (added : addArgument f arguments state p = .ok state') :
    ∀ text ∈ state'.2, Text.PercentFree text := by
  rw [addArgument] at added
  split at added
  · cases added
  · cases added
    intro text member
    rcases List.mem_append.mp member with member | member
    · exact before text member
    · cases List.mem_singleton.mp member
      have equals : Text.PercentFree "=" := by decide
      exact (free.append equals).append (percentFree_create free _ _)

/-- The arguments of a function travel as aliases; their names stand in the path. -/
theorem addFunction_alike (recoded : Recoded draft plain) (name : String)
    (arguments : List (String × Value)) :
    Alike Recoded (draft.addFunction type name arguments)
      (plain.addFunction type name arguments) := by
  rw [addFunction, addFunction, recoded.entitySet_eq, recoded.aliases_eq]
  split
  · exact .error _
  · rename_i set chosen
    apply Alike.step
    intro f bound
    have free : f.PercentFree := (recoded.named chosen).boundFunction bound
    dsimp only
    split
    · exact .error _
    · apply Alike.step
      rintro ⟨aliases, texts⟩ passed
      have texts_free : ∀ text ∈ texts, Text.PercentFree text :=
        foldlM_invariant (fun state => ∀ text ∈ state.2, Text.PercentFree text)
          (fun _ p _ member before added =>
            addArgument_free (free.parameters p member) before added)
          (fun _ member => absurd member List.not_mem_nil) passed
      have comma : Text.PercentFree "," := by decide
      have joined : Text.Encodes (Text.joined "," texts) (Text.joined "," texts) :=
        .joined comma (List.forall₂_same.mpr fun text member => .self (texts_free text member))
      have segment := (Text.Encodes.self free.fullName).append (encodes_parenthesized joined)
      rw [← String.append_assoc, ← String.append_assoc] at segment
      exact .ok ((recoded.segment segment f.result).withAliases aliases)

theorem addPathPart_alike (names : mapping.schema.PercentFree) (recoded : Recoded draft plain)
    {part : ResourcePart} (free : part.PercentFree) :
    Logged.Alike Recoded (draft.addPathPart (mapping.withEncoding true) type part)
      (plain.addPathPart (mapping.withEncoding false) type part) := by
  cases part with
  | container name => exact ⟨rfl, .error _⟩
  | entitySet set => exact ⟨rfl, .error _⟩
  | key key => exact addKey_alike names recoded free
  | property name =>
    exact .ofExcept (addProperty_alike mapping names recoded name)
  | count => exact .ofExcept (addCount_alike recoded)
  | value => exact .ofExcept (addValue_alike mapping recoded)
  | cast target => exact .ofExcept (addCast_alike mapping names recoded target)
  | function name arguments => exact .ofExcept (addFunction_alike recoded name arguments)
  | query clauses => exact ⟨rfl, .ok recoded⟩

theorem addPart_alike (names : mapping.schema.PercentFree) (recoded : Recoded draft plain)
    {part : ResourcePart} (free : part.PercentFree) :
    Logged.Alike Recoded (addPart (mapping.withEncoding true) draft part)
      (addPart (mapping.withEncoding false) plain part) := by
  unfold addPart
  split
  · rename_i clauses
    apply Logged.Alike.ofExcept
    apply Alike.foldlM recoded
    apply List.forall₂_same.mpr
    intro clause _ draft plain recoded
    exact addClause_alike mapping recoded clause
  · rw [recoded.terminal_eq, recoded.type_eq]
    split
    · exact ⟨rfl, .error _⟩
    · exact .ofExcept (addRoot_alike recoded free)
    · exact addPathPart_alike names recoded free

end Draft

inductive Target.Recoded (target : Target) : Target → Prop
  | intro (path : String) (decoded : Text.decodeComponent? target.address.path = some path) :
      Recoded target { target with address := { target.address with path } }

theorem Draft.finish_alike {mapping : Mapping} {draft plain : Draft}
    (recoded : Draft.Recoded draft plain) (root : String) :
    Alike Target.Recoded (draft.finish (mapping.withEncoding true) root)
      (plain.finish (mapping.withEncoding false) root) := by
  rw [finish, finish, recoded.type_eq, recoded.aliases_eq]
  split
  · exact .error _
  · apply Alike.step
    intro bindings _
    have paired : Alike Draft.Recoded
        (bindings.foldlM (fun draft binding => draft.addPair binding.1 binding.2) draft)
        (bindings.foldlM (fun draft binding => draft.addPair binding.1 binding.2) plain) := by
      apply Alike.foldlM recoded
      apply List.forall₂_same.mpr
      intro binding _ draft plain recoded
      exact addPair_alike recoded binding.1 binding.2
    apply paired.bind
    intro final final' recoded
    cases recoded with
    | intro segments encodes named =>
      have slash : Text.PercentFree "/" := by decide
      exact .ok (.intro _ (Text.Encodes.joined slash encodes).decode)

namespace Mapping

/-- Percent-encoding changes nothing about a request but its path, and decoding that path gives
the one without. -/
theorem map_withEncoding (mapping : Mapping) (names : mapping.schema.PercentFree)
    {resource : ResourceParts} (parts : ∀ part ∈ resource.parts, part.PercentFree)
    (root : String) :
    ((mapping.withEncoding true).map root resource).warnings =
        ((mapping.withEncoding false).map root resource).warnings ∧
      ((∃ e, ((mapping.withEncoding true).map root resource).outcome = .error e ∧
          ((mapping.withEncoding false).map root resource).outcome = .error e) ∨
        ∃ encoded plain, ((mapping.withEncoding true).map root resource).outcome = .ok encoded ∧
          ((mapping.withEncoding false).map root resource).outcome = .ok plain ∧
          encoded.type = plain.type ∧ encoded.accept = plain.accept ∧
          encoded.address.query = plain.address.query ∧
          Text.decodeComponent? encoded.address.path = some plain.address.path) := by
  have drafted : Logged.Alike Draft.Recoded ((mapping.withEncoding true).draft resource)
      ((mapping.withEncoding false).draft resource) := by
    apply Logged.Alike.foldlM (.intro [] .nil nofun)
    intro draft plain recoded part member
    exact Draft.addPart_alike names recoded (parts part member)
  have mapped : Logged.Alike Target.Recoded ((mapping.withEncoding true).map root resource)
      ((mapping.withEncoding false).map root resource) := by
    apply drafted.bind
    intro draft plain recoded
    exact .ofExcept (Draft.finish_alike recoded root)
  refine ⟨mapped.warnings, ?_⟩
  rcases mapped.outcome.fail_or_succeed with failed | ⟨encoded, plain, reached, reached', recoded⟩
  · exact .inl failed
  · cases recoded with
    | intro path decoded =>
      exact .inr ⟨encoded, _, reached, reached', rfl, rfl, rfl, decoded⟩

end Mapping

namespace Archive

def box : TypeRef := .named "Archive" "Box"

def schema : Schema where
  types := [
    .complex {
      scope := "Archive"
      name := "Box"
      key := some ["Label"]
      properties := .ofList [("Label", ⟨.string, false, false⟩)] }]
  ordered := by decide

def boxes : EntitySet := .ofType "Main" "Boxes" box

def labelled : ResourceParts :=
  ⟨[.entitySet boxes, .key (.styled .segment (.single (.string "50%/é"))), .property "Label"]⟩

def target (path : String) : Target where
  accept := .json
  type := .string
  address := {
    root := "http://svc"
    container := some "Main"
    entitySet := some "Boxes"
    path := path
    query := [] }

theorem map_encoded :
    ((Mapping.withEncoding { schema := schema } true).map "http://svc" labelled).outcome =
      .ok (target "Boxes/50%25%2F%C3%A9/Label") := by
  with_unfolding_all rfl

theorem map_plain :
    ((Mapping.withEncoding { schema := schema } false).map "http://svc" labelled).outcome =
      .ok (target "Boxes/50%/é/Label") := by
  with_unfolding_all rfl

theorem schema_percentFree : schema.PercentFree where
  types := by decide
  properties := by decide

theorem labelled_percentFree : ∀ part ∈ labelled.parts, part.PercentFree := by
  intro part member
  rcases List.mem_cons.mp member with rfl | member
  · exact ⟨by decide, nofun⟩
  · rcases List.mem_cons.mp member with rfl | member
    · trivial
    · rcases List.mem_singleton.mp member with rfl
      trivial

end Archive

/-- The slash in a label is told from those between the segments only if it is encoded. -/
theorem Mapping.map_withEncoding_labelled :
    Archive.schema.PercentFree ∧ (∀ part ∈ Archive.labelled.parts, part.PercentFree) ∧
      ((withEncoding { schema := Archive.schema } true).map "http://svc"
        Archive.labelled).outcome = .ok (Archive.target "Boxes/50%25%2F%C3%A9/Label") ∧
      ((withEncoding { schema := Archive.schema } false).map "http://svc"
        Archive.labelled).outcome = .ok (Archive.target "Boxes/50%/é/Label") ∧
      Text.decodeComponent? "Boxes/50%25%2F%C3%A9/Label" = some "Boxes/50%/é/Label" := by
  refine ⟨Archive.schema_percentFree, Archive.labelled_percentFree, Archive.map_encoded,
    Archive.map_plain, ?_⟩
  have mapped := map_withEncoding { schema := Archive.schema } Archive.schema_percentFree
    Archive.labelled_percentFree "http://svc"
  rcases mapped.2 with ⟨e, failed, _⟩ | ⟨encoded, plain, reached, reached', _, _, _, decoded⟩
  · rw [Archive.map_encoded] at failed
    cases failed
  · rw [Archive.map_encoded] at reached
    rw [Archive.map_plain] at reached'
    cases reached
    cases reached'
    exact decoded

end ODataRequest
