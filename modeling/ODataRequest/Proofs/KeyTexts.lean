import ODataRequest.Proofs.PathStates
namespace ODataRequest

/-!
What a key does to a path. It leads from a collection to its element and writes a text, which
follows from the entity type and not from the path; nothing else about the address changes.
-/

inductive KeyText
  | behind (text : String)
  | apart (text : String)

def KeyText.added (path : String) : KeyText → String
  | behind text => path ++ text
  | apart text => path ++ "/" ++ text

structure Schema.Keyed (schema : Schema) (type element : TypeRef) (entity : ComplexType)
    (declared : List (String × Property)) : Prop where
  selects : Draft.keyedElement schema type = .ok (element, entity)
  listed : schema.keyProperties entity = .ok declared

def Target.keyed (target : Target) (element : TypeRef) (text : KeyText) : Target :=
  { target with
    type := element
    address := { target.address with path := text.added target.address.path } }

namespace Logged

variable {ε α β γ : Type}

theorem outcome_bind (x : Logged ε α) (f : α → Logged ε β) :
    (x >>= f).outcome = x.outcome >>= fun a => (f a).outcome := by
  obtain ⟨warnings, outcome⟩ := x
  cases outcome <;> rfl

theorem outcome_map_bind {x : Except ε α} (f : α → β) (g : β → γ) :
    (ofExcept x >>= fun a => pure (g (f a))).outcome = x.map f >>= fun b => pure (g b) := by
  cases x <;> rfl

end Logged

namespace Draft

def keyed (draft : Draft) (element : TypeRef) : KeyText → Draft
  | .behind text => draft.extendSegment text element
  | .apart text => draft.addSegment text element

def keyText (mapping : Mapping) (entity : ComplexType) (declared : List (String × Property)) :
    KeySelection → Except Error KeyText
  | .raw text => .ok (.behind ("(" ++ text ++ ")"))
  | .styled .parenthesized (.single value) => do
    let type ← singleKeyType entity declared value
    (keyLiteral mapping value type).map fun text => .behind ("(" ++ text ++ ")")
  | .styled .segment (.single value) => do
    let type ← singleKeyType entity declared value
    (segmentText mapping value type).map .apart
  | .styled _ (.composite pairs) => (compositeText mapping entity declared pairs).map .behind

variable {mapping : Mapping} {draft draft' : Draft} {type : TypeRef} {key : KeySelection}
  {root : String}

section Single

variable {entity : ComplexType} {declared : List (String × Property)} {value : Value}
  {text : KeyText}

theorem singleKeyType_eq_ok : singleKeyType entity declared value = .ok type ↔
    ∃ name property, declared = [(name, property)] ∧ property.type = type := by
  unfold singleKeyType
  split
  · simp
  · rename_i name property
    constructor
    · intro same
      cases same
      exact ⟨name, property, rfl, rfl⟩
    · rintro ⟨_, _, same, rfl⟩
      cases same
      rfl
  · simp

theorem keyText_parenthesized :
    keyText mapping entity declared (.styled .parenthesized (.single value)) = .ok text ↔
      ∃ name property literal, declared = [(name, property)] ∧
        mapping.serializer mapping.schema value property.type = .ok literal ∧
        text = .behind ("(" ++ encoded mapping literal ++ ")") := by
  rw [keyText, bind_eq_ok]
  simp only [singleKeyType_eq_ok, map_eq_ok, keyLiteral]
  constructor
  · rintro ⟨_, ⟨name, property, single, rfl⟩, _, ⟨literal, serialized, rfl⟩, rfl⟩
    exact ⟨name, property, literal, single, serialized, rfl⟩
  · rintro ⟨name, property, literal, single, serialized, rfl⟩
    exact ⟨_, ⟨name, property, single, rfl⟩, _, ⟨literal, serialized, rfl⟩, rfl⟩

theorem keyText_segment :
    keyText mapping entity declared (.styled .segment (.single value)) = .ok text ↔
      ∃ name property segment, declared = [(name, property)] ∧
        segmentText mapping value property.type = .ok segment ∧ text = .apart segment := by
  rw [keyText, bind_eq_ok]
  simp only [singleKeyType_eq_ok, map_eq_ok]
  constructor
  · rintro ⟨_, ⟨name, property, single, rfl⟩, segment, written, rfl⟩
    exact ⟨name, property, segment, single, written, rfl⟩
  · rintro ⟨name, property, segment, single, written, rfl⟩
    exact ⟨_, ⟨name, property, single, rfl⟩, segment, written, rfl⟩

end Single

theorem outcome_warnUnless (ignored : Bool) (warning : Warning) :
    (warnUnless ignored warning).outcome = .ok () := by
  cases ignored <;> rfl

/-- The text follows from the entity type; the draft is only written to. -/
theorem outcome_addKey : (draft.addKey mapping type key).outcome = (do
    let (element, entity) ← keyedElement mapping.schema type
    let declared ← mapping.schema.keyProperties entity
    let text ← keyText mapping entity declared key
    pure (draft.keyed element text)) := by
  rw [addKey, Logged.outcome_bind]
  apply bind_congr
  rintro ⟨element, entity⟩
  rw [Logged.outcome_bind]
  apply bind_congr
  intro declared
  cases key with
  | raw text => rfl
  | styled style key =>
    cases style with
    | parenthesized =>
      cases key with
      | single value =>
        rw [Logged.outcome_bind, keyText, bind_assoc]
        apply bind_congr
        intro keyType
        exact Logged.outcome_map_bind (fun text => KeyText.behind ("(" ++ text ++ ")"))
          (draft.keyed element)
      | composite pairs => exact Logged.outcome_map_bind .behind (draft.keyed element)
    | segment =>
      cases key with
      | single value =>
        rw [Logged.outcome_bind, keyText, bind_assoc]
        apply bind_congr
        intro keyType
        exact Logged.outcome_map_bind .apart (draft.keyed element)
      | composite pairs =>
        rw [Logged.outcome_bind, outcome_warnUnless]
        exact Logged.outcome_map_bind .behind (draft.keyed element)

theorem addKey_eq_ok : (draft.addKey mapping type key).outcome = .ok draft' ↔
    ∃ element entity declared text, mapping.schema.Keyed type element entity declared ∧
      keyText mapping entity declared key = .ok text ∧ draft' = draft.keyed element text := by
  rw [outcome_addKey]
  constructor
  · intro added
    rcases bind_eq_ok.mp added with ⟨⟨element, entity⟩, selects, added⟩
    rcases bind_eq_ok.mp added with ⟨declared, listed, added⟩
    rcases bind_eq_ok.mp added with ⟨text, written, same⟩
    cases same
    exact ⟨element, entity, declared, text, ⟨selects, listed⟩, written, rfl⟩
  · rintro ⟨element, entity, declared, text, ⟨selects, listed⟩, written, rfl⟩
    refine bind_eq_ok.mpr ⟨(element, entity), selects, ?_⟩
    exact bind_eq_ok.mpr ⟨declared, listed, bind_eq_ok.mpr ⟨text, written, rfl⟩⟩

theorem addPart_key_eq_ok : (addPart mapping draft (.key key)).outcome = .ok draft' ↔
    draft.terminal = none ∧ ∃ type element entity declared text, draft.type = some type ∧
      mapping.schema.Keyed type element entity declared ∧
      keyText mapping entity declared key = .ok text ∧ draft' = draft.keyed element text := by
  constructor
  · intro added
    have opened : draft.terminal = none := (addPart_cases rfl added).1
    refine ⟨opened, ?_⟩
    cases typed : draft.type with
    | none =>
      have root : draft.addRoot (.key key) = .ok draft' := addRoot_of_addPart typed trivial added
      cases root
    | some type =>
      simp only [addPart, opened, typed, addPathPart] at added
      rcases addKey_eq_ok.mp added with ⟨element, entity, declared, text, keyed⟩
      exact ⟨type, element, entity, declared, text, rfl, keyed⟩
  · rintro ⟨opened, type, element, entity, declared, text, typed, keyed⟩
    simp only [addPart, opened, typed, addPathPart]
    exact addKey_eq_ok.mpr ⟨element, entity, declared, text, keyed⟩

def moved (draft : Draft) (type : TypeRef) (segments : List String) : Draft :=
  { draft with type := some type, segments }

theorem addPair_moved (draft : Draft) (type : TypeRef) (segments : List String)
    (pair : String × String) : (draft.moved type segments).addPair pair.1 pair.2 =
      (draft.addPair pair.1 pair.2).map fun next => next.moved type segments := by
  unfold addPair moved
  split <;> rfl

theorem addPairs_moved (draft : Draft) (type : TypeRef) (segments : List String)
    (pairs : List (String × String)) :
    pairs.foldlM (fun draft pair => addPair draft pair.1 pair.2) (draft.moved type segments) =
      (pairs.foldlM (fun draft pair => addPair draft pair.1 pair.2) draft).map
        fun final => final.moved type segments := by
  induction pairs generalizing draft with
  | nil => rfl
  | cons head rest ih =>
    rw [List.foldlM_cons, List.foldlM_cons, addPair_moved]
    cases draft.addPair head.1 head.2 with
    | error e => rfl
    | ok next => exact ih next

/-- The end of an address does not look at the path. -/
theorem finish_moved (mapping : Mapping) (root : String) (typed : draft.type.isSome)
    (type : TypeRef) (segments : List String) :
    (draft.moved type segments).finish mapping root =
      (draft.finish mapping root).map fun target =>
        { target with type, address.path := Text.joined "/" segments } := by
  rcases Option.isSome_iff_exists.mp typed with ⟨earlier, typed⟩
  unfold finish
  rw [typed]
  dsimp only [moved]
  cases mapping.renderer.bindAliases draft.aliases with
  | error e => rfl
  | ok bindings =>
    have added := addPairs_moved draft type segments bindings
    dsimp only [moved, Bind.bind, Except.bind] at added ⊢
    rw [added]
    cases bindings.foldlM (fun draft pair => addPair draft pair.1 pair.2) draft <;> rfl

theorem place_of_finish {target : Target} (finished : draft.finish mapping root = .ok target) :
    draft.type = some target.type ∧ target.address.path = draft.path := by
  cases typed : draft.type with
  | none =>
    simp [finish, typed] at finished
  | some type =>
    have still : draft.moved type draft.segments = draft := by
      rw [moved, ← typed]
    have known : draft.type.isSome := Option.isSome_iff_exists.mpr ⟨type, typed⟩
    have same := finish_moved mapping root known type draft.segments
    rw [still, finished] at same
    have target_eq := Except.ok.inj same
    exact ⟨congrArg (some ·.type) target_eq.symm, congrArg (·.address.path) target_eq⟩

theorem keyed_eq_moved (draft : Draft) (element : TypeRef) (text : KeyText) :
    draft.keyed element text = draft.moved element (draft.keyed element text).segments := by
  cases text <;> rfl

theorem path_keyed (begun : draft.segments ≠ []) (element : TypeRef) (text : KeyText) :
    (draft.keyed element text).path = text.added draft.path := by
  cases text with
  | behind text => exact path_extendSegment begun text element
  | apart text => exact (path_addSegment begun text element).trans String.append_assoc.symm

theorem finish_keyed {target : Target} (begun : draft.segments ≠ [])
    (finished : draft.finish mapping root = .ok target) (element : TypeRef) (text : KeyText) :
    (draft.keyed element text).finish mapping root = .ok (target.keyed element text) := by
  rcases place_of_finish finished with ⟨typed, path⟩
  have known : draft.type.isSome := Option.isSome_iff_exists.mpr ⟨target.type, typed⟩
  rw [keyed_eq_moved, finish_moved mapping root known, finished, Target.keyed, path,
    ← path_keyed begun element]
  rfl

/-- What has ended the path is no collection. -/
theorem Consistent.open_of_collection {parts : List ResourcePart}
    (consistent : Consistent parts draft) (typed : draft.type = some type)
    (collection : type.isCollection = true) : draft.terminal = none := by
  have ended := consistent.ended
  unfold EndedBy at ended
  split at ended
  · cases typed.symm.trans ended.2.2
    cases collection
  · cases typed.symm.trans ended.2.2
    cases collection
  · exact ended.1

/-- So a key cannot follow it. -/
theorem Consistent.open_of_keyed {parts : List ResourcePart} {element : TypeRef}
    {entity : ComplexType} {declared : List (String × Property)}
    (consistent : Consistent parts draft) (typed : draft.type = some type)
    (keyed : mapping.schema.Keyed type element entity declared) : draft.terminal = none := by
  apply consistent.open_of_collection typed
  have selects := keyed.selects
  cases type with
  | named scope name => cases selects
  | collection element => rfl

end Draft

namespace Mapping

def withKey (mapping : Mapping) (root : String) (before : List ResourcePart) (key : KeySelection)
    (after : List ResourcePart) : Except Error Target :=
  (mapping.map root ⟨before ++ .key key :: after⟩).outcome

variable {mapping : Mapping} {root : String} {before after : List ResourcePart}
  {target target' : Target} {key : KeySelection}

theorem map_eq_ok_at {part : ResourcePart} :
    (mapping.map root ⟨before ++ part :: after⟩).outcome = .ok target ↔
      ∃ draft draft' final, (mapping.draft ⟨before⟩).outcome = .ok draft ∧
        (Draft.addPart mapping draft part).outcome = .ok draft' ∧
        (after.foldlM (Draft.addPart mapping) draft').outcome = .ok final ∧
        final.finish mapping root = .ok target := by
  rw [map, Logged.outcome_bind_eq_ok, draft, List.foldlM_append]
  constructor
  · rintro ⟨final, drafted, finished⟩
    rcases Logged.outcome_bind_eq_ok.mp drafted with ⟨draft, reached, drafted⟩
    rw [List.foldlM_cons] at drafted
    rcases Logged.outcome_bind_eq_ok.mp drafted with ⟨draft', added, rest⟩
    exact ⟨draft, draft', final, reached, added, rest, finished⟩
  · rintro ⟨draft, draft', final, reached, added, rest, finished⟩
    refine ⟨final, Logged.outcome_bind_eq_ok.mpr ⟨draft, reached, ?_⟩, finished⟩
    rw [List.foldlM_cons]
    exact Logged.outcome_bind_eq_ok.mpr ⟨draft', added, rest⟩

theorem withKey_congr {key' : KeySelection}
    (same : ∀ draft draft', (Draft.addPart mapping draft (.key key)).outcome = .ok draft' ↔
      (Draft.addPart mapping draft (.key key')).outcome = .ok draft') :
    mapping.withKey root before key after = .ok target ↔
      mapping.withKey root before key' after = .ok target := by
  simp only [withKey, map_eq_ok_at, same]

/-- A key that follows an address is accepted if there are entities to select from and it has a
text there. -/
theorem withKey_eq_ok (accepted : (mapping.map root ⟨before⟩).outcome = .ok target) :
    mapping.withKey root before key [] = .ok target' ↔
      ∃ element entity declared text, mapping.schema.Keyed target.type element entity declared ∧
        Draft.keyText mapping entity declared key = .ok text ∧
        target' = target.keyed element text := by
  rcases Logged.outcome_bind_eq_ok.mp accepted with ⟨draft, reached, finished⟩
  have typed : draft.type = some target.type := (Draft.place_of_finish finished).1
  have known : draft.type.isSome := Option.isSome_iff_exists.mpr ⟨target.type, typed⟩
  have consistent : draft.Consistent before := Draft.consistent_draft reached
  have ends : ∀ element text, (draft.keyed element text).finish mapping root =
      .ok (target.keyed element text) := Draft.finish_keyed (consistent.begun known) finished
  constructor
  · intro accepted
    rcases map_eq_ok_at.mp accepted with ⟨_, draft', _, same, added, rest, finished'⟩
    cases reached.symm.trans same
    cases rest
    rcases Draft.addPart_key_eq_ok.mp added with
      ⟨_, _, element, entity, declared, text, same, keyed, written, rfl⟩
    cases typed.symm.trans same
    cases (ends element text).symm.trans finished'
    exact ⟨element, entity, declared, text, keyed, written, rfl⟩
  · rintro ⟨element, entity, declared, text, keyed, written, rfl⟩
    have opened : draft.terminal = none := consistent.open_of_keyed typed keyed
    have added := Draft.addPart_key_eq_ok.mpr
      ⟨opened, target.type, element, entity, declared, text, typed, keyed, written, rfl⟩
    exact map_eq_ok_at.mpr ⟨draft, _, _, reached, added, rfl, ends element text⟩

end Mapping
end ODataRequest
