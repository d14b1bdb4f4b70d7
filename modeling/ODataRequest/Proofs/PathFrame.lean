import ODataRequest.Resource.Mapping
import ODataRequest.Proofs.Outcomes
namespace ODataRequest.Draft

/-!
What a part does to a draft. Only a query adds to the query, and only a query or a function adds
aliases; behind the root every other part lets the path go on.
-/

structure Framed (draft draft' : Draft) : Prop where
  aliases : draft'.aliases = draft.aliases
  query : draft'.query = draft.query

variable {mapping : Mapping} {draft draft' : Draft} {type : TypeRef}

/-- The path goes on, by a segment or by text behind the last one, under a type of its own. -/
inductive Continues (draft : Draft) : Draft → Prop
  | segment (segment : String) (type : TypeRef) (accept : Accept) (terminal : Option String) :
      Continues draft { draft.addSegment segment type with accept, terminal }
  | behind (text : String) (type : TypeRef) : Continues draft (draft.extendSegment text type)

theorem framed_of_continues (continues : Continues draft draft') : Framed draft draft' := by
  cases continues with
  | segment => exact ⟨rfl, rfl⟩
  | behind => exact ⟨rfl, rfl⟩

theorem framed_addRoot {part : ResourcePart} (added : draft.addRoot part = .ok draft') :
    Framed draft draft' := by
  unfold addRoot at added
  split at added
  · split at added
    · cases added
      exact ⟨rfl, rfl⟩
    · cases added
  · cases added
    exact ⟨rfl, rfl⟩
  · cases added

def ofSet (set : EntitySet) : Draft where
  container := some set.container
  entitySet := some set
  type := some set.pathType
  segments := [set.name]

theorem draft_ofSet (mapping : Mapping) (set : EntitySet) :
    mapping.draft ⟨[.entitySet set]⟩ = pure (ofSet set) := rfl

/-- What a part makes of a path that has begun. Only `$count` and `$value` end it. -/
inductive Adds (draft : Draft) : ResourcePart → Draft → Prop
  | behind {key : KeySelection} (text : String) (type : TypeRef) :
      text ≠ "" → Adds draft (.key key) (draft.extendSegment text type)
  | apart {key : KeySelection} (text : String) (type : TypeRef) :
      Adds draft (.key key) (draft.addSegment text type)
  | property (name : String) (type : TypeRef) :
      Adds draft (.property name) (draft.addSegment name type)
  | cast {target : String} (segment : String) (type : TypeRef) :
      Adds draft (.cast target) (draft.addSegment segment type)
  | function {name : String} {arguments : List (String × Value)} (segment : String)
      (type : TypeRef) (aliases : AliasList) :
      Adds draft (.function name arguments) { draft.addSegment segment type with aliases }
  | count :
      Adds draft .count
        { draft.addSegment "$count" .int64 with accept := .integer, terminal := some "$count" }
  | value :
      Adds draft .value
        { draft.addSegment "$value" .string with accept := .raw, terminal := some "$value" }

theorem adds_addProperty {name : String}
    (added : draft.addProperty mapping type name = .ok draft') :
    Adds draft (.property name) draft' := by
  unfold addProperty at added
  split at added
  · rcases bind_eq_ok.mp added with ⟨property, _, same⟩
    cases same
    exact .property ..
  · cases added

theorem adds_addCount (added : draft.addCount type = .ok draft') : Adds draft .count draft' := by
  unfold addCount at added
  split at added
  · cases added
    exact .count
  · cases added

theorem adds_addValue (added : draft.addValue mapping type = .ok draft') :
    Adds draft .value draft' := by
  unfold addValue at added
  rcases bind_eq_ok.mp added with ⟨leaf, _, added⟩
  split at added
  · cases added
    exact .value
  · cases added

theorem adds_addCast {target : String}
    (added : draft.addCast mapping type target = .ok draft') :
    Adds draft (.cast target) draft' := by
  unfold addCast at added
  split at added
  · cases added
  · rcases bind_eq_ok.mp added with ⟨c, _, added⟩
    rcases bind_eq_ok.mp added with ⟨derived, _, same⟩
    cases same
    exact .cast ..

theorem parenthesized_ne_empty (text : String) : "(" ++ text ++ ")" ≠ "" := by
  intro empty
  have characters := congrArg String.toList empty
  simp at characters

theorem compositeText_ne_empty {entity : ComplexType} {key : List (String × Property)}
    {pairs : List (String × Value)} {text : String}
    (written : compositeText mapping entity key pairs = .ok text) : text ≠ "" := by
  unfold compositeText at written
  split at written
  · cases written
  · rcases bind_eq_ok.mp written with ⟨texts, _, same⟩
    cases same
    exact parenthesized_ne_empty _

theorem adds_addKey {key : KeySelection}
    (added : (draft.addKey mapping type key).outcome = .ok draft') :
    Adds draft (.key key) draft' := by
  unfold addKey at added
  rcases Logged.outcome_bind_eq_ok.mp added with ⟨⟨element, entity⟩, _, added⟩
  rcases Logged.outcome_bind_eq_ok.mp added with ⟨declared, _, added⟩
  split at added
  · cases added
    exact .behind _ _ (parenthesized_ne_empty _)
  · rcases Logged.outcome_bind_eq_ok.mp added with ⟨keyType, _, added⟩
    rcases Logged.outcome_bind_eq_ok.mp added with ⟨text, _, same⟩
    cases same
    exact .behind _ _ (parenthesized_ne_empty _)
  · rcases Logged.outcome_bind_eq_ok.mp added with ⟨keyType, _, added⟩
    rcases Logged.outcome_bind_eq_ok.mp added with ⟨text, _, same⟩
    cases same
    exact .apart ..
  · rcases Logged.outcome_bind_eq_ok.mp added with ⟨text, written, same⟩
    cases same
    exact .behind _ _ (compositeText_ne_empty written)
  · rcases Logged.outcome_bind_eq_ok.mp added with ⟨_, _, added⟩
    rcases Logged.outcome_bind_eq_ok.mp added with ⟨text, written, same⟩
    cases same
    exact .behind _ _ (compositeText_ne_empty written)

def Plain : ResourcePart → Prop
  | .query _ | .function _ _ => False
  | _ => True

theorem adds_addPathPart {part : ResourcePart} (plain : Plain part)
    (added : (draft.addPathPart mapping type part).outcome = .ok draft') :
    Adds draft part draft' := by
  cases part with
  | container name => cases added
  | entitySet set => cases added
  | key key => exact adds_addKey added
  | property name => exact adds_addProperty added
  | count => exact adds_addCount added
  | value => exact adds_addValue added
  | cast target => exact adds_addCast added
  | function name arguments => exact absurd plain id
  | query clauses => exact absurd plain id

theorem continues_of_adds {part : ResourcePart} (plain : Plain part)
    (adds : Adds draft part draft') : Continues draft draft' := by
  cases adds with
  | behind text type filled => exact .behind ..
  | function segment type aliases => exact absurd plain id
  | apart | property | cast | count | value => exact .segment ..

theorem addPart_cases {part : ResourcePart} (path : part.isQuery = false)
    (added : (addPart mapping draft part).outcome = .ok draft') :
    draft.terminal = none ∧ (draft.type = none ∧ draft.addRoot part = .ok draft' ∨
      ∃ type, draft.type = some type ∧
        (draft.addPathPart mapping type part).outcome = .ok draft') := by
  unfold addPart at added
  split at added
  · cases path
  · split at added
    · cases added
    · rename_i opened untyped
      exact ⟨opened, .inl ⟨untyped, added⟩⟩
    · rename_i type opened typed
      exact ⟨opened, .inr ⟨type, typed, added⟩⟩

theorem isQuery_of_plain {part : ResourcePart} (plain : Plain part) : part.isQuery = false := by
  cases part with
  | query clauses => exact absurd plain id
  | _ => rfl

theorem addRoot_of_addPart {part : ResourcePart} (untyped : draft.type = none)
    (plain : Plain part) (added : (addPart mapping draft part).outcome = .ok draft') :
    draft.addRoot part = .ok draft' := by
  rcases (addPart_cases (isQuery_of_plain plain) added).2 with ⟨_, root⟩ | ⟨type, typed, _⟩
  · exact root
  · cases untyped.symm.trans typed

theorem adds_addPart {part : ResourcePart} (typed : draft.type = some type)
    (plain : Plain part) (added : (addPart mapping draft part).outcome = .ok draft') :
    Adds draft part draft' := by
  rcases (addPart_cases (isQuery_of_plain plain) added).2 with ⟨untyped, _⟩ | ⟨type', _, path⟩
  · cases typed.symm.trans untyped
  · exact adds_addPathPart plain path

theorem continues_addPart {part : ResourcePart} (typed : draft.type = some type)
    (plain : Plain part) (added : (addPart mapping draft part).outcome = .ok draft') :
    Continues draft draft' := continues_of_adds plain (adds_addPart typed plain added)

theorem framed_addPart {part : ResourcePart} (plain : Plain part)
    (added : (addPart mapping draft part).outcome = .ok draft') : Framed draft draft' := by
  cases typed : draft.type with
  | none => exact framed_addRoot (addRoot_of_addPart typed plain added)
  | some type => exact framed_of_continues (continues_addPart typed plain added)

theorem addFunction_of_addPart {name : String} {arguments : List (String × Value)}
    (added : (addPart mapping draft (.function name arguments)).outcome = .ok draft') :
    ∃ type, draft.type = some type ∧ draft.addFunction type name arguments = .ok draft' := by
  rcases (addPart_cases rfl added).2 with ⟨_, root⟩ | ⟨type, typed, path⟩
  · cases root
  · exact ⟨type, typed, path⟩

end ODataRequest.Draft
