import ODataRequest.Proofs.Alike
import ODataRequest.Proofs.KeyTexts
namespace ODataRequest

/-!
The two styles of a single key. What comes behind the key does not look at the path, so they can
only differ where the key itself is checked; and there they do, for a text that the key property
has no literal for.
-/

def Target.elsewhere (target : Target) (path : String) : Target :=
  { target with address.path := path }

namespace Draft

variable {mapping : Mapping} {draft draft' : Draft} {type : TypeRef}

/-- The second draft is the first one with other segments. -/
inductive Reworded (draft : Draft) : Draft → Prop
  | intro (segments : List String) : Reworded draft { draft with segments }

theorem addPair_reworded (reworded : Reworded draft draft') (key text : String) :
    Alike Reworded (draft.addPair key text) (draft'.addPair key text) := by
  cases reworded with
  | intro segments =>
    rw [addPair, addPair]
    split
    · exact .error _
    · exact .ok (.intro segments)

theorem addClause_reworded (reworded : Reworded draft draft') (clause : Clause) :
    Alike Reworded (addClause mapping draft clause) (addClause mapping draft' clause) := by
  cases reworded with
  | intro segments =>
    apply Alike.step
    intro key _
    apply Alike.step
    intro text _
    exact addPair_reworded (.intro segments) key _

theorem addRoot_reworded (reworded : Reworded draft draft') (part : ResourcePart) :
    Alike Reworded (draft.addRoot part) (draft'.addRoot part) := by
  cases reworded with
  | intro segments =>
    unfold addRoot
    split
    · split
      · exact .ok (.intro segments)
      · exact .error _
    · exact .ok (.intro _)
    · exact .error _

theorem addProperty_reworded (reworded : Reworded draft draft') (name : String) :
    Alike Reworded (draft.addProperty mapping type name)
      (draft'.addProperty mapping type name) := by
  cases reworded with
  | intro segments =>
    unfold addProperty
    split
    · apply Alike.step
      intro property _
      exact .ok (.intro _)
    · exact .error _

theorem addCount_reworded (reworded : Reworded draft draft') :
    Alike Reworded (draft.addCount type) (draft'.addCount type) := by
  cases reworded with
  | intro segments =>
    unfold addCount
    split
    · exact .ok (.intro _)
    · exact .error _

theorem addValue_reworded (reworded : Reworded draft draft') :
    Alike Reworded (draft.addValue mapping type) (draft'.addValue mapping type) := by
  cases reworded with
  | intro segments =>
    apply Alike.step
    intro leaf _
    split
    · exact .ok (.intro _)
    · exact .error _

theorem addCast_reworded (reworded : Reworded draft draft') (target : String) :
    Alike Reworded (draft.addCast mapping type target) (draft'.addCast mapping type target) := by
  cases reworded with
  | intro segments =>
    unfold addCast
    split
    · exact .error _
    · apply Alike.step
      intro c _
      apply Alike.step
      intro derived _
      exact .ok (.intro _)

theorem keyed_reworded (reworded : Reworded draft draft') (element : TypeRef) (text : KeyText) :
    Reworded (draft.keyed element text) (draft'.keyed element text) := by
  cases reworded with
  | intro segments => cases text <;> exact .intro _

theorem addKey_reworded (reworded : Reworded draft draft') (key : KeySelection) :
    Alike Reworded (draft.addKey mapping type key).outcome
      (draft'.addKey mapping type key).outcome := by
  rw [outcome_addKey, outcome_addKey]
  apply Alike.step
  rintro ⟨element, entity⟩ _
  apply Alike.step
  intro declared _
  apply Alike.step
  intro text _
  exact .ok (keyed_reworded reworded element text)

theorem addFunction_reworded (reworded : Reworded draft draft') (name : String)
    (arguments : List (String × Value)) :
    Alike Reworded (draft.addFunction type name arguments)
      (draft'.addFunction type name arguments) := by
  cases reworded with
  | intro segments =>
    unfold addFunction
    dsimp only
    split
    · exact .error _
    · apply Alike.step
      intro f _
      split
      · exact .error _
      · apply Alike.step
        rintro ⟨aliases, texts⟩ _
        exact .ok (.intro _)

theorem addPathPart_reworded (reworded : Reworded draft draft') (part : ResourcePart) :
    Alike Reworded (draft.addPathPart mapping type part).outcome
      (draft'.addPathPart mapping type part).outcome := by
  cases part with
  | container _ | entitySet _ => exact .error _
  | key key => exact addKey_reworded reworded key
  | property name => exact addProperty_reworded reworded name
  | count => exact addCount_reworded reworded
  | value => exact addValue_reworded reworded
  | cast target => exact addCast_reworded reworded target
  | function name arguments => exact addFunction_reworded reworded name arguments
  | query _ => exact .ok reworded

theorem addPart_reworded (reworded : Reworded draft draft') (part : ResourcePart) :
    Alike Reworded (addPart mapping draft part).outcome (addPart mapping draft' part).outcome := by
  have kept : draft'.terminal = draft.terminal ∧ draft'.type = draft.type := by
    cases reworded with | intro => exact ⟨rfl, rfl⟩
  unfold addPart
  split
  · rename_i clauses
    apply Alike.foldlM reworded
    apply List.forall₂_same.mpr
    intro clause _ draft draft' reworded
    exact addClause_reworded reworded clause
  · rw [kept.1, kept.2]
    split
    · exact .error _
    · exact addRoot_reworded reworded part
    · exact addPathPart_reworded reworded part

theorem addParts_reworded (mapping : Mapping) (reworded : Reworded draft draft')
    (parts : List ResourcePart) :
    Alike Reworded (parts.foldlM (addPart mapping) draft).outcome
      (parts.foldlM (addPart mapping) draft').outcome := by
  induction parts generalizing draft draft' with
  | nil => exact .ok reworded
  | cons head rest ih =>
    rw [List.foldlM_cons, List.foldlM_cons, Logged.outcome_bind, Logged.outcome_bind]
    apply (addPart_reworded reworded head).bind
    exact fun draft draft' reworded => ih reworded

theorem finish_reworded (mapping : Mapping) (reworded : Reworded draft draft') (root : String) :
    Alike (fun target target' => ∃ path, target' = target.elsewhere path)
      (draft.finish mapping root) (draft'.finish mapping root) := by
  have pairs : ∀ bindings : List (String × String), Alike Reworded
      (bindings.foldlM (fun draft binding => addPair draft binding.1 binding.2) draft)
      (bindings.foldlM (fun draft binding => addPair draft binding.1 binding.2) draft') := by
    intro bindings
    apply Alike.foldlM reworded
    apply List.forall₂_same.mpr
    intro binding _ draft draft' reworded
    exact addPair_reworded reworded binding.1 binding.2
  cases reworded with
  | intro segments =>
    unfold finish
    dsimp only
    split
    · exact .error _
    · apply Alike.step
      intro bindings _
      apply (pairs bindings).bind
      rintro final _ ⟨segments⟩
      exact .ok ⟨Text.joined "/" segments, rfl⟩

theorem keyed_moved (draft : Draft) (element : TypeRef) (text text' : KeyText) :
    Reworded (draft.keyed element text) (draft.keyed element text') := by
  cases text <;> cases text' <;> exact .intro _

section Single

variable {value : Value}

theorem segmentText_of_literal {literal : String}
    (serialized : mapping.serializer mapping.schema value type = .ok literal) :
    ∃ segment, segmentText mapping value type = .ok segment := by
  cases value with
  | string text => exact ⟨_, rfl⟩
  | _ => exact ⟨_, map_eq_ok.mpr ⟨literal, serialized, rfl⟩⟩

theorem literal_of_segmentText {segment : String} (other : ∀ text, value ≠ .string text)
    (written : segmentText mapping value type = .ok segment) :
    ∃ literal, mapping.serializer mapping.schema value type = .ok literal := by
  cases value with
  | string text => exact absurd rfl (other text)
  | _ =>
    rcases map_eq_ok.mp written with ⟨literal, serialized, _⟩
    exact ⟨literal, serialized⟩

end Single

theorem addPart_rekeyed {key key' : KeySelection}
    (written : ∀ type element entity declared text, draft.type = some type →
      mapping.schema.Keyed type element entity declared →
      keyText mapping entity declared key = .ok text →
      ∃ text', keyText mapping entity declared key' = .ok text')
    (added : (addPart mapping draft (.key key)).outcome = .ok draft') :
    ∃ draft'', (addPart mapping draft (.key key')).outcome = .ok draft'' ∧
      Reworded draft' draft'' := by
  rcases addPart_key_eq_ok.mp added with
    ⟨opened, type, element, entity, declared, text, typed, keyed, spelled, rfl⟩
  rcases written type element entity declared text typed keyed spelled with ⟨text', spelled'⟩
  refine ⟨draft.keyed element text', ?_, keyed_moved draft element text text'⟩
  exact addPart_key_eq_ok.mpr
    ⟨opened, type, element, entity, declared, text', typed, keyed, spelled', rfl⟩

end Draft

namespace Mapping

variable {mapping : Mapping} {root : String} {before after : List ResourcePart}
  {part part' : ResourcePart} {target : Target} {value : Value} {keyType : TypeRef}

/-- The rest of a path does not notice by which part a draft was reached. -/
theorem map_reworded
    (replaces : ∀ draft draft', (mapping.draft ⟨before⟩).outcome = .ok draft →
      (Draft.addPart mapping draft part).outcome = .ok draft' →
      ∃ draft'', (Draft.addPart mapping draft part').outcome = .ok draft'' ∧
        Draft.Reworded draft' draft'')
    (accepted : (mapping.map root ⟨before ++ part :: after⟩).outcome = .ok target) :
    ∃ path, (mapping.map root ⟨before ++ part' :: after⟩).outcome =
      .ok (target.elsewhere path) := by
  rcases map_eq_ok_at.mp accepted with ⟨draft, draft', final, reached, added, rest, finished⟩
  rcases replaces draft draft' reached added with ⟨draft'', added', reworded⟩
  have ends := (Draft.addParts_reworded mapping reworded after).bind fun final final' reworded =>
    Draft.finish_reworded mapping reworded root
  rcases ends.of_eq_ok (bind_eq_ok.mpr ⟨final, rest, finished⟩) with ⟨_, ended, path, rfl⟩
  rcases bind_eq_ok.mp ended with ⟨final', rest', finished'⟩
  exact ⟨path, map_eq_ok_at.mpr ⟨draft, draft'', final', reached, added', rest', finished'⟩⟩

/-- The path comes to a collection of entities with one key property, of this type. -/
def KeyType (mapping : Mapping) (before : List ResourcePart) (keyType : TypeRef) : Prop :=
  ∃ draft type element entity name property, (mapping.draft ⟨before⟩).outcome = .ok draft ∧
    draft.type = some type ∧ mapping.schema.Keyed type element entity [(name, property)] ∧
    property.type = keyType

def withSingle (mapping : Mapping) (root : String) (before : List ResourcePart) (style : KeyStyle)
    (value : Value) (after : List ResourcePart) : Except Error Target :=
  mapping.withKey root before (.styled style (.single value)) after

theorem segment_of_parenthesized
    (accepted : mapping.withSingle root before .parenthesized value after = .ok target) :
    ∃ path, mapping.withSingle root before .segment value after = .ok (target.elsewhere path) := by
  apply map_reworded _ accepted
  intro draft draft' _ added
  apply Draft.addPart_rekeyed _ added
  intro type element entity declared text _ _ spelled
  rcases Draft.keyText_parenthesized.mp spelled with
    ⟨name, property, literal, single, serialized, _⟩
  rcases Draft.segmentText_of_literal serialized with ⟨segment, written⟩
  exact ⟨.apart segment, Draft.keyText_segment.mpr ⟨name, property, segment, single, written, rfl⟩⟩

theorem KeyType.declares {draft : Draft} {type element : TypeRef} {entity : ComplexType}
    {declared : List (String × Property)} (there : mapping.KeyType before keyType)
    (reached : (mapping.draft ⟨before⟩).outcome = .ok draft) (typed : draft.type = some type)
    (keyed : mapping.schema.Keyed type element entity declared) :
    ∃ name property, declared = [(name, property)] ∧ property.type = keyType := by
  rcases there with ⟨_, _, _, _, name, property, reached', typed', keyed', same⟩
  cases reached.symm.trans reached'
  cases typed.symm.trans typed'
  cases keyed.selects.symm.trans keyed'.selects
  cases keyed.listed.symm.trans keyed'.listed
  exact ⟨name, property, rfl, same⟩

theorem parenthesized_of_segment {literal : String} (there : mapping.KeyType before keyType)
    (serialized : mapping.serializer mapping.schema value keyType = .ok literal)
    (accepted : mapping.withSingle root before .segment value after = .ok target) :
    ∃ path, mapping.withSingle root before .parenthesized value after =
      .ok (target.elsewhere path) := by
  apply map_reworded _ accepted
  intro draft draft' reached added
  apply Draft.addPart_rekeyed _ added
  intro type element entity declared text typed keyed _
  rcases there.declares reached typed keyed with ⟨name, property, single, rfl⟩
  exact ⟨_, Draft.keyText_parenthesized.mpr ⟨name, property, literal, single, serialized, rfl⟩⟩

theorem literal_of_parenthesized (there : mapping.KeyType before keyType)
    (accepted : mapping.withSingle root before .parenthesized value after = .ok target) :
    ∃ literal, mapping.serializer mapping.schema value keyType = .ok literal := by
  rcases map_eq_ok_at.mp accepted with ⟨draft, draft', _, reached, added, _, _⟩
  rcases Draft.addPart_key_eq_ok.mp added with
    ⟨_, type, element, entity, declared, text, typed, keyed, spelled, _⟩
  rcases there.declares reached typed keyed with ⟨name, property, rfl, rfl⟩
  rcases Draft.keyText_parenthesized.mp spelled with ⟨_, _, literal, same, serialized, _⟩
  cases same
  exact ⟨literal, serialized⟩

theorem keyType_of_segment
    (accepted : mapping.withSingle root before .segment value after = .ok target) :
    ∃ keyType segment, mapping.KeyType before keyType ∧
      Draft.segmentText mapping value keyType = .ok segment := by
  rcases map_eq_ok_at.mp accepted with ⟨draft, draft', _, reached, added, _, _⟩
  rcases Draft.addPart_key_eq_ok.mp added with
    ⟨_, type, element, entity, declared, text, typed, keyed, spelled, _⟩
  rcases Draft.keyText_segment.mp spelled with ⟨name, property, segment, rfl, written, _⟩
  have there : mapping.KeyType before property.type :=
    ⟨draft, type, element, entity, name, property, reached, typed, keyed, rfl⟩
  exact ⟨property.type, segment, there, written⟩

/-- A single key that is accepted in parentheses is accepted as a segment, and only the path
differs. The other way round this holds for every value but a text, and for a text exactly if it
serializes as the type of the key: as a segment it is not checked against this type. -/
theorem single_styles_agree (mapping : Mapping) (root : String) (before : List ResourcePart)
    (value : Value) (after : List ResourcePart) :
    (∀ target, mapping.withSingle root before .parenthesized value after = .ok target →
      ∃ path, mapping.withSingle root before .segment value after = .ok (target.elsewhere path)) ∧
    ((∀ text, value ≠ .string text) →
      ((∃ target, mapping.withSingle root before .segment value after = .ok target) ↔
        ∃ target, mapping.withSingle root before .parenthesized value after = .ok target)) ∧
    ∀ target, mapping.withSingle root before .segment value after = .ok target →
      ∃ keyType, mapping.KeyType before keyType ∧
        ((∃ target', mapping.withSingle root before .parenthesized value after = .ok target') ↔
          ∃ literal, mapping.serializer mapping.schema value keyType = .ok literal) := by
  refine ⟨fun target => segment_of_parenthesized, ?_, ?_⟩
  · intro other
    constructor
    · rintro ⟨target, accepted⟩
      rcases keyType_of_segment accepted with ⟨keyType, segment, there, written⟩
      rcases Draft.literal_of_segmentText other written with ⟨literal, serialized⟩
      rcases parenthesized_of_segment there serialized accepted with ⟨path, mapped⟩
      exact ⟨_, mapped⟩
    · rintro ⟨target, accepted⟩
      rcases segment_of_parenthesized accepted with ⟨path, mapped⟩
      exact ⟨_, mapped⟩
  · intro target accepted
    rcases keyType_of_segment accepted with ⟨keyType, _, there, _⟩
    refine ⟨keyType, there, ?_⟩
    constructor
    · rintro ⟨target', mapped⟩
      exact literal_of_parenthesized there mapped
    · rintro ⟨literal, serialized⟩
      rcases parenthesized_of_segment there serialized accepted with ⟨path, mapped⟩
      exact ⟨_, mapped⟩

end Mapping

namespace Depot

def selected (style : KeyStyle) (value : Value) : Except Error Target :=
  plain.withSingle "http://svc" [.entitySet items] style value []

def all : Target := (Draft.ofSet items).addressed "http://svc" items.pathType []

theorem selected_seven :
    selected .parenthesized (.int 7) = .ok (all.keyed item (.behind "(7)")) := by
  with_unfolding_all rfl

theorem selected_first :
    selected .segment (.string "first") = .ok (all.keyed item (.apart "first")) := by
  with_unfolding_all rfl

theorem unselected_first : selected .parenthesized (.string "first") =
    .error (.notSerializable "\"first\"" "Edm.Int64") := by
  with_unfolding_all rfl

end Depot

theorem Mapping.single_styles_agree_depot :
    (∃ path, Depot.selected .segment (.int 7) =
      .ok ((Depot.all.keyed Depot.item (.behind "(7)")).elsewhere path)) ∧
    ((∃ target, Depot.selected .segment (.int 7) = .ok target) ↔
      ∃ target, Depot.selected .parenthesized (.int 7) = .ok target) ∧
    ∃ keyType, Depot.plain.KeyType [.entitySet Depot.items] keyType ∧
      ¬∃ literal, Depot.plain.serializer Depot.schema (.string "first") keyType = .ok literal := by
  have number := single_styles_agree Depot.plain "http://svc" [.entitySet Depot.items] (.int 7) []
  have text :=
    single_styles_agree Depot.plain "http://svc" [.entitySet Depot.items] (.string "first") []
  refine ⟨number.1 _ Depot.selected_seven, number.2.1 nofun, ?_⟩
  rcases text.2.2 _ Depot.selected_first with ⟨keyType, there, checked⟩
  refine ⟨keyType, there, ?_⟩
  intro serialized
  rcases checked.mpr serialized with ⟨target, accepted⟩
  cases Depot.unselected_first.symm.trans accepted

theorem Mapping.text_for_number :
    ¬∀ (mapping : Mapping) root before value after,
      (∃ target, mapping.withSingle root before .segment value after = .ok target) ↔
        ∃ target, mapping.withSingle root before .parenthesized value after = .ok target := by
  intro agree
  have both := agree Depot.plain "http://svc" [.entitySet Depot.items] (.string "first") []
  rcases both.mp ⟨_, Depot.selected_first⟩ with ⟨target, accepted⟩
  cases Depot.unselected_first.symm.trans accepted

end ODataRequest
