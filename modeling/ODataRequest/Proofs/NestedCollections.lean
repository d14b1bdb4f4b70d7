import ODataRequest.Proofs.CursorKinds
import ODataRequest.Proofs.Expansion
import ODataRequest.Proofs.KeyTexts
namespace ODataRequest

/-!
What is refused because collections are nested. Casts, steps and the clauses of an expansion look
at the whole type; a query looks at what is left of it once the element has been taken, and so one
layer of nesting escapes it.
-/

def FailsNested {α : Type} (x : Except Error α) : Prop :=
  ∃ text, x = .error (.nestedCollection text)

namespace FailsNested

variable {α β : Type} {x : Except Error α}

theorem bind (failed : FailsNested x) (f : α → Except Error β) : FailsNested (x >>= f) := by
  rcases failed with ⟨text, rfl⟩
  exact ⟨text, rfl⟩

theorem logged {x : Logged Error α} (failed : FailsNested x.outcome) (f : α → Logged Error β) :
    FailsNested (x >>= f).outcome := by
  rw [Logged.outcome_bind]
  exact failed.bind _

theorem pure_iff {f : α → β} : FailsNested (x >>= fun a => pure (f a)) ↔ FailsNested x := by
  refine ⟨?_, fun failed => failed.bind _⟩
  rintro ⟨text, failed⟩
  cases x with
  | ok a => cases failed
  | error e =>
    cases failed
    exact ⟨text, rfl⟩

end FailsNested

namespace TypeRef

theorem depth_elementOrSelf (type : TypeRef) : type.elementOrSelf.depth = type.depth - 1 := by
  cases type <;> rfl

theorem isCollection_of_nested {type : TypeRef} (nested : 2 ≤ type.depth) :
    type.isCollection = true := by
  cases type with
  | named scope name => cases nested
  | collection element => rfl

theorem element_nested {type : TypeRef} (nested : 2 ≤ type.depth) : FailsNested type.element := by
  match type, nested with
  | .collection (.collection inner), _ => exact ⟨_, rfl⟩

end TypeRef

namespace Cursor

theorem it_nested_iff {schema : Schema} {type : TypeRef} :
    FailsNested (it schema type) ↔ 2 ≤ type.depth :=
  FailsNested.pure_iff.trans classify_nested_iff

/-- The elements of a collection of collections are collections, which queries can start from. -/
theorem it_of_two_layers {schema : Schema} {type : TypeRef} (nested : type.depth = 2)
    {kind : CursorKind} (classified : classify schema type.innermost = .ok kind) :
    ∃ cursor, it schema type.elementOrSelf = .ok cursor ∧ cursor.type = type.elementOrSelf ∧
      cursor.kind = .collection := by
  match type, nested with
  | .collection (.collection (.named scope name)), _ =>
    have single : classifySingle schema (.named scope name) = .ok kind :=
      (classify_named ..).symm.trans classified
    have elements : classify schema (.collection (.named scope name)) = .ok .collection := by
      rw [classify_collection, single]
      rfl
    exact ⟨_, bind_eq_ok.mpr ⟨_, elements, rfl⟩, rfl, rfl⟩

theorem property_nested {cursor : Cursor} {c : ComplexType} {name : String} {property : Property}
    (complex : cursor.kind = .complex) (declared : cursor.schema.complex cursor.type = .ok c)
    (found : cursor.schema.property c name = .ok property) (nested : 2 ≤ property.type.depth) :
    FailsNested (cursor.property name) := by
  rw [Cursor.property, complex]
  change FailsNested (cursor.schema.complex cursor.type >>= _)
  rw [declared]
  change FailsNested (cursor.schema.property c name >>= _)
  rw [found]
  exact FailsNested.bind (classify_nested_iff.mpr nested) _

end Cursor

namespace CallOf

variable {schema : Schema} {c : Call} {target : Expr} {type : TypeRef}

theorem addOptions_nested (typed : target.concreteType? = some type) (nested : 2 ≤ type.depth)
    (build : Cursor → Except Error (List Clause)) (options : Options) :
    FailsNested (c.addOptions schema target options (ExpandOption.clauses build).argument) := by
  have expanded : FailsNested (expandedType type) := by
    rw [expandedType, if_pos (TypeRef.isCollection_of_nested nested)]
    exact TypeRef.element_nested nested
  have held : c.directiveOf (ExpandOption.clauses build).argument =
    .ok (ExpandOption.clauses build).directive := rfl
  rw [addOptions, held, typed]
  exact expanded.bind _

end CallOf

namespace Expand

variable {target : Expr} {type : TypeRef} {options : List ExpandOption}

/-- Clauses cannot be built for the elements of a nested property; the expansion can be written
down, but it is not rendered. -/
theorem render_nested (renderer : Renderer) (typed : target.concreteType? = some type)
    (nested : 2 ≤ type.depth) {build : Cursor → Except Error (List Clause)}
    (member : .clauses build ∈ options) :
    ∃ e, expandWith target options = .ok e ∧ FailsNested (renderer.render e).outcome := by
  refine ⟨_, expandWith_eq target options, ?_⟩
  suffices refused : FailsNested (((ordered options).map ExpandOption.argument).foldlM
      ((call target options).addOptions renderer.schema target) []) by
    rcases refused with ⟨text, refused⟩
    exact ⟨text, render_refused refused⟩
  have given : .clauses build ∈ ordered options :=
    List.mem_append_right _ (List.mem_filter.mpr ⟨member, rfl⟩)
  -- The count in front, if there is one, is accepted, and the first clauses are not.
  have others_refused {others : List ExpandOption} (given : .clauses build ∈ others)
      (clauses : ∀ option ∈ others, option.isCount = false) (gathered : CallOf.Options) :
      FailsNested ((others.map ExpandOption.argument).foldlM
        ((call target options).addOptions renderer.schema target) gathered) := by
    cases others with
    | nil => cases given
    | cons head rest =>
      cases head with
      | count => cases clauses _ List.mem_cons_self
      | clauses first =>
        rw [List.map_cons, List.foldlM_cons]
        exact (CallOf.addOptions_nested typed nested first gathered).bind _
  rcases ordered_cases options with ⟨others, clauses, same | same⟩
  · rw [same] at given ⊢
    exact others_refused given clauses []
  · rw [same] at given ⊢
    rw [List.map_cons, List.foldlM_cons, CallOf.addOptions_of_asks
      (.count typed (TypeRef.isCollection_of_nested nested))]
    exact others_refused ((List.mem_cons.mp given).resolve_left nofun) clauses _

end Expand

theorem Draft.addCast_nested {mapping : Mapping} {draft : Draft} {type : TypeRef} {name : String}
    (nested : 2 ≤ type.depth) :
    draft.addCast mapping type name = .error (.nestedCollection type.text) := if_pos nested

namespace RequestDraft

variable {draft : RequestDraft} {target : Target}

structure RefusesQueries (draft : RequestDraft) : Prop where
  cursor : FailsNested draft.cursor.outcome
  withQuery : ∀ build, FailsNested (draft.withQuery build).outcome

theorem outcome_cursor (mapped : draft.target.outcome = .ok target) :
    draft.cursor.outcome = Cursor.it draft.client.schema target.type.elementOrSelf := by
  rw [cursor, Logged.outcome_bind, mapped]
  rfl

theorem refusesQueries_iff : draft.RefusesQueries ↔ FailsNested draft.cursor.outcome :=
  ⟨RefusesQueries.cursor, fun failed => ⟨failed, fun _ => failed.logged _⟩⟩

theorem cast_nested (mapped : draft.target.outcome = .ok target) (nested : 2 ≤ target.type.depth)
    (path : draft.resource.hasQuery = false) (name : String) :
    FailsNested (draft.cast name).outcome := by
  let next : RequestDraft := { draft with resource := ⟨draft.resource.parts ++ [.cast name]⟩ }
  have pushed : draft.resource.push (.cast name) = .ok next.resource := by
    rw [ResourceParts.push, path]
    rfl
  rcases Logged.outcome_bind_eq_ok.mp mapped with ⟨reached, drafted, finished⟩
  have typed := (Draft.place_of_finish finished).1
  have opened := (Draft.consistent_draft drafted).open_of_collection typed
    (TypeRef.isCollection_of_nested nested)
  have refused : FailsNested
      (Draft.addPart draft.client.mapping reached (.cast name)).outcome := by
    refine ⟨target.type.text, ?_⟩
    simp only [Draft.addPart, opened, typed, Draft.addPathPart, Draft.addCast_nested nested]
    rfl
  have unmapped : FailsNested next.target.outcome := by
    apply FailsNested.logged
    change FailsNested (draft.client.mapping.draft ⟨draft.resource.parts ++ [.cast name]⟩).outcome
    rw [Mapping.draft_concat, Logged.outcome_bind, drafted]
    exact refused
  rw [cast, push, pushed, Logged.ofExcept_ok, pure_bind]
  exact unmapped.logged _

/-- Queries are refused for what is nested three layers deep, and not for collections of
collections, whose elements they start from; casts, steps and expansions that build clauses are
refused for these too. An expansion without clauses of its own never looks at the elements. -/
theorem queries_refused_iff {client : Client} {set : EntitySet} {first draft : RequestDraft}
    (started : client.entitySet set = .ok first) (run : Run first draft) :
    (∃ target, draft.target.outcome = .ok target ∧
      (draft.RefusesQueries ↔ 3 ≤ target.type.depth) ∧
      (target.type.depth = 2 → ∀ kind,
        Cursor.classify draft.client.schema target.type.innermost = .ok kind →
        ∃ cursor, draft.cursor.outcome = .ok cursor ∧
          cursor.type = target.type.elementOrSelf ∧ cursor.kind = .collection) ∧
      (2 ≤ target.type.depth → draft.resource.hasQuery = false →
        ∀ name, FailsNested (draft.cast name).outcome)) ∧
    (∀ (cursor : Cursor) c name property, cursor.kind = .complex →
      cursor.schema.complex cursor.type = .ok c → cursor.schema.property c name = .ok property →
      2 ≤ property.type.depth → FailsNested (cursor.property name)) ∧
    ∀ (renderer : Renderer) (e : Expr) type options build, e.concreteType? = some type →
      2 ≤ type.depth → .clauses build ∈ options →
      ∃ expansion, Expand.expandWith e options = .ok expansion ∧
        FailsNested (renderer.render expansion).outcome := by
  refine ⟨?_, ?_, ?_⟩
  · rcases (sound_run (sound_start started) run).mapped with ⟨target, mapped⟩
    refine ⟨target, mapped, ?_, ?_, fun nested path => cast_nested mapped nested path⟩
    · rw [refusesQueries_iff, outcome_cursor mapped, Cursor.it_nested_iff,
        TypeRef.depth_elementOrSelf]
      omega
    · intro nested kind classified
      rw [outcome_cursor mapped]
      exact Cursor.it_of_two_layers nested classified
  · intro cursor c name property complex declared found nested
    exact Cursor.property_nested complex declared found nested
  · intro renderer e type options build typed nested member
    exact Expand.render_nested renderer typed nested member

end RequestDraft

namespace Boards

def board : TypeRef := .named "Atlas" "Board"

def rows : TypeRef := .collection (.collection .int64)

def schema : Schema where
  types := [.complex {
    scope := "Atlas"
    name := "Board"
    properties := .ofList
      [("Layers", ⟨.collection rows, false, false⟩), ("Rows", ⟨rows, false, false⟩)] }]
  ordered := by decide

def client : Client where
  config := .ofRoot "http://svc"
  schema := schema
  tools := { transport := fun _ => .error "offline" }

def set : EntitySet := (EntitySet.ofType "Games" "Board" board).asSingleton

def start : RequestDraft where
  client := client
  set := set
  resource := ⟨[.entitySet set]⟩

def addressed (property : String) : RequestDraft :=
  { start with resource := ⟨[.entitySet set, .property property]⟩ }

def target (property : String) (type : TypeRef) : Target where
  accept := .json
  type := type
  address := ⟨"http://svc", some "Games", some "Board", "Board/" ++ property, []⟩

theorem started : client.entitySet set = .ok start := by with_unfolding_all rfl

theorem target_layers :
    (addressed "Layers").target.outcome = .ok (target "Layers" (.collection rows)) := by
  with_unfolding_all rfl

theorem target_rows : (addressed "Rows").target.outcome = .ok (target "Rows" rows) := by
  with_unfolding_all rfl

theorem run_addressed {property : String} {type : TypeRef}
    (mapped : (addressed property).target.outcome = .ok (target property type)) :
    RequestDraft.Run start (addressed property) := by
  apply RequestDraft.Run.step (.property property) .start
  apply Logged.outcome_bind_eq_ok.mpr
  exact ⟨⟨[.entitySet set, .property property]⟩, rfl,
    Logged.outcome_bind_eq_ok.mpr ⟨_, mapped, rfl⟩⟩

def position : Cursor := ⟨schema, board, [], .ofType itContext board, .empty, .complex⟩

end Boards

namespace RequestDraft

theorem queries_refused_iff_layers :
    (Boards.client.entitySet Boards.set = .ok Boards.start ∧
      Run Boards.start (Boards.addressed "Layers") ∧
      (Boards.addressed "Layers").RefusesQueries ∧
      FailsNested ((Boards.addressed "Layers").cast "Row").outcome) ∧
    FailsNested (Boards.position.property "Rows") ∧
    ∃ e, Expand.expandWith (.member none "Rows" Boards.rows) [.clauses fun _ => pure []] = .ok e ∧
      FailsNested ((Renderer.standard Boards.schema).render e).outcome := by
  have run := Boards.run_addressed Boards.target_layers
  rcases queries_refused_iff Boards.started run with
    ⟨⟨target, mapped, refused, _, cast⟩, steps, expansions⟩
  refine ⟨?_, ?_, ?_⟩
  · cases Boards.target_layers.symm.trans mapped
    exact ⟨Boards.started, run, refused.mpr (by decide), cast (by decide) rfl "Row"⟩
  · exact steps Boards.position _ "Rows" ⟨Boards.rows, false, false⟩ rfl rfl
      (by with_unfolding_all rfl) (by decide)
  · exact expansions _ _ Boards.rows _ _ rfl (by decide) List.mem_cons_self

/-- The rows of a board are a collection of collections, but a query of them is not refused. -/
theorem rows_not_refused :
    Boards.client.entitySet Boards.set = .ok Boards.start ∧
      Run Boards.start (Boards.addressed "Rows") ∧
      (Boards.addressed "Rows").target.outcome = .ok (Boards.target "Rows" Boards.rows) ∧
      Boards.rows.depth = 2 ∧
      (∃ cursor, (Boards.addressed "Rows").cursor.outcome = .ok cursor ∧
        cursor.kind = .collection) ∧
      ¬(Boards.addressed "Rows").RefusesQueries := by
  have taken : (Boards.addressed "Rows").cursor.outcome =
      Cursor.it Boards.schema (.collection .int64) := outcome_cursor Boards.target_rows
  have classified : Cursor.classify Boards.schema Boards.rows.innermost = .ok .primitive := by
    with_unfolding_all rfl
  rcases Cursor.it_of_two_layers rfl classified with ⟨cursor, found, _, collection⟩
  refine ⟨Boards.started, Boards.run_addressed Boards.target_rows, Boards.target_rows, rfl,
    ⟨cursor, taken.trans found, collection⟩, ?_⟩
  intro refused
  rcases refused.cursor with ⟨text, failed⟩
  cases (taken.trans found).symm.trans failed

end RequestDraft
end ODataRequest
