import Mathlib.Data.List.Induction
import ODataRequest.Proofs.BaseChains
import ODataRequest.Proofs.Casts
import ODataRequest.Proofs.Evaluation
import ODataRequest.Resource.Mapping
namespace ODataRequest

/-!
Three walks along one path: the steps of a position, the parts of a request and the expression
below the anchor. `walk_agrees` says that the parts map to the path that was walked, at the type
that was reached, and that the expression renders to the same path.
-/

namespace Cursor

inductive Move
  | property (name : String)
  | cast (target : String)
  | count
  | value

def move (cursor : Cursor) : Move → Except Error Cursor
  | .property name => cursor.property name
  | .cast target => cursor.cast target
  | .count => cursor.count
  | .value => cursor.value

def walk (cursor : Cursor) (moves : List Move) : Except Error Cursor := moves.foldlM move cursor

theorem property_inversion {cursor next : Cursor} {name : String}
    (moved : cursor.property name = .ok next) :
    ∃ c property kind, cursor.kind = .complex ∧ cursor.schema.complex cursor.type = .ok c ∧
      cursor.schema.property c name = .ok property ∧
      classify cursor.schema property.type = .ok kind ∧
      next = cursor.step ⟨name, if property.navigation then .navigation else .property,
        property.type⟩ kind := by
  unfold Cursor.property at moved
  split at moved
  · rename_i complex
    obtain ⟨c, resolved, moved⟩ := bind_eq_ok.mp moved
    obtain ⟨property, found, moved⟩ := bind_eq_ok.mp moved
    obtain ⟨kind, classified, moved⟩ := bind_eq_ok.mp moved
    simp only [pure, Except.pure, Except.ok.injEq] at moved
    exact ⟨c, property, kind, complex, resolved, found, classified, moved.symm⟩
  · simp at moved
  · simp at moved

theorem cast_inversion {cursor next : Cursor} {target : String}
    (moved : cursor.cast target = .ok next) :
    ∃ c derived kind, cursor.type.depth ≤ 1 ∧
      cursor.schema.complex cursor.type.innermost = .ok c ∧
      cursor.schema.resolveCast c target = .ok derived ∧
      classify cursor.schema (derived.wrap cursor.type.depth) = .ok kind ∧
      (cursor.kind = .complex ∨ cursor.kind = .collection) ∧
      next = cursor.step ⟨derived.text, .cast, derived.wrap cursor.type.depth⟩ kind := by
  obtain ⟨c, based, moved⟩ := bind_eq_ok.mp moved
  obtain ⟨derived, resolved, moved⟩ := bind_eq_ok.mp moved
  obtain ⟨kind, classified, moved⟩ := bind_eq_ok.mp moved
  simp only [pure, Except.pure, Except.ok.injEq] at moved
  unfold castBase at based
  split at based
  · simp at based
  · rename_i shallow
    have depth : cursor.type.depth ≤ 1 := Nat.le_of_not_lt shallow
    split at based
    · rename_i complex
      exact ⟨c, derived, kind, depth, based, resolved, classified, .inl complex, moved.symm⟩
    · rename_i collection
      exact ⟨c, derived, kind, depth, based, resolved, classified, .inr collection, moved.symm⟩
    · simp at based

theorem count_inversion {cursor next : Cursor} (moved : cursor.count = .ok next) :
    cursor.kind = .collection ∧ next = cursor.step ⟨"$count", .count, .int64⟩ .count := by
  unfold Cursor.count at moved
  split at moved
  · rename_i collection
    simp only [Except.ok.injEq] at moved
    exact ⟨collection, moved.symm⟩
  · simp at moved

theorem value_inversion {cursor next : Cursor} (moved : cursor.value = .ok next) :
    (cursor.kind = .primitive ∨ cursor.kind = .enum) ∧
      next = cursor.step ⟨"$value", .value, .string⟩ .value := by
  unfold Cursor.value at moved
  split at moved
  · rename_i leaf
    simp only [Except.ok.injEq] at moved
    exact ⟨leaf, moved.symm⟩
  · simp at moved

end Cursor

/-- Neither a declared type nor a property is in the scope of raw text. -/
structure Schema.FreeOfRaw (schema : Schema) : Prop where
  types : ∀ t ∈ schema.types, t.scope ≠ rawScope
  properties : ∀ c ∈ schema.complexTypes, ∀ entry ∈ c.properties.entries,
    entry.2.type.innermost.isRaw = false

theorem Schema.isRaw_of_kind {schema : Schema} {type : TypeRef}
    (resolved : schema.kind type = .ok .raw) : type.isRaw = true := by
  cases type with
  | collection element => simp [kind] at resolved
  | named scope name =>
    by_cases edm : scope = edmScope
    · simp [kind, edm] at resolved
    · by_cases raw : scope = rawScope
      · simp [TypeRef.isRaw, raw]
      · cases found : schema.get? scope name with
        | none => simp [kind, edm, raw, found] at resolved
        | some t => cases t <;> simp [kind, edm, raw, found] at resolved

namespace Cursor

/-- What holds at every position of a walk: its kind is that of its type, unless the walk has
ended at a count or a raw value. -/
structure Sound (cursor : Cursor) : Prop where
  typed : cursor.type.innermost.isRaw = false
  classified : cursor.kind ≠ .count → cursor.kind ≠ .value →
    classify cursor.schema cursor.type = .ok cursor.kind

theorem innermost_wrap (type : TypeRef) (layers : Nat) :
    (type.wrap layers).innermost = type.innermost := by
  induction layers with
  | zero => rfl
  | succ layers ih => exact ih

theorem start_sound {schema : Schema} {type : TypeRef} {root : RootSymbol} {cursor : Cursor}
    (typed : type.innermost.isRaw = false) (started : start schema type root = .ok cursor) :
    cursor.Sound ∧ ∃ kind, classify schema type = .ok kind ∧
      cursor = ⟨schema, type, [], root, .empty, kind⟩ := by
  obtain ⟨kind, classified, same⟩ := bind_eq_ok.mp started
  simp only [pure, Except.pure, Except.ok.injEq] at same
  subst same
  exact ⟨⟨typed, fun _ _ => classified⟩, kind, classified, rfl⟩

theorem move_sound {cursor next : Cursor} {m : Move} (clean : cursor.schema.FreeOfRaw)
    (moved : cursor.move m = .ok next) : next.Sound := by
  cases m with
  | property name =>
    obtain ⟨c, property, kind, _, resolved, found, classified, rfl⟩ := property_inversion moved
    obtain ⟨owner, declared, listed⟩ :=
      Schema.property_declared (Schema.complex_mem resolved) found
    exact ⟨clean.properties owner declared _ listed, fun _ _ => classified⟩
  | cast target =>
    obtain ⟨c, derived, kind, _, _, resolved, classified, _, rfl⟩ := cast_inversion moved
    obtain ⟨d, member, rfl⟩ := Schema.resolveCast_derived resolved
    have declared := Schema.mem_complexTypes.mp (Schema.derivedTypes_declared member)
    have apart : d.scope ≠ rawScope := clean.types _ declared
    refine ⟨?_, fun _ _ => classified⟩
    rw [Cursor.step, innermost_wrap]
    simpa [ComplexType.type, TypeRef.innermost, TypeRef.isRaw] using apart
  | count =>
    obtain ⟨_, rfl⟩ := count_inversion moved
    exact ⟨rfl, fun counted => absurd rfl counted⟩
  | value =>
    obtain ⟨_, rfl⟩ := value_inversion moved
    exact ⟨rfl, fun _ valued => absurd rfl valued⟩

def kindOf : TypeKind → CursorKind
  | .primitive | .raw => .primitive
  | .enum _ => .enum
  | .complex _ => .complex

theorem classifySingle_cases {schema : Schema} {type : TypeRef} {kind : CursorKind}
    (classified : classifySingle schema type = .ok kind) :
    ∃ found, schema.kind type = .ok found ∧ kind = kindOf found := by
  obtain ⟨found, resolved, classified⟩ := bind_eq_ok.mp classified
  refine ⟨found, resolved, ?_⟩
  cases found with
  | complex c =>
    obtain ⟨properties, _, classified⟩ := bind_eq_ok.mp classified
    obtain ⟨_, _, classified⟩ := bind_eq_ok.mp classified
    cases classified
    rfl
  | _ =>
    cases classified
    rfl

theorem classify_cases {schema : Schema} {type : TypeRef} {kind : CursorKind}
    (classified : classify schema type = .ok kind) :
    type.isCollection = true ∧ kind = .collection ∨
      type.isCollection = false ∧ ∃ found, schema.kind type = .ok found ∧ kind = kindOf found := by
  unfold classify at classified
  split at classified
  · cases classified
  · cases type with
    | collection element =>
      obtain ⟨_, _, rfl⟩ := map_eq_ok.mp classified
      exact .inl ⟨rfl, rfl⟩
    | named scope name => exact .inr ⟨rfl, classifySingle_cases classified⟩

theorem collection_of_classify {schema : Schema} {type : TypeRef}
    (classified : classify schema type = .ok .collection) : type.isCollection = true := by
  rcases classify_cases classified with ⟨many, _⟩ | ⟨_, found, _, same⟩
  · exact many
  · cases found <;> cases same

theorem leaf_of_classify {schema : Schema} {type : TypeRef} {kind : CursorKind}
    (typed : type.innermost.isRaw = false) (leaf : kind = .primitive ∨ kind = .enum)
    (classified : classify schema type = .ok kind) : Draft.isLeaf schema type = .ok true := by
  rcases classify_cases classified with ⟨_, rfl⟩ | ⟨single, found, resolved, rfl⟩
  · simp at leaf
  · cases found with
    | primitive | enum => simp [Draft.isLeaf, single, resolved, Except.map]
    | raw =>
      have rawType := Schema.isRaw_of_kind resolved
      cases type with
      | named scope name =>
        rw [TypeRef.innermost, rawType] at typed
        cases typed
      | collection element => cases single
    | complex c => simp [kindOf] at leaf

theorem classify_open {schema : Schema} {type : TypeRef} {kind : CursorKind}
    (classified : classify schema type = .ok kind) : kind ≠ .count ∧ kind ≠ .value := by
  rcases classify_cases classified with ⟨_, rfl⟩ | ⟨_, found, _, rfl⟩
  · simp
  · cases found <;> simp [kindOf]

end Cursor

def CursorKind.accept : CursorKind → Accept
  | count => .integer
  | value => .raw
  | _ => .json

def CursorKind.terminal? : CursorKind → Option String
  | count => some "$count"
  | value => some "$value"
  | _ => none

namespace Draft

def ofCursor (set : EntitySet) (cursor : Cursor) : Draft where
  accept := cursor.kind.accept
  container := some set.container
  entitySet := some set
  type := some cursor.type
  segments := set.name :: cursor.path.map PathStep.name
  terminal := cursor.kind.terminal?

theorem ofCursor_step (set : EntitySet) (cursor : Cursor) (taken : PathStep) (kind : CursorKind) :
    ofCursor set (cursor.step taken kind) =
      { (ofCursor set cursor).addSegment taken.name taken.type with
        accept := kind.accept
        terminal := kind.terminal? } := by
  simp [ofCursor, Cursor.step, addSegment]

theorem accept_ofCursor {set : EntitySet} {cursor : Cursor} (before : cursor.kind ≠ .count)
    (before' : cursor.kind ≠ .value) : (ofCursor set cursor).accept = .json := by
  cases kind : cursor.kind <;> simp_all [ofCursor, CursorKind.accept]

theorem terminal_ofCursor (set : EntitySet) {cursor : Cursor} (before : cursor.kind ≠ .count)
    (before' : cursor.kind ≠ .value) : (ofCursor set cursor).terminal = none := by
  cases kind : cursor.kind <;> simp_all [ofCursor, CursorKind.terminal?]

theorem ofCursor_open {set : EntitySet} {cursor : Cursor} {taken : PathStep} {kind : CursorKind}
    (before : cursor.kind ≠ .count ∧ cursor.kind ≠ .value)
    (after : kind ≠ .count ∧ kind ≠ .value) :
    ofCursor set (cursor.step taken kind) =
      (ofCursor set cursor).addSegment taken.name taken.type := by
  have accepts : kind.accept = (ofCursor set cursor).accept := by
    rw [accept_ofCursor before.1 before.2]
    cases kind <;> simp_all [CursorKind.accept]
  have terminals : kind.terminal? = (ofCursor set cursor).terminal := by
    rw [terminal_ofCursor set before.1 before.2]
    cases kind <;> simp_all [CursorKind.terminal?]
  rw [ofCursor_step, accepts, terminals]
  rfl

theorem addPart_entitySet {mapping : Mapping} {set : EntitySet} {symbol : RootSymbol}
    {cursor : Cursor} (started : Cursor.start mapping.schema set.pathType symbol = .ok cursor) :
    addPart mapping {} (.entitySet set) = pure (ofCursor set cursor) := by
  obtain ⟨kind, classified, same⟩ := bind_eq_ok.mp started
  obtain ⟨counted, valued⟩ := Cursor.classify_open classified
  simp only [pure, Except.pure, Except.ok.injEq] at same
  subst same
  have accepts : kind.accept = .json := by cases kind <;> simp_all [CursorKind.accept]
  have terminals : kind.terminal? = none := by cases kind <;> simp_all [CursorKind.terminal?]
  simp [addPart, addRoot, addSegment, ofCursor, accepts, terminals]

theorem addPart_ofCursor {mapping : Mapping} {set : EntitySet} {cursor : Cursor}
    {part : ResourcePart} (before : cursor.kind ≠ .count ∧ cursor.kind ≠ .value)
    (path : part.isQuery = false) :
    addPart mapping (ofCursor set cursor) part =
      addPathPart mapping (ofCursor set cursor) cursor.type part := by
  have continued := terminal_ofCursor set before.1 before.2
  have typed : (ofCursor set cursor).type = some cursor.type := rfl
  cases part with
  | query clauses => simp [ResourcePart.isQuery] at path
  | _ => simp only [addPart, continued, typed]

theorem addPart_of_move {mapping : Mapping} (set : EntitySet) {cursor next : Cursor}
    {m : Cursor.Move} (plain : mapping.schema.PlainNames) (same : cursor.schema = mapping.schema)
    (sound : cursor.Sound) (moved : cursor.move m = .ok next) :
    ∃ taken, next.path = cursor.path ++ [taken] ∧ next.schema = cursor.schema ∧
      next.root = cursor.root ∧
      addPart mapping (ofCursor set cursor) taken.part = pure (ofCursor set next) := by
  cases m with
  | property name =>
    obtain ⟨c, property, kind, complex, resolved, found, classified, rfl⟩ :=
      Cursor.property_inversion moved
    have before : cursor.kind ≠ .count ∧ cursor.kind ≠ .value := by simp [complex]
    have after := Cursor.classify_open classified
    refine ⟨_, rfl, rfl, rfl, ?_⟩
    have part : PathStep.part ⟨name, if property.navigation then .navigation else .property,
        property.type⟩ = .property name := by
      cases property.navigation <;> rfl
    rw [part, addPart_ofCursor before rfl, ofCursor_open before after]
    rw [same] at resolved found
    simp [addPathPart, addProperty, resolved, found, bind, Except.bind, pure, Except.pure,
      Logged.ofExcept]
  | cast target =>
    obtain ⟨c, derived, kind, shallow, resolved, found, classified, casting, rfl⟩ :=
      Cursor.cast_inversion moved
    have before : cursor.kind ≠ .count ∧ cursor.kind ≠ .value := by
      rcases casting with kind | kind <;> simp [kind]
    have after := Cursor.classify_open classified
    refine ⟨_, rfl, rfl, rfl, ?_⟩
    rw [addPart_ofCursor before rfl, ofCursor_open before after]
    rw [same] at resolved found
    have again := Schema.resolveCast_text plain found
    have depth : ¬1 < cursor.type.depth := by omega
    simp [PathStep.part, addPathPart, addCast, depth, resolved, again, bind, Except.bind, pure,
      Except.pure, Logged.ofExcept]
  | count =>
    obtain ⟨collection, rfl⟩ := Cursor.count_inversion moved
    have before : cursor.kind ≠ .count ∧ cursor.kind ≠ .value := by simp [collection]
    have classified := sound.classified before.1 before.2
    rw [collection] at classified
    have many := Cursor.collection_of_classify classified
    refine ⟨_, rfl, rfl, rfl, ?_⟩
    rw [PathStep.part, addPart_ofCursor before rfl, ofCursor_step]
    simp [addPathPart, addCount, many, CursorKind.accept, CursorKind.terminal?]
  | value =>
    obtain ⟨leaf, rfl⟩ := Cursor.value_inversion moved
    have before : cursor.kind ≠ .count ∧ cursor.kind ≠ .value := by
      rcases leaf with kind | kind <;> simp [kind]
    have classified := sound.classified before.1 before.2
    rw [same] at classified
    have isLeaf := Cursor.leaf_of_classify sound.typed leaf classified
    refine ⟨_, rfl, rfl, rfl, ?_⟩
    rw [PathStep.part, addPart_ofCursor before rfl, ofCursor_step]
    simp [addPathPart, addValue, isLeaf, CursorKind.accept, CursorKind.terminal?, bind,
      Except.bind, pure, Except.pure, Logged.ofExcept]

theorem addParts_of_walk {mapping : Mapping} (set : EntitySet) {cursor final : Cursor}
    {moves : List Cursor.Move} (plain : mapping.schema.PlainNames)
    (clean : mapping.schema.FreeOfRaw) (same : cursor.schema = mapping.schema)
    (sound : cursor.Sound) (walked : cursor.walk moves = .ok final) :
    ∃ steps, final.path = cursor.path ++ steps ∧ final.root = cursor.root ∧
      (steps.map PathStep.part).foldlM (addPart mapping) (ofCursor set cursor) =
        pure (ofCursor set final) := by
  induction moves generalizing cursor with
  | nil =>
    simp only [Cursor.walk, List.foldlM_nil, pure, Except.pure, Except.ok.injEq] at walked
    subst walked
    exact ⟨[], by simp, rfl, rfl⟩
  | cons m moves ih =>
    obtain ⟨next, moved, walked⟩ := bind_eq_ok.mp walked
    obtain ⟨taken, path, schema, root, added⟩ := addPart_of_move set plain same sound moved
    have sound' := Cursor.move_sound (same ▸ clean) moved
    obtain ⟨steps, path', root', rest⟩ := ih (schema.trans same) sound' walked
    refine ⟨taken :: steps, ?_, root'.trans root, ?_⟩
    · rw [path', path, List.append_assoc, List.singleton_append]
    · rw [List.map_cons, List.foldlM_cons, added, pure_bind, rest]

end Draft

namespace Renderer

/-- A path below an anchor renders to the names of its steps where the anchor is the context. -/
theorem evaluate_path (renderer : Renderer) {symbol : RootSymbol} (scope : Scope)
    (context : symbol.context = some scope.context) {path : List PathStep} (present : path ≠ []) :
    renderer.evaluate
        (path.foldl (fun parent step => .member (some parent) step.name step.type) (.root symbol))
        scope =
      pure ⟨some symbol, some (Text.joined "/" (path.map PathStep.name))⟩ := by
  induction path using List.reverseRecOn generalizing scope with
  | nil => exact absurd rfl present
  | append_singleton before step ih =>
    rw [List.foldl_append, List.foldl_cons, List.foldl_nil, evaluate_member]
    by_cases first : before = []
    · subst first
      rw [List.foldl_nil, evaluate_root]
      simp [anchor, Scope.nested, context, Text.joined]
    · have written := ih scope.nested context first
      rw [written, pure_bind, List.map_append]
      have names : before.map PathStep.name ≠ [] := by simpa using first
      simp [Text.joined, String.intercalate_append_of_ne_nil names, String.append_assoc]

end Renderer

def Cursor.target (cursor : Cursor) (root : String) (set : EntitySet) : Target where
  accept := cursor.kind.accept
  type := cursor.type
  address := {
    root := root
    container := some set.container
    entitySet := some set.name
    path := Text.joined "/" (set.name :: cursor.path.map PathStep.name)
    query := [] }

theorem Draft.finish_ofCursor (mapping : Mapping) (root : String) (set : EntitySet)
    (cursor : Cursor) :
    (Draft.ofCursor set cursor).finish mapping root = .ok (cursor.target root set) := by
  have none : mapping.renderer.bindAliases .empty = .ok [] := by
    rw [Renderer.bindAliases, AliasList.empty, Renderer.bindPending]
  simp [Draft.finish, Draft.ofCursor, Cursor.target, none, bind, Except.bind, pure, Except.pure]

/-- The parts of a position map to the path of the position, at its type and without a warning,
and its expression renders to the same path without the entity set. -/
theorem walk_agrees (mapping : Mapping) (root : String) (set : EntitySet)
    (plain : mapping.schema.PlainNames) (clean : mapping.schema.FreeOfRaw)
    (typed : set.entityType.innermost.isRaw = false) (moves : List Cursor.Move)
    (symbol : RootSymbol) (named : symbol.context = some itContext) (start cursor : Cursor)
    (started : Cursor.start mapping.schema set.pathType symbol = .ok start)
    (walked : start.walk moves = .ok cursor) :
    ∃ target, mapping.map root ⟨.entitySet set :: cursor.parts⟩ = ⟨[], .ok target⟩ ∧
      target.type = cursor.type ∧
      target.address.path =
        set.name ++ String.join (cursor.path.map fun step => "/" ++ step.name) ∧
      (cursor.path ≠ [] → ∃ text, (mapping.renderer.render cursor.toExpr).outcome = .ok text ∧
        target.address.path = set.name ++ "/" ++ text) ∧
      target.accept = match cursor.kind with
        | .count => .integer
        | .value => .raw
        | _ => .json := by
  have entity : set.pathType.innermost.isRaw = false := by
    unfold EntitySet.pathType
    split
    · exact typed
    · exact typed
  obtain ⟨sound, kind, _, origin⟩ := Cursor.start_sound entity started
  obtain ⟨steps, path, anchored, parts⟩ :=
    Draft.addParts_of_walk set plain clean (by rw [origin]) sound walked
  have traversed : cursor.path = steps := by rw [path, origin, List.nil_append]
  have drafted : mapping.draft ⟨.entitySet set :: cursor.parts⟩ =
      pure (Draft.ofCursor set cursor) := by
    rw [Mapping.draft, List.foldlM_cons, Draft.addPart_entitySet started, pure_bind,
      Cursor.parts, traversed, parts]
  have finished := Draft.finish_ofCursor mapping root set cursor
  refine ⟨cursor.target root set, ?mapped, rfl, ?path, ?rendered, ?accept⟩
  case mapped =>
    rw [Mapping.map, drafted, pure_bind, finished]
    rfl
  case path =>
    rw [Cursor.target, Text.joined_cons, List.map_map]
    rfl
  case rendered =>
    intro present
    have context : cursor.root.context = some Scope.it.context := by
      rw [anchored, origin]
      exact named
    have written := mapping.renderer.evaluate_path .it context present
    refine ⟨Text.joined "/" (cursor.path.map PathStep.name), ?_, ?_⟩
    · rw [Renderer.render, Cursor.toExpr, written, pure_bind]
      rfl
    · have names : cursor.path.map PathStep.name ≠ [] := by simpa using present
      simp [Cursor.target, Text.joined, String.intercalate_cons_of_ne_nil names]
  case accept =>
    rw [Cursor.target]
    cases cursor.kind <;> rfl

namespace Staff

def person : TypeRef := .named "Staff" "Person"

def manager : TypeRef := .named "Staff" "Manager"

def schema : Schema where
  types := [
    .complex { scope := "Staff", name := "Manager", base := some person },
    .complex {
      scope := "Staff"
      name := "Person"
      properties := .ofList [("Colleagues", ⟨.collection person, false, true⟩)] }]
  ordered := by decide

def me : EntitySet := (EntitySet.ofType "Main" "Me" person).asSingleton

def start : Cursor := ⟨schema, person, [], .ofType itContext person, .empty, .complex⟩

def managerCount : Cursor where
  schema := schema
  type := .int64
  path := [⟨"Colleagues", .navigation, .collection person⟩,
    ⟨"Staff.Manager", .cast, .collection manager⟩, ⟨"$count", .count, .int64⟩]
  root := .ofType itContext person
  aliases := .empty
  kind := .count

end Staff

theorem walk_agrees_manager_count :
    Cursor.start Staff.schema Staff.me.pathType (.ofType itContext Staff.person) =
        .ok Staff.start ∧
      Staff.start.walk [.property "Colleagues", .cast "Manager", .count] =
        .ok Staff.managerCount ∧
      ∃ target, Mapping.map { schema := Staff.schema } "http://svc"
          ⟨.entitySet Staff.me :: Staff.managerCount.parts⟩ = ⟨[], .ok target⟩ ∧
        target.type = .int64 ∧ target.accept = .integer ∧
        target.address.path = "Me/Colleagues/Staff.Manager/$count" := by
  have started : Cursor.start Staff.schema Staff.me.pathType (.ofType itContext Staff.person) =
      .ok Staff.start := by with_unfolding_all rfl
  have walked : Staff.start.walk [.property "Colleagues", .cast "Manager", .count] =
      .ok Staff.managerCount := by with_unfolding_all rfl
  have plain : Staff.schema.PlainNames := by
    unfold Schema.PlainNames
    decide
  have clean : Staff.schema.FreeOfRaw := by
    constructor
    · decide
    · decide
  obtain ⟨target, mapped, type, path, _, accept⟩ :=
    walk_agrees { schema := Staff.schema } "http://svc" Staff.me plain clean rfl _
      (.ofType itContext Staff.person) rfl Staff.start Staff.managerCount started walked
  exact ⟨started, walked, target, mapped, type, accept, path⟩

end ODataRequest
