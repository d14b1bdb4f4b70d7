import ODataRequest.Proofs.FunctionArguments
import Mathlib.Data.List.Dedup
namespace ODataRequest

theorem concat_prefix_cons {α : Type} {before rest : List α} {a head : α} :
    before ++ [a] <+: head :: rest ↔
      before = [] ∧ a = head ∨ ∃ tail, before = head :: tail ∧ tail ++ [a] <+: rest := by
  cases before with
  | nil => simp
  | cons first tail =>
    rw [List.cons_append, List.cons_prefix_cons]
    constructor
    · rintro ⟨rfl, earlier⟩
      exact .inr ⟨tail, rfl, earlier⟩
    · rintro (⟨nothing, _⟩ | ⟨_, same, earlier⟩)
      · cases nothing
      · cases same
        exact ⟨rfl, earlier⟩

namespace Mapping

inductive Given (mapping : Mapping) (parts : List ResourcePart) : FunctionParameter → Value → Prop
  | argument {before : List ResourcePart} {name : String} {arguments : List (String × Value)}
      {draft : Draft} {set : EntitySet} {type : TypeRef} {f : BoundFunction}
      {p : FunctionParameter} {value : Value} :
      before ++ [.function name arguments] <+: parts →
      (mapping.draft ⟨before⟩).outcome = .ok draft → draft.entitySet = some set →
      draft.type = some type → set.boundFunction type name = .ok f → p ∈ f.parameters →
      (p.name, value) ∈ arguments → Given mapping parts p value

/-- The parts of a path that leads on at every part, with calls whose arguments match the
parameters one to one and serialize as these ask. -/
structure Passable (mapping : Mapping) (parts : List ResourcePart) : Prop where
  path : ∀ part ∈ parts, part.isQuery = false
  rooted : ∃ set, .entitySet set ∈ parts
  others : ∀ before part draft, before ++ [part] <+: parts → Draft.Plain part →
    (mapping.draft ⟨before⟩).outcome = .ok draft →
    ∃ draft', (Draft.addPart mapping draft part).outcome = .ok draft'
  calls : ∀ before name arguments draft, before ++ [.function name arguments] <+: parts →
    (mapping.draft ⟨before⟩).outcome = .ok draft →
    ∃ set type f, draft.terminal = none ∧ draft.entitySet = some set ∧ draft.type = some type ∧
      set.boundFunction type name = .ok f ∧
      (arguments.map Prod.fst).Perm (f.parameters.map FunctionParameter.name)
  literals : ∀ p value, mapping.Given parts p value →
    ∃ text, mapping.serializer mapping.schema value p.type = .ok text

section Calls

variable {mapping : Mapping} {parts before : List ResourcePart} {draft : Draft} {param : Alias}

theorem Passable.reached (passable : mapping.Passable parts) (earlier : before <+: parts) :
    ∃ draft, (mapping.draft ⟨before⟩).outcome = .ok draft := by
  -- What a part needs is known of the draft that the parts before it lead to.
  induction before using List.reverseRecOn with
  | nil => exact ⟨_, rfl⟩
  | append_singleton before part ih =>
    obtain ⟨draft, begun⟩ := ih ((List.prefix_append _ _).trans earlier)
    have added : ∃ draft', (Draft.addPart mapping draft part).outcome = .ok draft' := by
      cases part with
      | query clauses => cases passable.path (.query clauses) (earlier.subset (by simp))
      | function name arguments =>
        obtain ⟨set, type, f, opened, chosen, typed, found, same⟩ :=
          passable.calls before name arguments draft earlier begun
        rw [Draft.addPart_function opened typed]
        refine (Draft.addFunction_isOk chosen found).mpr ⟨?_, fun p member => ?_⟩
        · simpa using same.length_eq
        · exact same.mem_iff.mpr (List.mem_map_of_mem member)
      | _ => exact passable.others before _ draft earlier trivial begun
    obtain ⟨draft', added⟩ := added
    rw [draft_concat]
    exact ⟨draft', Logged.outcome_bind_eq_ok.mpr ⟨draft, begun, added⟩⟩

theorem clauses_of_path (path : ∀ part ∈ parts, part.isQuery = false) :
    ResourceParts.clauses ⟨parts⟩ = [] := by
  refine List.flatMap_eq_nil_iff.mpr fun part member => ?_
  cases part with
  | query clauses => cases path _ member
  | _ => rfl

theorem gathered_of_path (path : ∀ part ∈ parts, part.isQuery = false)
    (reached : (mapping.draft ⟨parts⟩).outcome = .ok draft) :
    Draft.Gathered mapping parts [] draft := by
  have none_asked : parts.flatMap ResourcePart.clauses = [] := clauses_of_path path
  have numbered : Draft.Numbered mapping (parts.flatMap ResourcePart.clauses) := by
    rw [none_asked]
    exact fun _ member => absurd member List.not_mem_nil
  exact none_asked ▸ Draft.gathered_draft reached numbered

theorem given_of_argument (argument : mapping.Argument parts param) :
    ∃ p value, mapping.Given parts p value ∧ param.name = aliasName p.name ∧
      param.payload = .constant value p.type := by
  cases argument with
  | argument place earlier reached chosen typed bound member found =>
    exact ⟨_, _, .argument earlier reached chosen typed bound member (mem_of_lookupNamed found),
      rfl, rfl⟩

theorem argument_of_given {p : FunctionParameter} {value : Value}
    (given : mapping.Given parts p value) :
    ∃ other, mapping.Given parts p other ∧
      mapping.Argument parts (.create (.argument 0) p.name (.constant other p.type)) := by
  cases given with
  | argument earlier reached chosen typed bound member present =>
    obtain ⟨other, found⟩ := lookupNamed_isSome.mpr (List.mem_map_of_mem present)
    exact ⟨other,
      .argument earlier reached chosen typed bound member (mem_of_lookupNamed found),
      .argument 0 earlier reached chosen typed bound member found⟩

theorem aliasText_constant {renderer : Renderer} {value : Value} {type : TypeRef}
    (payload : param.payload = .constant value type) :
    renderer.aliasText param = .ofExcept (renderer.serializer renderer.schema value type) := by
  unfold Renderer.aliasText
  rw [payload]

/-- No two values under one name have different literals. -/
def Agreeing (mapping : Mapping) (parts : List ResourcePart) : Prop :=
  ∀ p value p' value', mapping.Given parts p value → mapping.Given parts p' value' →
    aliasName p.name = aliasName p'.name →
    mapping.serializer mapping.schema value p.type =
      mapping.serializer mapping.schema value' p'.type

def spelled (mapping : Mapping) (param : Alias) : String × String :=
  (param.name, (mapping.renderer.aliasText param).outcome.toOption.getD "")

theorem covered_of_agreeing (passable : mapping.Passable parts) (agreeing : mapping.Agreeing parts)
    (given : ∀ param ∈ draft.aliases.params, mapping.Argument parts param) :
    ∃ listed, Renderer.Covered mapping.renderer draft.aliases.params listed ∧
      (listed.map Prod.fst).Nodup := by
  have written : ∀ param ∈ draft.aliases.params, ∃ p value, mapping.Given parts p value ∧
      param.name = aliasName p.name ∧ ∃ text,
        mapping.serializer mapping.schema value p.type = .ok text ∧
        mapping.renderer.aliasText param = ⟨[], .ok text⟩ := by
    intro param member
    obtain ⟨p, value, given, named, payload⟩ := given_of_argument (given param member)
    obtain ⟨text, serialized⟩ := passable.literals p value given
    refine ⟨p, value, given, named, text, serialized, ?_⟩
    rw [aliasText_constant payload]
    exact congrArg Traced.ofExcept serialized
  -- Arguments are written as literals, which lead to no further alias.
  have roots : ∀ param, Renderer.Reached mapping.renderer draft.aliases.params param →
      param ∈ draft.aliases.params := by
    intro param reached
    induction reached with
    | root member => exact member
    | met _ _ meets ih =>
      obtain ⟨_, _, _, _, _, _, rendered⟩ := written _ ih
      rw [rendered] at meets
      cases meets
  refine ⟨(draft.aliases.params.map mapping.spelled).dedup, ?_, ?_⟩
  · intro param reached
    have member := roots param reached
    obtain ⟨_, _, _, _, text, _, rendered⟩ := written param member
    refine ⟨text, by rw [rendered], List.mem_dedup.mpr (List.mem_map.mpr ⟨param, member, ?_⟩)⟩
    rw [spelled, rendered]
    rfl
  · apply List.Nodup.map_on _ (List.nodup_dedup _)
    intro pair member pair' member' same
    rcases List.mem_map.mp (List.mem_dedup.mp member) with ⟨param, present, rfl⟩
    rcases List.mem_map.mp (List.mem_dedup.mp member') with ⟨param', present', rfl⟩
    obtain ⟨p, value, first, named, text, serialized, rendered⟩ := written param present
    obtain ⟨p', value', second, named', text', serialized', rendered'⟩ := written param' present'
    have name : aliasName p.name = aliasName p'.name := by
      rw [← named, ← named']
      exact same
    have literal := agreeing p value p' value' first second name
    rw [serialized, serialized'] at literal
    cases literal
    rw [spelled, spelled, rendered, rendered', named, named', name]

/-- A path with calls is accepted, with every argument bound to its own literal, exactly if
arguments whose aliases have one name have one literal. -/
theorem calls_compose_iff {mapping : Mapping} {parts : List ResourcePart} (root : String)
    (passable : mapping.Passable parts) :
    (∃ target, (mapping.map root ⟨parts⟩).outcome = .ok target ∧
        (target.address.query.map Prod.fst).Nodup ∧
        ∀ p value, mapping.Given parts p value → ∃ text,
          mapping.serializer mapping.schema value p.type = .ok text ∧
          (aliasName p.name, text) ∈ target.address.query) ↔
      mapping.Agreeing parts := by
  constructor
  · rintro ⟨target, -, distinct, bound⟩ p value p' value' first second name
    obtain ⟨text, serialized, present⟩ := bound p value first
    obtain ⟨text', serialized', present'⟩ := bound p' value' second
    rw [← name] at present'
    cases List.inj_on_of_nodup_map distinct present present' rfl
    rw [serialized, serialized']
  · intro agreeing
    obtain ⟨draft, reached⟩ := passable.reached List.prefix_rfl
    have gathered := gathered_of_path passable.path reached
    have unasked : draft.query = [] := List.forall₂_nil_left_iff.mp gathered.pairs
    have given : ∀ param ∈ draft.aliases.params, mapping.Argument parts param := by
      intro param member
      rcases gathered.origin param member with ⟨_, none_asked, _⟩ | argument
      · cases none_asked
      · exact argument
    obtain ⟨listed, covered, unique⟩ := covered_of_agreeing passable agreeing given
    obtain ⟨set, begun⟩ := passable.rooted
    obtain ⟨type, typed⟩ := (Draft.rooted_draft reached begun).typed
    obtain ⟨bindings, _, finished⟩ := @Draft.finish_of_covered _ _ root _ _ _ typed
      gathered.distinct (List.Subset.refl draft.query) covered (by rw [unasked]; exact unique)
    have accepted : (mapping.map root ⟨parts⟩).outcome = .ok (draft.addressed root type bindings) :=
      Logged.outcome_bind_eq_ok.mpr ⟨draft, reached, finished⟩
    refine ⟨_, accepted, distinct_of_accepted accepted, fun p value present => ?_⟩
    obtain ⟨other, present', argument⟩ := argument_of_given present
    obtain ⟨param, member, named, payload⟩ := gathered.argued _ argument
    obtain ⟨text, rendered, bound⟩ := bound_of_mem reached finished member
    rw [aliasText_constant payload] at rendered
    rw [named] at bound
    exact ⟨text, (agreeing p value p other present present' rfl).trans rendered, bound⟩

end Calls

namespace Twice

def ranking (name : String) : BoundFunction :=
  ⟨"Orders", name, .collection Orders.order, [⟨"n", .int64⟩], .collection Orders.order⟩

def orders : EntitySet :=
  ((EntitySet.ofType "Main" "Orders" Orders.order).withFunction (ranking "Latest")).withFunction
    (ranking "Cheapest")

def counted (place : Nat) (n : Int) : Alias :=
  .create (.argument place) "n" (.constant (.int n) .int64)

def parts (latest cheapest : Int) : List ResourcePart :=
  [.entitySet orders, .function "Latest" [("n", .int latest)],
    .function "Cheapest" [("n", .int cheapest)]]

def begun (latest : Int) : Draft where
  aliases := ⟨[counted 0 latest]⟩
  container := some "Main"
  entitySet := some orders
  type := some (.collection Orders.order)
  segments := ["Orders", "Orders.Latest(n=@n)"]

theorem places {latest cheapest : Int} {before : List ResourcePart} {part : ResourcePart}
    (earlier : before ++ [part] <+: parts latest cheapest) :
    before = [] ∧ part = .entitySet orders ∨
      before = [.entitySet orders] ∧ part = .function "Latest" [("n", .int latest)] ∨
      before = [.entitySet orders, .function "Latest" [("n", .int latest)]] ∧
        part = .function "Cheapest" [("n", .int cheapest)] := by
  rcases concat_prefix_cons.mp earlier with first | ⟨tail, rfl, second⟩
  · exact .inl first
  rcases concat_prefix_cons.mp second with ⟨rfl, same⟩ | ⟨tail, rfl, third⟩
  · exact .inr (.inl ⟨rfl, same⟩)
  rcases concat_prefix_cons.mp third with ⟨rfl, same⟩ | ⟨tail, rfl, fourth⟩
  · exact .inr (.inr ⟨rfl, same⟩)
  · simp at fourth

theorem calls_cases {latest cheapest : Int} {before : List ResourcePart} {name : String}
    {arguments : List (String × Value)} {draft : Draft}
    (earlier : before ++ [.function name arguments] <+: parts latest cheapest)
    (reached : (Mapping.draft { schema := Orders.schema } ⟨before⟩).outcome = .ok draft) :
    draft.terminal = none ∧ draft.entitySet = some orders ∧
      draft.type = some (.collection Orders.order) ∧
      orders.boundFunction (.collection Orders.order) name = .ok (ranking name) ∧
      ∃ n, arguments = [("n", .int n)] ∧ (n = latest ∨ n = cheapest) := by
  rcases places earlier with ⟨_, same⟩ | ⟨rfl, same⟩ | ⟨rfl, same⟩
  · cases same
  · cases same
    have known : (Mapping.draft { schema := Orders.schema } ⟨[.entitySet orders]⟩).outcome =
        .ok (Draft.ofSet orders) := rfl
    cases known.symm.trans reached
    exact ⟨rfl, rfl, rfl, rfl, latest, rfl, .inl rfl⟩
  · cases same
    have known : (Mapping.draft { schema := Orders.schema }
        ⟨[.entitySet orders, .function "Latest" [("n", .int latest)]]⟩).outcome =
        .ok (begun latest) := rfl
    cases known.symm.trans reached
    exact ⟨rfl, rfl, rfl, rfl, cheapest, rfl, .inr rfl⟩

theorem given_cases {latest cheapest : Int} {p : FunctionParameter} {value : Value}
    (given : Mapping.Given { schema := Orders.schema } (parts latest cheapest) p value) :
    p = ⟨"n", .int64⟩ ∧ ∃ n, value = .int n ∧ (n = latest ∨ n = cheapest) := by
  cases given with
  | argument earlier reached chosen typed found member present =>
    obtain ⟨_, chosen', typed', found', n, rfl, which⟩ := calls_cases earlier reached
    cases chosen'.symm.trans chosen
    cases typed'.symm.trans typed
    cases found'.symm.trans found
    cases List.mem_singleton.mp member
    cases List.mem_singleton.mp present
    exact ⟨rfl, n, rfl, which⟩

theorem passable (latest cheapest : Int) :
    Mapping.Passable { schema := Orders.schema } (parts latest cheapest) where
  path := by simp [parts, ResourcePart.isQuery]
  rooted := ⟨orders, List.mem_cons_self⟩
  others before part draft earlier plain reached := by
    rcases places earlier with ⟨rfl, rfl⟩ | ⟨_, rfl⟩ | ⟨_, rfl⟩
    · cases reached
      exact ⟨_, rfl⟩
    · exact absurd plain id
    · exact absurd plain id
  calls before name arguments draft earlier reached := by
    obtain ⟨opened, chosen, typed, found, n, rfl, _⟩ := calls_cases earlier reached
    exact ⟨orders, _, ranking name, opened, chosen, typed, found, .refl _⟩
  literals p value given := by
    obtain ⟨rfl, n, rfl, _⟩ := given_cases given
    exact ⟨_, rfl⟩

end Twice

theorem calls_compose_twice :
    Mapping.Passable { schema := Orders.schema } (Twice.parts 3 3) ∧ ∃ target,
      (Mapping.map { schema := Orders.schema } "http://svc" ⟨Twice.parts 3 3⟩).outcome =
        .ok target ∧
      ("@n", "3") ∈ target.address.query := by
  have passable := Twice.passable 3 3
  have agreeing : Mapping.Agreeing { schema := Orders.schema } (Twice.parts 3 3) := by
    intro p value p' value' first second _
    obtain ⟨rfl, n, rfl, same⟩ := Twice.given_cases first
    obtain ⟨rfl, n', rfl, same'⟩ := Twice.given_cases second
    rw [or_self_iff.mp same, or_self_iff.mp same']
  obtain ⟨target, accepted, _, bound⟩ := (calls_compose_iff "http://svc" passable).mpr agreeing
  have given : Mapping.Given { schema := Orders.schema } (Twice.parts 3 3) ⟨"n", .int64⟩ (.int 3) :=
    .argument (show [.entitySet Twice.orders] ++ [_] <+: Twice.parts 3 3 from ⟨[_], rfl⟩)
      rfl rfl rfl rfl List.mem_cons_self List.mem_cons_self
  obtain ⟨text, serialized, present⟩ := bound _ _ given
  cases serialized
  exact ⟨passable, target, accepted, present⟩

/-- Two numbers of orders: both calls are fine, and the path is refused. -/
theorem calls_collide :
    Mapping.Passable { schema := Orders.schema } (Twice.parts 3 5) ∧
      (Mapping.map { schema := Orders.schema } "http://svc" ⟨Twice.parts 3 5⟩).outcome =
        .error (.repeatedClause "@n" "Give each @param alias a distinct name.") := by
  refine ⟨Twice.passable 3 5, ?_⟩
  let writer := Renderer.standard Orders.schema
  have three : writer.aliasText (Twice.counted 0 3) = ⟨[], .ok "3"⟩ := rfl
  have five : writer.aliasText (Twice.counted 1 5) = ⟨[], .ok "5"⟩ := rfl
  have refused : writer.bindAliases ⟨[Twice.counted 0 3, Twice.counted 1 5]⟩ =
      .error (.repeatedClause "@n" "Give each @param alias a distinct name.") := by
    calc writer.bindAliases ⟨[Twice.counted 0 3, Twice.counted 1 5]⟩
      _ = writer.bindPending [.argument 0, .argument 1]
            [Twice.counted 0 3, Twice.counted 1 5] [] := rfl
      _ = writer.bindPending [.argument 0, .argument 1] [Twice.counted 1 5] [("@n", "3")] :=
        Renderer.bindPending_cons three rfl
      _ = .error (.repeatedClause "@n" "Give each @param alias a distinct name.") := by
        rw [Renderer.bindPending, five]
        rfl
  let draft : Draft := { Twice.begun 3 with
    aliases := ⟨[Twice.counted 0 3, Twice.counted 1 5]⟩
    segments := ["Orders", "Orders.Latest(n=@n)", "Orders.Cheapest(n=@n)"] }
  have drafted : Mapping.draft { schema := Orders.schema } ⟨Twice.parts 3 5⟩ = pure draft := rfl
  have finished : draft.finish { schema := Orders.schema } "http://svc" =
      .error (.repeatedClause "@n" "Give each @param alias a distinct name.") := by
    rw [Draft.finish, show Mapping.renderer { schema := Orders.schema } = writer from rfl,
      show draft.aliases = ⟨[Twice.counted 0 3, Twice.counted 1 5]⟩ from rfl, refused]
    rfl
  rw [Mapping.map, drafted, pure_bind]
  exact finished

end Mapping
end ODataRequest
