import ODataRequest.Proofs.AliasBinding
import ODataRequest.Proofs.PathFrame
import Mathlib.Data.List.Forall2
import Mathlib.Data.List.Induction
namespace ODataRequest

def ResourcePart.clauses : ResourcePart → List Clause
  | .query clauses => clauses
  | _ => []

def ResourceParts.clauses (resource : ResourceParts) : List Clause :=
  resource.parts.flatMap ResourcePart.clauses

namespace Mapping

/-- Written by a clause, or by what an alias written refers to. -/
inductive Shown (mapping : Mapping) (clauses : List Clause) : Alias → Prop
  | clause {clause : Clause} {param : Alias} :
      clause ∈ clauses → Writes mapping.schema clause.expr param → Shown mapping clauses param
  | reference {other param : Alias} {e : Expr} :
      Shown mapping clauses other → other.payload = .reference e →
      Writes mapping.schema e param → Shown mapping clauses param

inductive Argument (mapping : Mapping) (parts : List ResourcePart) : Alias → Prop
  | argument {before : List ResourcePart} {function : String} {arguments : List (String × Value)}
      {draft : Draft} {set : EntitySet} {type : TypeRef} {f : BoundFunction}
      {p : FunctionParameter} {value : Value} (place : Nat) :
      before ++ [.function function arguments] <+: parts →
      (mapping.draft ⟨before⟩).outcome = .ok draft → draft.entitySet = some set →
      draft.type = some type → set.boundFunction type function = .ok f → p ∈ f.parameters →
      lookupNamed p.name arguments = some value →
      Argument mapping parts (.create (.argument place) p.name (.constant value p.type))

def ClausePair (mapping : Mapping) (clause : Clause) (pair : String × String) : Prop :=
  clause.key = .ok pair.1 ∧ ∃ text,
    (mapping.renderer.render clause.expr).outcome = .ok text ∧
    pair.2 = Draft.clauseText pair.1 text

theorem draft_concat (mapping : Mapping) (parts : List ResourcePart) (part : ResourcePart) :
    mapping.draft ⟨parts ++ [part]⟩ = (do
      let draft ← mapping.draft ⟨parts⟩
      Draft.addPart mapping draft part) := by
  rw [draft, draft, List.foldlM_append]
  congr 1
  funext draft
  simp

end Mapping

namespace Draft

/-- The place of an argument is its place among the aliases. -/
def Placed (params : List Alias) : Prop :=
  ∀ param ∈ params, ∀ place, param.id = .argument place → place < params.length

theorem push_placed {aliases : AliasList} (placed : Placed aliases.params) (name : String)
    (payload : AliasPayload) :
    let param := AliasOf.create (.argument aliases.params.length) name payload
    (aliases.push param).params = aliases.params ++ [param] ∧
      Placed (aliases.push param).params := by
  intro param
  have new : aliases.ids.contains param.id = false := by
    rw [← Bool.not_eq_true]
    intro known
    rcases List.mem_map.mp (List.contains_iff_mem.mp known) with ⟨other, member, same⟩
    exact absurd (placed other member _ same) (Nat.lt_irrefl _)
  have appended : (aliases.push param).params = aliases.params ++ [param] := by
    rw [AliasList.push, AliasList.pushAll, unmet, new]
    rfl
  refine ⟨appended, ?_⟩
  rw [appended]
  intro other member place same
  rw [List.length_append, List.length_singleton]
  rcases List.mem_append.mp member with member | member
  · have bound : place < aliases.params.length := placed other member place same
    omega
  · cases List.mem_singleton.mp member
    cases same
    omega

variable {mapping : Mapping} {draft draft' : Draft} {type : TypeRef} {f : BoundFunction}
  {arguments : List (String × Value)}

theorem addArgument_eq_ok {state state' : AliasList × List String} {p : FunctionParameter}
    (added : addArgument f arguments state p = .ok state') (placed : Placed state.1.params) :
    Placed state'.1.params ∧ ∃ value, lookupNamed p.name arguments = some value ∧
      state'.1.params = state.1.params ++
        [.create (.argument state.1.params.length) p.name (.constant value p.type)] := by
  unfold addArgument at added
  split at added
  · cases added
  · rename_i value found
    cases added
    rcases push_placed placed p.name (.constant value p.type) with ⟨appended, placed⟩
    exact ⟨placed, value, found, appended⟩

theorem addArguments_eq_ok {ps : List FunctionParameter} {state state' : AliasList × List String}
    (added : ps.foldlM (addArgument f arguments) state = .ok state')
    (placed : Placed state.1.params) :
    Placed state'.1.params ∧ ∃ created, state'.1.params = state.1.params ++ created ∧
      (∀ param ∈ created, ∃ p ∈ ps, ∃ value place, lookupNamed p.name arguments = some value ∧
        param = .create (.argument place) p.name (.constant value p.type)) ∧
      ∀ p ∈ ps, ∃ value place, lookupNamed p.name arguments = some value ∧
        .create (.argument place) p.name (.constant value p.type) ∈ created := by
  induction ps generalizing state with
  | nil =>
    cases added
    refine ⟨placed, [], by simp, ?_, ?_⟩
    · intro param member
      cases member
    · intro p member
      cases member
  | cons head rest ih =>
    rw [List.foldlM_cons] at added
    rcases bind_eq_ok.mp added with ⟨next, stepped, added⟩
    rcases addArgument_eq_ok stepped placed with ⟨placed, value, found, appended⟩
    rcases ih added placed with ⟨placed, created, later, sound, complete⟩
    refine ⟨placed, .create (.argument state.1.params.length) head.name
      (.constant value head.type) :: created, ?_, ?_, ?_⟩
    · rw [later, appended, List.append_assoc, List.singleton_append]
    · intro param member
      rcases List.mem_cons.mp member with rfl | member
      · exact ⟨head, List.mem_cons_self, value, _, found, rfl⟩
      · rcases sound param member with ⟨p, present, origin⟩
        exact ⟨p, List.mem_cons_of_mem _ present, origin⟩
    · intro p member
      rcases List.mem_cons.mp member with rfl | member
      · exact ⟨value, _, found, List.mem_cons_self⟩
      · rcases complete p member with ⟨value, place, found, present⟩
        exact ⟨value, place, found, List.mem_cons_of_mem _ present⟩

theorem addFunction_eq_ok {name : String}
    (added : draft.addFunction type name arguments = .ok draft') :
    ∃ set f aliases texts, draft.entitySet = some set ∧ set.boundFunction type name = .ok f ∧
      f.parameters.foldlM (addArgument f arguments) (draft.aliases, []) = .ok (aliases, texts) ∧
      draft' = { draft.addSegment (f.fullName ++ "(" ++ Text.joined "," texts ++ ")") f.result with
        aliases := aliases } := by
  unfold addFunction at added
  split at added
  · cases added
  · rename_i set chosen
    rcases bind_eq_ok.mp added with ⟨f, bound, added⟩
    split at added
    · cases added
    · rcases bind_eq_ok.mp added with ⟨⟨aliases, texts⟩, folded, same⟩
      cases same
      exact ⟨set, f, aliases, texts, chosen, bound, folded, rfl⟩

theorem addPair_eq_ok {key text : String} :
    draft.addPair key text = .ok draft' ↔ key ∉ draft.query.map Prod.fst ∧
      draft' = { draft with query := draft.query ++ [(key, text)] } := by
  have known : (draft.query.any fun pair => pair.1 == key) = true ↔
      key ∈ draft.query.map Prod.fst := by
    simp
  unfold addPair
  split
  · rename_i present
    simp [known.mp present]
  · rename_i absent
    have new : key ∉ draft.query.map Prod.fst := fun member => absent (known.mpr member)
    rw [Except.ok.injEq, eq_comm]
    exact (and_iff_right new).symm

theorem addClause_eq_ok {clause : Clause} :
    addClause mapping draft clause = .ok draft' ↔ ∃ pair, mapping.ClausePair clause pair ∧
      pair.1 ∉ draft.query.map Prod.fst ∧ draft' = { draft with
        query := draft.query ++ [pair]
        aliases := draft.aliases.pushAll (mapping.renderer.render clause.expr).met } := by
  constructor
  · intro added
    unfold addClause at added
    rcases bind_eq_ok.mp added with ⟨key, keyed, added⟩
    rcases bind_eq_ok.mp added with ⟨text, rendered, added⟩
    rcases addPair_eq_ok.mp added with ⟨new, same⟩
    exact ⟨(key, clauseText key text), ⟨keyed, text, rendered, rfl⟩, new, same⟩
  · rintro ⟨⟨key, written⟩, ⟨keyed, text, rendered, same⟩, new, rfl⟩
    dsimp only at keyed same new
    subst same
    unfold addClause
    refine bind_eq_ok.mpr ⟨key, keyed, bind_eq_ok.mpr ⟨text, rendered, ?_⟩⟩
    exact addPair_eq_ok.mpr ⟨new, rfl⟩

/-- The draft after some parts: where its aliases are from, which it has, and its pairs. -/
structure Gathered (mapping : Mapping) (parts : List ResourcePart) (clauses : List Clause)
    (draft : Draft) : Prop where
  placed : Placed draft.aliases.params
  origin : ∀ param ∈ draft.aliases.params,
    (∃ clause ∈ clauses, Writes mapping.schema clause.expr param) ∨ mapping.Argument parts param
  known : ∀ clause ∈ clauses, ∀ param, Writes mapping.schema clause.expr param →
    param.id ∈ draft.aliases.ids
  argued : ∀ param, mapping.Argument parts param →
    ∃ other ∈ draft.aliases.params, other.name = param.name ∧ other.payload = param.payload
  pairs : List.Forall₂ mapping.ClausePair clauses draft.query
  distinct : (draft.query.map Prod.fst).Nodup

variable {parts : List ResourcePart} {clauses : List Clause} {param : Alias}

theorem argument_mono {parts' : List ResourcePart} (longer : parts <+: parts')
    (argument : mapping.Argument parts param) : mapping.Argument parts' param := by
  cases argument with
  | argument place earlier reached chosen typed bound member found =>
    exact .argument place (earlier.trans longer) reached chosen typed bound member found

theorem not_argument_nil : ¬mapping.Argument [] param := by
  intro argument
  cases argument with
  | argument place earlier =>
    have nothing := List.prefix_nil.mp earlier
    simp at nothing

theorem argument_concat {part : ResourcePart}
    (argument : mapping.Argument (parts ++ [part]) param) :
    mapping.Argument parts param ∨ ∃ function arguments draft set type f p value place,
      part = .function function arguments ∧ (mapping.draft ⟨parts⟩).outcome = .ok draft ∧
      draft.entitySet = some set ∧ draft.type = some type ∧
      set.boundFunction type function = .ok f ∧ p ∈ f.parameters ∧
      lookupNamed p.name arguments = some value ∧
      param = .create (.argument place) p.name (.constant value p.type) := by
  cases argument with
  | argument place earlier reached chosen typed bound member found =>
    rcases List.prefix_concat_iff.mp earlier with whole | earlier
    · rcases List.append_inj' whole rfl with ⟨rfl, last⟩
      cases last
      exact .inr ⟨_, _, _, _, _, _, _, _, place, rfl, reached, chosen, typed, bound, member, found,
        rfl⟩
    · exact .inl (.argument place earlier reached chosen typed bound member found)

theorem gathered_start (mapping : Mapping) : Gathered mapping [] [] {} where
  placed _ member := absurd member List.not_mem_nil
  origin _ member := absurd member List.not_mem_nil
  known _ member := absurd member List.not_mem_nil
  argued _ argument := absurd argument not_argument_nil
  pairs := .nil
  distinct := List.nodup_nil

def Numbered (mapping : Mapping) (clauses : List Clause) : Prop :=
  ∀ clause ∈ clauses, ∀ param, Writes mapping.schema clause.expr param →
    ∃ number, param.id = .given number

theorem gathered_addClause {clause : Clause} (gathered : Gathered mapping parts clauses draft)
    (numbered : Numbered mapping [clause]) (added : addClause mapping draft clause = .ok draft') :
    Gathered mapping parts (clauses ++ [clause]) draft' := by
  rcases addClause_eq_ok.mp added with ⟨pair, paired, new, rfl⟩
  have ⟨text, rendered, _⟩ := paired.2
  have writes : ∀ param, param ∈ (mapping.renderer.render clause.expr).met ↔
      Writes mapping.schema clause.expr param :=
    fun param => Renderer.mem_met_render rendered
  constructor
  case placed =>
    intro param member place same
    rcases List.mem_append.mp member with member | member
    · have bound := gathered.placed param member place same
      exact Nat.lt_of_lt_of_le bound (List.length_append ▸ Nat.le_add_right _ _)
    · have written := (writes param).mp (mem_of_mem_unmet member)
      rcases numbered clause List.mem_cons_self param written with ⟨number, given⟩
      rw [given] at same
      cases same
  case origin =>
    intro param member
    rcases List.mem_append.mp member with member | member
    · rcases gathered.origin param member with ⟨earlier, present, written⟩ | argument
      · exact .inl ⟨earlier, List.mem_append_left _ present, written⟩
      · exact .inr argument
    · have written := (writes param).mp (mem_of_mem_unmet member)
      exact .inl ⟨clause, List.mem_append_right _ List.mem_cons_self, written⟩
  case known =>
    intro other member param written
    have ids : (draft.aliases.pushAll (mapping.renderer.render clause.expr).met).ids =
        draft.aliases.ids ++
          (unmet draft.aliases.ids (mapping.renderer.render clause.expr).met).map AliasOf.id :=
      List.map_append
    rw [ids]
    rcases List.mem_append.mp member with member | member
    · exact List.mem_append_left _ (gathered.known other member param written)
    · cases List.mem_singleton.mp member
      have present := id_known draft.aliases.ids ((writes param).mpr written)
      exact List.mem_append.mpr (List.mem_append.mp present).symm
  case argued =>
    intro param argument
    rcases gathered.argued param argument with ⟨other, present, same⟩
    exact ⟨other, List.mem_append_left _ present, same⟩
  case pairs =>
    exact List.rel_append gathered.pairs (.cons paired .nil)
  case distinct => exact distinct_append pair.2 gathered.distinct new

theorem gathered_addClauses {more : List Clause} (gathered : Gathered mapping parts clauses draft)
    (numbered : Numbered mapping more)
    (added : more.foldlM (addClause mapping) draft = .ok draft') :
    Gathered mapping parts (clauses ++ more) draft' := by
  induction more generalizing clauses draft with
  | nil =>
    cases added
    rw [List.append_nil]
    exact gathered
  | cons head rest ih =>
    rw [List.foldlM_cons] at added
    rcases bind_eq_ok.mp added with ⟨next, stepped, added⟩
    have head_numbered : Numbered mapping [head] := by
      intro clause member
      cases List.mem_singleton.mp member
      exact numbered head List.mem_cons_self
    have rest_numbered : Numbered mapping rest :=
      fun clause member => numbered clause (List.mem_cons_of_mem _ member)
    rw [List.append_cons]
    exact ih (gathered_addClause gathered head_numbered stepped) rest_numbered added

theorem gathered_framed {part : ResourcePart} (gathered : Gathered mapping parts clauses draft)
    (same : ∀ param, mapping.Argument (parts ++ [part]) param → mapping.Argument parts param)
    (framed : Framed draft draft') : Gathered mapping (parts ++ [part]) clauses draft' := by
  constructor
  case placed =>
    rw [framed.aliases]
    exact gathered.placed
  case origin =>
    rw [framed.aliases]
    intro param member
    rcases gathered.origin param member with written | argument
    · exact .inl written
    · exact .inr (argument_mono (List.prefix_append _ _) argument)
  case known =>
    rw [framed.aliases]
    exact gathered.known
  case argued =>
    rw [framed.aliases]
    intro param argument
    exact gathered.argued param (same param argument)
  case pairs =>
    rw [framed.query]
    exact gathered.pairs
  case distinct =>
    rw [framed.query]
    exact gathered.distinct

theorem gathered_addFunction {name : String} (gathered : Gathered mapping parts clauses draft)
    (reached : (mapping.draft ⟨parts⟩).outcome = .ok draft) (typed : draft.type = some type)
    (added : draft.addFunction type name arguments = .ok draft') :
    Gathered mapping (parts ++ [.function name arguments]) clauses draft' := by
  rcases addFunction_eq_ok added with ⟨set, f, aliases, texts, chosen, bound, folded, rfl⟩
  rcases addArguments_eq_ok folded gathered.placed with
    ⟨placed, created, appended, sound, complete⟩
  dsimp only at placed appended
  constructor
  case placed => exact placed
  case origin =>
    rw [appended]
    intro param member
    rcases List.mem_append.mp member with member | member
    · rcases gathered.origin param member with written | argument
      · exact .inl written
      · exact .inr (argument_mono (List.prefix_append _ _) argument)
    · rcases sound param member with ⟨p, present, value, place, found, rfl⟩
      exact .inr (.argument place (List.prefix_refl _) reached chosen typed bound present found)
  case known =>
    intro clause member param written
    rw [AliasList.ids, appended, List.map_append]
    exact List.mem_append_left _ (gathered.known clause member param written)
  case argued =>
    rw [appended]
    intro param argument
    rcases argument_concat argument with earlier | last
    · rcases gathered.argued param earlier with ⟨other, present, same⟩
      exact ⟨other, List.mem_append_left _ present, same⟩
    · rcases last with ⟨function, arguments', draft₁, set₁, type₁, f₁, p, value, place, part,
        reached₁, chosen₁, typed₁, bound₁, member, found, rfl⟩
      cases part
      rw [reached] at reached₁
      cases reached₁
      rw [chosen] at chosen₁
      cases chosen₁
      rw [typed] at typed₁
      cases typed₁
      rw [bound] at bound₁
      cases bound₁
      rcases complete p member with ⟨value₁, place₁, found₁, present⟩
      rw [found] at found₁
      cases found₁
      exact ⟨_, List.mem_append_right _ present, rfl, rfl⟩
  case pairs => exact gathered.pairs
  case distinct => exact gathered.distinct

theorem argument_of_concat {part : ResourcePart}
    (other : ∀ function arguments, part ≠ .function function arguments)
    (argument : mapping.Argument (parts ++ [part]) param) : mapping.Argument parts param := by
  rcases argument_concat argument with earlier | ⟨function, arguments, _, _, _, _, _, _, _, same, _⟩
  · exact earlier
  · exact absurd same (other function arguments)

theorem gathered_plain {part : ResourcePart} (gathered : Gathered mapping parts clauses draft)
    (plain : Plain part) (added : (addPart mapping draft part).outcome = .ok draft') :
    Gathered mapping (parts ++ [part]) (clauses ++ part.clauses) draft' := by
  have none_added : part.clauses = [] := by
    cases part with
    | query more => exact absurd plain id
    | _ => rfl
  have other : ∀ function arguments, part ≠ .function function arguments := by
    intro function arguments same
    rw [same] at plain
    exact plain
  rw [none_added, List.append_nil]
  apply gathered_framed gathered _ (framed_addPart plain added)
  intro param argument
  exact argument_of_concat other argument

theorem gathered_addPart {part : ResourcePart} (gathered : Gathered mapping parts clauses draft)
    (reached : (mapping.draft ⟨parts⟩).outcome = .ok draft)
    (numbered : Numbered mapping part.clauses)
    (added : (addPart mapping draft part).outcome = .ok draft') :
    Gathered mapping (parts ++ [part]) (clauses ++ part.clauses) draft' := by
  cases part with
  | query more =>
    have extended := gathered_addClauses gathered numbered added
    have unchanged : Framed draft' draft' := ⟨rfl, rfl⟩
    apply gathered_framed extended _ unchanged
    intro param argument
    exact argument_of_concat (fun _ _ same => by cases same) argument
  | function name arguments =>
    rcases addFunction_of_addPart added with ⟨type, typed, added⟩
    have function := gathered_addFunction gathered reached typed added
    exact (List.append_nil clauses).symm ▸ function
  | _ => exact gathered_plain gathered trivial added

theorem gathered_draft (reached : (mapping.draft ⟨parts⟩).outcome = .ok draft)
    (numbered : Numbered mapping (parts.flatMap ResourcePart.clauses)) :
    Gathered mapping parts (parts.flatMap ResourcePart.clauses) draft := by
  induction parts using List.reverseRecOn generalizing draft with
  | nil =>
    cases reached
    exact gathered_start mapping
  | append_singleton parts part ih =>
    have clauses_split : (parts ++ [part]).flatMap ResourcePart.clauses =
        parts.flatMap ResourcePart.clauses ++ part.clauses := by simp
    rw [clauses_split] at numbered ⊢
    rw [Mapping.draft_concat] at reached
    rcases Logged.outcome_bind_eq_ok.mp reached with ⟨earlier, reached, added⟩
    have earlier_numbered : Numbered mapping (parts.flatMap ResourcePart.clauses) :=
      fun clause member => numbered clause (List.mem_append_left _ member)
    have last_numbered : Numbered mapping part.clauses :=
      fun clause member => numbered clause (List.mem_append_right _ member)
    exact gathered_addPart (ih reached earlier_numbered) reached last_numbered added

theorem addPairs_eq_ok {pairs : List (String × String)}
    (distinct : (draft.query.map Prod.fst).Nodup) :
    pairs.foldlM (fun draft pair => draft.addPair pair.1 pair.2) draft = .ok draft' ↔
      ((draft.query ++ pairs).map Prod.fst).Nodup ∧
        draft' = { draft with query := draft.query ++ pairs } := by
  induction pairs generalizing draft with
  | nil =>
    rw [List.foldlM_nil, List.append_nil, and_iff_right distinct]
    constructor
    · intro same
      cases same
      rfl
    · rintro rfl
      rfl
  | cons head rest ih =>
    rw [List.foldlM_cons, bind_eq_ok]
    constructor
    · rintro ⟨next, stepped, added⟩
      rcases addPair_eq_ok.mp stepped with ⟨new, rfl⟩
      rw [List.append_cons]
      exact (ih (distinct_append _ distinct new)).mp added
    · rintro ⟨distinct', same⟩
      have new : head.1 ∉ draft.query.map Prod.fst := new_of_distinct distinct'
      rw [List.append_cons] at distinct' same
      exact ⟨_, addPair_eq_ok.mpr ⟨new, rfl⟩,
        (ih (distinct_append _ distinct new)).mpr ⟨distinct', same⟩⟩

def addressed (draft : Draft) (root : String) (type : TypeRef)
    (bindings : List (String × String)) : Target :=
  ⟨draft.accept, type, {
    root := root
    container := draft.container
    entitySet := draft.entitySet.map EntitySet.name
    path := Text.joined "/" draft.segments
    query := draft.query ++ bindings }⟩

theorem finish_eq_ok {root : String} {target : Target}
    (distinct : (draft.query.map Prod.fst).Nodup) :
    draft.finish mapping root = .ok target ↔ ∃ type bindings, draft.type = some type ∧
      mapping.renderer.bindAliases draft.aliases = .ok bindings ∧
      ((draft.query ++ bindings).map Prod.fst).Nodup ∧
      target = draft.addressed root type bindings := by
  unfold finish
  cases typed : draft.type with
  | none => simp
  | some type =>
    dsimp only
    constructor
    · intro finished
      rcases bind_eq_ok.mp finished with ⟨bindings, bound, finished⟩
      rcases bind_eq_ok.mp finished with ⟨final, added, same⟩
      cases same
      rcases (addPairs_eq_ok distinct).mp added with ⟨distinct', rfl⟩
      exact ⟨type, bindings, rfl, bound, distinct', rfl⟩
    · rintro ⟨_, bindings, same, bound, distinct', rfl⟩
      cases same
      have added := (addPairs_eq_ok distinct).mpr ⟨distinct', rfl⟩
      exact bind_eq_ok.mpr ⟨bindings, bound, bind_eq_ok.mpr ⟨_, added, rfl⟩⟩

end Draft

namespace Mapping

/-- An identity stands for one alias object, so what is met twice under it is the same alias. The
objects of clauses are made by authors; those of arguments are made while the path is written. -/
structure Identified (mapping : Mapping) (clauses : List Clause) : Prop where
  numbered : ∀ param, mapping.Shown clauses param → ∃ number, param.id = .given number
  single : ∀ param other, mapping.Shown clauses param → mapping.Shown clauses other →
    param.id = other.id → param = other

section Monotone

variable {mapping : Mapping} {clauses clauses' : List Clause} {param : Alias}

theorem shown_mono (more : clauses ⊆ clauses') (shown : mapping.Shown clauses param) :
    mapping.Shown clauses' param := by
  induction shown with
  | clause present written => exact .clause (more present) written
  | reference _ refers written ih => exact .reference ih refers written

theorem identified_mono (more : clauses ⊆ clauses') (identified : mapping.Identified clauses') :
    mapping.Identified clauses where
  numbered param shown := identified.numbered param (shown_mono more shown)
  single param other shown other_shown :=
    identified.single param other (shown_mono more shown) (shown_mono more other_shown)

end Monotone

/-- Written in the address, as a part of a clause, of another alias or of the path. -/
def Carries (mapping : Mapping) (resource : ResourceParts) (param : Alias) : Prop :=
  mapping.Shown resource.clauses param ∨ mapping.Argument resource.parts param

section Binding

variable {mapping : Mapping} {resource : ResourceParts} {draft : Draft} {param : Alias}

theorem gathered_of_identified (reached : (mapping.draft resource).outcome = .ok draft)
    (identified : mapping.Identified resource.clauses) :
    Draft.Gathered mapping resource.parts resource.clauses draft := by
  apply Draft.gathered_draft reached
  intro clause present param written
  exact identified.numbered param (.clause present written)

theorem argument_constant (argument : mapping.Argument resource.parts param) :
    (∃ place, param.id = .argument place) ∧ ∃ v type, param.payload = .constant v type := by
  cases argument with
  | argument place => exact ⟨⟨place, rfl⟩, _, _, rfl⟩

theorem carries_of_reached
    (gathered : Draft.Gathered mapping resource.parts resource.clauses draft)
    (reached : Renderer.Reached mapping.renderer draft.aliases.params param) :
    mapping.Carries resource param := by
  induction reached with
  | root member =>
    rcases gathered.origin _ member with ⟨clause, present, written⟩ | argument
    · exact .inl (.clause present written)
    · exact .inr argument
  | met _ rendered met ih =>
    rcases (Renderer.mem_met_aliasText rendered).mp met with ⟨e, refers, written⟩
    rcases ih with shown | argument
    · exact .inl (.reference shown refers written)
    · rcases argument_constant argument with ⟨_, v, type, constant⟩
      rw [constant] at refers
      cases refers

variable {done : List Alias} {met : List AliasId} {bindings : List (String × String)}

theorem done_of_id (gathered : Draft.Gathered mapping resource.parts resource.clauses draft)
    (identified : mapping.Identified resource.clauses)
    (binding : Renderer.Binding mapping.renderer draft.aliases.params done [] met bindings)
    (shown : mapping.Shown resource.clauses param) {other : Alias}
    (present : other ∈ done ∨ other ∈ []) (same : other.id = param.id) : param ∈ done := by
  have written : other ∈ done := present.resolve_right List.not_mem_nil
  rcases carries_of_reached gathered (binding.reached other present) with other_shown | argument
  · rw [identified.single param other shown other_shown same.symm]
    exact written
  · rcases argument_constant argument with ⟨⟨place, placed⟩, _⟩
    rcases identified.numbered param shown with ⟨number, given⟩
    rw [placed, given] at same
    cases same

theorem done_of_shown (gathered : Draft.Gathered mapping resource.parts resource.clauses draft)
    (identified : mapping.Identified resource.clauses)
    (binding : Renderer.Binding mapping.renderer draft.aliases.params done [] met bindings)
    (shown : mapping.Shown resource.clauses param) : param ∈ done := by
  induction shown with
  | clause present written =>
    have known := gathered.known _ present _ written
    rcases List.mem_map.mp known with ⟨other, member, same⟩
    have shown := Shown.clause present written
    exact done_of_id gathered identified binding shown (binding.rooted other member) same
  | reference shown refers written ih =>
    rcases binding.written _ ih with ⟨text, rendered, _⟩
    have meets := (Renderer.mem_met_aliasText rendered).mpr ⟨_, refers, written⟩
    rcases binding.known _ (binding.closed _ ih _ meets) with ⟨other, present, same⟩
    exact done_of_id gathered identified binding (.reference shown refers written) present same

theorem bound_of_carries (gathered : Draft.Gathered mapping resource.parts resource.clauses draft)
    (identified : mapping.Identified resource.clauses)
    (bound : mapping.renderer.bindAliases draft.aliases = .ok bindings)
    (carried : mapping.Carries resource param) :
    ∃ text, (mapping.renderer.aliasText param).outcome = .ok text ∧
      (param.name, text) ∈ bindings := by
  rcases Renderer.bindAliases_binding bound with ⟨done, met, binding⟩
  rcases carried with shown | argument
  · exact binding.written param (done_of_shown gathered identified binding shown)
  · rcases gathered.argued param argument with ⟨other, present, name, payload⟩
    have written : other ∈ done :=
      (binding.rooted other present).resolve_right List.not_mem_nil
    rcases binding.written other written with ⟨text, rendered, paired⟩
    rw [Renderer.aliasText_of_payload payload] at rendered
    rw [name] at paired
    exact ⟨text, rendered, paired⟩

theorem carries_of_bound (gathered : Draft.Gathered mapping resource.parts resource.clauses draft)
    (bound : mapping.renderer.bindAliases draft.aliases = .ok bindings) {name text : String}
    (paired : (name, text) ∈ bindings) :
    ∃ param, mapping.Carries resource param ∧ param.name = name ∧
      (mapping.renderer.aliasText param).outcome = .ok text := by
  rcases Renderer.bindAliases_binding bound with ⟨done, met, binding⟩
  rcases binding.origin (name, text) paired with ⟨param, written, named, rendered⟩
  have carried := carries_of_reached gathered (binding.reached param (.inl written))
  exact ⟨param, carried, named, rendered⟩

end Binding

theorem map_eq_ok {mapping : Mapping} {root : String} {resource : ResourceParts} {target : Target}
    (accepted : (mapping.map root resource).outcome = .ok target)
    (identified : mapping.Identified resource.clauses) :
    ∃ draft type bindings, (mapping.draft resource).outcome = .ok draft ∧
      Draft.Gathered mapping resource.parts resource.clauses draft ∧ draft.type = some type ∧
      mapping.renderer.bindAliases draft.aliases = .ok bindings ∧
      ((draft.query ++ bindings).map Prod.fst).Nodup ∧
      target = draft.addressed root type bindings := by
  rcases Logged.outcome_bind_eq_ok.mp accepted with ⟨draft, reached, finished⟩
  have gathered : Draft.Gathered mapping resource.parts resource.clauses draft :=
    gathered_of_identified reached identified
  rcases (Draft.finish_eq_ok gathered.distinct).mp finished with ⟨type, bindings, ended⟩
  exact ⟨draft, type, bindings, reached, gathered, ended⟩

theorem map_clause {mapping : Mapping} {set : EntitySet} {clause : Clause} {key text : String}
    (keyed : clause.key = .ok key) (rendered : mapping.renderer.render clause.expr = pure text)
    (root : String) :
    (mapping.map root ⟨[.entitySet set] ++ [.query [clause]]⟩).outcome = .ok (Draft.addressed
      { Draft.ofSet set with query := [(key, Draft.clauseText key text)] } root set.pathType
      []) := by
  let pairs := [(key, Draft.clauseText key text)]
  let asked : Draft := { Draft.ofSet set with query := pairs }
  have added : Draft.addClause mapping (Draft.ofSet set) clause = .ok asked := by
    rw [Draft.addClause, keyed, rendered]
    rfl
  have distinct : (asked.query.map Prod.fst).Nodup := by simp [asked, pairs]
  have finished : asked.finish mapping root = .ok (asked.addressed root set.pathType []) :=
    (Draft.finish_eq_ok distinct).mpr
      ⟨_, [], rfl, Renderer.bindAliases_empty _, (List.append_nil pairs).symm ▸ distinct, rfl⟩
  rw [map, draft_concat, Draft.draft_ofSet, pure_bind, Draft.addPart, List.foldlM_cons, added]
  exact congrArg Logged.outcome (congrArg Logged.ofExcept finished)

/-- The query of an accepted address holds a pair for every clause, in order and under the key
of the clause, then a pair for every alias that is written, with the text that it stands for;
and no key twice. -/
theorem query_exact {mapping : Mapping} {root : String} {resource : ResourceParts}
    {target : Target} (accepted : (mapping.map root resource).outcome = .ok target)
    (identified : mapping.Identified resource.clauses) :
    ∃ clausePairs aliasPairs, target.address.query = clausePairs ++ aliasPairs ∧
      List.Forall₂ mapping.ClausePair resource.clauses clausePairs ∧
      (target.address.query.map Prod.fst).Nodup ∧
      (∀ param, mapping.Carries resource param → ∃ text,
        (mapping.renderer.aliasText param).outcome = .ok text ∧
        (param.name, text) ∈ aliasPairs) ∧
      ∀ name text, (name, text) ∈ aliasPairs → ∃ param, mapping.Carries resource param ∧
        param.name = name ∧ (mapping.renderer.aliasText param).outcome = .ok text := by
  rcases map_eq_ok accepted identified with
    ⟨draft, type, bindings, reached, gathered, typed, bound, distinct, rfl⟩
  refine ⟨draft.query, bindings, rfl, gathered.pairs, distinct, ?_, ?_⟩
  · exact fun param carried => bound_of_carries gathered identified bound carried
  · exact fun name text paired => carries_of_bound gathered bound paired

namespace Orders

def order : TypeRef := .named "Orders" "Order"

def schema : Schema where
  types := [
    .complex {
      scope := "Orders"
      name := "Order"
      properties := .ofList [("Price", ⟨.int64, false, false⟩)] }]
  ordered := by decide

def orders : EntitySet :=
  (EntitySet.ofType "Main" "Orders" order).withFunction
    ⟨"Orders", "Latest", .collection order, [⟨"n", .int64⟩], .collection order⟩

def counted : Alias := .create (.argument 0) "n" (.constant (.int 3) .int64)

def limit : Alias := .create (.given 0) "limit" (.constant (.int 9) .int64)

def bound : Alias := .create (.given 1) "bound" (.reference (.ofAlias limit))

def below : Signature :=
  .declared "lt" .filter [.operand "left" .any, .operand "right" .any] (.type .boolean)
    (.between "lt")

def cheap : Call where
  receiver := none
  args := [
    (.member (some (.root (.ofType itContext order))) "Price" .int64, .operand "left" .any),
    (.ofAlias bound, .operand "right" .any)]
  signature := below
  bindings := .empty

def path : List ResourcePart := [.entitySet orders, .function "Latest" [("n", .int 3)]]

def latest : ResourceParts := ⟨path ++ [.query [⟨.call cheap⟩]]⟩

def latestTarget : Target where
  accept := .json
  type := .collection order
  address := {
    root := "http://svc"
    container := some "Main"
    entitySet := some "Orders"
    path := "Orders/Orders.Latest(n=@n)"
    query := [("$filter", "Price lt @bound"), ("@n", "3"), ("@bound", "@limit"), ("@limit", "9")] }

def draft : Draft where
  aliases := ⟨[counted]⟩
  container := some "Main"
  entitySet := some orders
  type := some (.collection order)
  segments := ["Orders", "Orders.Latest(n=@n)"]

def filtered : Draft :=
  { draft with
    aliases := ⟨draft.aliases.params ++ [bound]⟩
    query := [("$filter", "Price lt @bound")] }

theorem plain_cheap : ∀ argument ∈ cheap.args, argument.2.directiveKind? = none := by
  simp [cheap, Parameter.operand, Parameter.directiveKind?]

theorem writes_cheap {param : Alias} (written : Writes schema (.call cheap) param) :
    param = bound := by
  rcases (Renderer.writes_call_iff (CallOf.reduce_of_plain plain_cheap)).mp written with
    ⟨e, present, _⟩ | ⟨argument, member, written⟩
  · cases present
  · simp only [cheap, List.mem_cons, List.not_mem_nil, or_false] at member
    rcases member with rfl | rfl
    · cases written with
      | parent written => cases written
    · cases written
      rfl

theorem identified_of_writes {clauses : List Clause} (writes : ∀ clause ∈ clauses, ∀ param,
    Writes schema clause.expr param → param = bound ∨ param = limit) :
    Mapping.Identified { schema := schema } clauses := by
  have known : ∀ param, Mapping.Shown { schema := schema } clauses param →
      param = bound ∨ param = limit := by
    intro param shown
    induction shown with
    | clause present written => exact writes _ present _ written
    | reference _ refers written ih =>
      rcases ih with rfl | rfl
      · cases refers
        cases written
        exact .inr rfl
      · cases refers
  constructor
  · intro param shown
    rcases known param shown with rfl | rfl
    · exact ⟨1, rfl⟩
    · exact ⟨0, rfl⟩
  · intro param other shown other_shown same
    rcases known param shown with rfl | rfl
    · rcases known other other_shown with rfl | rfl
      · rfl
      · cases same
    · rcases known other other_shown with rfl | rfl
      · cases same
      · rfl

theorem render_cheap :
    (Renderer.standard schema).render (.call cheap) = ⟨[bound], .ok "Price lt @bound"⟩ := by
  have price (p : Parameter) (plain : p.directiveKind? = none) :
      (Renderer.standard schema).operand cheap .it
        (.member (some (.root (.ofType itContext order))) "Price" .int64, p) =
        ⟨[], .ok (some (.ofType itContext order), "Price")⟩ := by
    rw [Renderer.operand, plain, Renderer.evaluate_member, Renderer.evaluate_root]
    rfl
  have reference (p : Parameter) (plain : p.directiveKind? = none) :
      (Renderer.standard schema).operand cheap .it (.ofAlias bound, p) =
        ⟨[bound], .ok (none, "@bound")⟩ := by
    rw [Renderer.operand, plain, Expr.ofAlias, Renderer.evaluate_aliased]
    rfl
  have operands : cheap.args.mapM ((Renderer.standard schema).operand cheap .it) =
      ⟨[bound], .ok [(some (.ofType itContext order), "Price"), (none, "@bound")]⟩ := by
    rw [show cheap.args = [_, _] from rfl, List.mapM_cons, List.mapM_cons, price _ rfl,
      reference _ rfl]
    rfl
  rw [Renderer.render, Renderer.evaluate_call (CallOf.reduce_of_plain plain_cheap), operands]
  rfl

theorem aliasText_limit : (Renderer.standard schema).aliasText limit = ⟨[], .ok "9"⟩ := rfl

theorem aliasText_bound :
    (Renderer.standard schema).aliasText bound = ⟨[limit], .ok "@limit"⟩ :=
  (Renderer.standard schema).render_ofAlias limit

theorem bindAliases_filtered :
    (Renderer.standard schema).bindAliases filtered.aliases =
      .ok [("@n", "3"), ("@bound", "@limit"), ("@limit", "9")] := by
  let writer := Renderer.standard schema
  have three : writer.aliasText counted = ⟨[], .ok "3"⟩ := rfl
  calc writer.bindAliases filtered.aliases
    _ = writer.bindPending [.argument 0, .given 1] [counted, bound] [] := rfl
    _ = writer.bindPending [.argument 0, .given 1] [bound] [("@n", "3")] :=
      Renderer.bindPending_cons three rfl
    _ = writer.bindPending [.given 0, .argument 0, .given 1] [limit]
          [("@n", "3"), ("@bound", "@limit")] := Renderer.bindPending_cons aliasText_bound rfl
    _ = writer.bindPending [.given 0, .argument 0, .given 1] []
          [("@n", "3"), ("@bound", "@limit"), ("@limit", "9")] :=
      Renderer.bindPending_cons aliasText_limit rfl
    _ = .ok [("@n", "3"), ("@bound", "@limit"), ("@limit", "9")] := by
      rw [Renderer.bindPending]

theorem finish_filtered :
    filtered.finish { schema := schema } "http://svc" = .ok latestTarget := by
  rw [Draft.finish, show Mapping.renderer { schema := schema } = Renderer.standard schema from rfl,
    bindAliases_filtered]
  rfl

theorem map_latest :
    (Mapping.map { schema := schema } "http://svc" latest).outcome = .ok latestTarget := by
  have drafted : Mapping.draft { schema := schema } ⟨path⟩ = pure draft := rfl
  have clause : Draft.addClause { schema := schema } draft ⟨.call cheap⟩ = .ok filtered := by
    rw [Draft.addClause, show Mapping.renderer { schema := schema } = Renderer.standard schema from
      rfl, render_cheap]
    rfl
  rw [Mapping.map, latest, draft_concat, drafted, pure_bind, Draft.addPart, List.foldlM_cons,
    clause]
  change (Logged.ofExcept (Draft.finish _ filtered _)).outcome = _
  rw [finish_filtered]
  rfl

theorem identified_latest : Mapping.Identified { schema := schema } latest.clauses := by
  apply identified_of_writes
  intro clause member param written
  cases List.mem_singleton.mp member
  exact .inl (writes_cheap written)

end Orders

theorem query_exact_latest :
    (Mapping.map { schema := Orders.schema } "http://svc" Orders.latest).outcome =
        .ok Orders.latestTarget ∧
      Mapping.Identified { schema := Orders.schema } Orders.latest.clauses ∧
      ∃ clausePairs aliasPairs, Orders.latestTarget.address.query = clausePairs ++ aliasPairs ∧
        List.Forall₂ (Mapping.ClausePair { schema := Orders.schema }) Orders.latest.clauses
          clausePairs := by
  rcases query_exact Orders.map_latest Orders.identified_latest with
    ⟨clausePairs, aliasPairs, query, pairs, _⟩
  exact ⟨Orders.map_latest, Orders.identified_latest, clausePairs, aliasPairs, query, pairs⟩

end Mapping
end ODataRequest
