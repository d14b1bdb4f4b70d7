import ODataRequest.Proofs.ClauseOrder
import ODataRequest.Proofs.Expansion
import ODataRequest.Proofs.FilterTree
import Mathlib.Data.List.Infix
namespace ODataRequest

namespace Text

section Replacing

variable {pattern replacement chars : List Char}

theorem replaceFrom_of_absent (absent : ¬pattern <:+: chars) :
    replaceFrom pattern replacement 0 chars = chars := by
  induction chars with
  | nil => rfl
  | cons head rest ih =>
    have other : ¬pattern.isPrefixOf (head :: rest) = true := fun found =>
      absent (List.isPrefixOf_iff_prefix.mp found).isInfix
    have behind : ¬pattern <:+: rest := fun inside => absent (List.infix_cons inside)
    rw [replaceFrom, if_neg other, ih behind]

theorem length_replaceFrom_le (shorter : replacement.length < pattern.length) (skipped : Nat) :
    (replaceFrom pattern replacement skipped chars).length ≤ chars.length - skipped ∧
      (skipped = 0 → pattern <:+: chars →
        (replaceFrom pattern replacement skipped chars).length < chars.length) := by
  induction chars generalizing skipped with
  | nil =>
    refine ⟨Nat.zero_le _, ?_⟩
    intro _ inside
    rw [List.infix_nil.mp inside] at shorter
    exact absurd shorter (Nat.not_lt_zero _)
  | cons head rest ih =>
    cases skipped with
    | succ n =>
      rw [replaceFrom, List.length_cons, Nat.add_sub_add_right]
      exact ⟨(ih n).1, fun zero => absurd zero (Nat.succ_ne_zero n)⟩
    | zero =>
      by_cases found : pattern.isPrefixOf (head :: rest) = true
      · have fits : pattern.length ≤ rest.length + 1 :=
          (List.isPrefixOf_iff_prefix.mp found).length_le
        have behind := (ih (pattern.length - 1)).1
        rw [replaceFrom, if_pos found, List.length_append, List.length_cons]
        omega
      · rw [replaceFrom, if_neg found, List.length_cons, List.length_cons]
        refine ⟨Nat.succ_le_succ (ih 0).1, fun _ inside => ?_⟩
        rcases List.infix_cons_iff.mp inside with start | inside
        · exact absurd (List.isPrefixOf_iff_prefix.mpr start) found
        · exact Nat.succ_lt_succ ((ih 0).2 rfl inside)

end Replacing

variable {text pattern replacement : String}

theorem length_replaceAll_le (shorter : replacement.length < pattern.length) :
    (replaceAll text pattern replacement).length ≤ text.length := by
  rw [replaceAll, String.length_ofList]
  exact (length_replaceFrom_le shorter 0).1

theorem length_replaceAll_lt (shorter : replacement.length < pattern.length)
    (inside : pattern.toList <:+: text.toList) :
    (replaceAll text pattern replacement).length < text.length := by
  rw [replaceAll, String.length_ofList]
  exact (length_replaceFrom_le shorter 0).2 rfl inside

theorem replaceAll_of_absent (absent : ¬pattern.toList <:+: text.toList) :
    replaceAll text pattern replacement = text := by
  rw [replaceAll, replaceFrom_of_absent absent, String.ofList_toList]

end Text

namespace Draft

/-- Nothing in the text reads like a call that expands everything. -/
def Spared (text : String) : Prop :=
  ¬"expandAll(true)".toList <:+: text.toList ∧ ¬"expandAll()".toList <:+: text.toList

instance (text : String) : Decidable (Spared text) := inferInstanceAs (Decidable (_ ∧ _))

/-- Both replacements shorten the text, so the second cannot make up for the first. -/
theorem expansionText_eq_self_iff {text : String} :
    clauseText "$expand" text = text ↔ Spared text := by
  let opened := Text.replaceAll text "expandAll(true)" "*/$ref"
  change Text.replaceAll opened "expandAll()" "*" = text ↔ _
  constructor
  · intro same
    have whole : text.length ≤ opened.length := by
      calc text.length
        _ = (Text.replaceAll opened "expandAll()" "*").length := congrArg _ same.symm
        _ ≤ opened.length := Text.length_replaceAll_le (by decide)
    have first : ¬"expandAll(true)".toList <:+: text.toList := fun inside =>
      absurd (Text.length_replaceAll_lt (by decide) inside) (Nat.not_lt.mpr whole)
    have unopened : opened = text := Text.replaceAll_of_absent first
    refine ⟨first, fun inside => ?_⟩
    have shorter : (Text.replaceAll opened "expandAll()" "*").length < opened.length :=
      Text.length_replaceAll_lt (by decide) (unopened.symm ▸ inside)
    rw [same, unopened] at shorter
    exact absurd shorter (Nat.lt_irrefl _)
  · rintro ⟨first, second⟩
    have unopened : opened = text := Text.replaceAll_of_absent first
    rw [unopened, Text.replaceAll_of_absent second]

theorem clauseText_eq_self_iff {key text : String} :
    clauseText key text = text ↔
      (key = "$expand" → Spared text) ∧ ¬(key = "$count" ∧ text = "") := by
  by_cases expands : key = "$expand"
  · subst expands
    have other : ¬("$expand" = "$count" ∧ text = "") := fun both => absurd both.1 (by decide)
    rw [expansionText_eq_self_iff, and_iff_left other, forall_prop_of_true rfl]
  · rw [clauseText, if_neg expands]
    by_cases empty : key = "$count" ∧ text = ""
    · rw [if_pos empty, empty.2]
      simp [empty.1]
    · rw [if_neg empty]
      simp [expands, empty]

variable {mapping : Mapping} {parts : List ResourcePart} {draft : Draft}

theorem pairs_of_draft (reached : (mapping.draft ⟨parts⟩).outcome = .ok draft) :
    List.Forall₂ mapping.ClausePair (ResourceParts.clauses ⟨parts⟩) draft.query ∧
      (draft.query.map Prod.fst).Nodup := by
  induction parts using List.reverseRecOn generalizing draft with
  | nil =>
    cases reached
    exact ⟨.nil, List.nodup_nil⟩
  | append_singleton parts part ih =>
    have clauses_split : ResourceParts.clauses ⟨parts ++ [part]⟩ =
        ResourceParts.clauses ⟨parts⟩ ++ part.clauses := by
      simp [ResourceParts.clauses]
    rw [Mapping.draft_concat] at reached
    rcases Logged.outcome_bind_eq_ok.mp reached with ⟨earlier, reached, added⟩
    rcases ih reached with ⟨paired, distinct⟩
    rw [clauses_split]
    cases part with
    | query more =>
      rcases pairs_of_addClauses distinct added with ⟨pairs, aliases, others, distinct', rfl⟩
      exact ⟨List.rel_append paired others, distinct'⟩
    | function name arguments =>
      rcases addFunction_of_addPart added with ⟨type, _, added⟩
      rcases addFunction_eq_ok added with ⟨set, f, aliases, texts, _, _, _, rfl⟩
      exact ⟨(List.append_nil _).symm ▸ paired, distinct⟩
    | _ =>
      rw [(framed_addPart (by exact trivial) added).query]
      exact ⟨(List.append_nil _).symm ▸ paired, distinct⟩

end Draft

namespace Mapping

variable {mapping : Mapping} {root : String} {resource : ResourceParts} {target : Target}
  {clause : Clause}

theorem pair_of_clause (accepted : (mapping.map root resource).outcome = .ok target)
    (member : clause ∈ resource.clauses) :
    ∃ key text, clause.key = .ok key ∧
      (mapping.renderer.render clause.expr).outcome = .ok text ∧
      ∀ value, (key, value) ∈ target.address.query ↔ value = Draft.clauseText key text := by
  rcases Logged.outcome_bind_eq_ok.mp accepted with ⟨draft, reached, finished⟩
  rcases Draft.pairs_of_draft reached with ⟨paired, distinct⟩
  rcases (Draft.finish_eq_ok distinct).mp finished with ⟨type, bindings, _, _, distinct', rfl⟩
  rcases exists_of_forall₂ paired member with ⟨⟨key, written⟩, present, keyed, text, rendered, same⟩
  dsimp only at keyed same
  have present' : (key, written) ∈ draft.query ++ bindings := List.mem_append_left _ present
  refine ⟨key, text, keyed, rendered, fun value => ?_⟩
  constructor
  · intro other
    have alike := List.inj_on_of_nodup_map distinct' other present' rfl
    exact (congrArg Prod.snd alike).trans same
  · rintro rfl
    exact same ▸ present'

/-- The pair of an expansion holds its text as it is, exactly if nothing in the text reads like a
call that expands everything. -/
theorem expansion_pair_iff (accepted : (mapping.map root resource).outcome = .ok target)
    (member : clause ∈ resource.clauses) (expands : clause.key = .ok "$expand") :
    ∃ text value, (mapping.renderer.render clause.expr).outcome = .ok text ∧
      (∀ other, ("$expand", other) ∈ target.address.query ↔ other = value) ∧
      (value = text ↔ Draft.Spared text) := by
  rcases pair_of_clause accepted member with ⟨key, text, keyed, rendered, single⟩
  rw [expands] at keyed
  cases keyed
  exact ⟨text, _, rendered, single, Draft.expansionText_eq_self_iff⟩

end Mapping

namespace Expr

def Calls (function : String) (e : Expr) : Prop :=
  ∃ c, Relation.ReflTransGen PartIn (.call c) e ∧ c.signature.name = function

theorem calls_cases {function : String} {e : Expr} (calls : e.Calls function) :
    (∃ c, e = .call c ∧ c.signature.name = function) ∨
      ∃ part, PartIn part e ∧ part.Calls function := by
  rcases calls with ⟨c, inside, named⟩
  rcases Relation.ReflTransGen.cases_tail inside with same | ⟨part, inside, within⟩
  · exact .inl ⟨c, same, named⟩
  · exact .inr ⟨part, within, c, inside, named⟩

end Expr

namespace Library

def author : TypeRef := .named "Library" "Author"

def book : TypeRef := .named "Library" "Book"

def schema : Schema where
  types := [
    .complex {
      scope := "Library"
      name := "Author"
      properties := .ofList [("Books", ⟨.collection book, false, true⟩)] },
    .complex {
      scope := "Library"
      name := "Book"
      properties := .ofList [("Title", ⟨.string, false, false⟩)] }]
  ordered := by decide

def authors : EntitySet := .ofType "Main" "Authors" author

def books : Expr := .member (some (.root (.ofType itContext author))) "Books" (.collection book)

def title : Expr := .member (some (.root (.ofType itContext book))) "Title" .string

def titled (text : String) : Call where
  receiver := none
  args := [
    (title, Builtin.generic "lhs"),
    (.value (.string text) (some .string), (Builtin.generic "rhs").withNullability .nullable)]
  signature := .declared "eq" .filter
    [Builtin.generic "lhs", (Builtin.generic "rhs").withNullability .nullable, Builtin.format]
    (.type .boolean) (.between "eq")
  bindings := .ofList [("T", .string)]

theorem compare_titled (text : String) :
    Filter.compare "eq" title (.constant (.string text)) none = .ok (.call (titled text)) := rfl

def titledTree (text : String) : FilterTree := .call "eq" [.path ["Title"], .string text]

theorem built_titled (text : String) :
    FilterTree.Built (titledTree text) (.call (titled text)) := by
  have segment : FilterTree.IsSegment "Title" := ⟨by simp, ⟨'T', rfl, rfl⟩, by decide⟩
  have applies : FilterTree.Applies "eq" [title, .constant (.string text)] (.call (titled text)) :=
    .compare List.mem_cons_self (compare_titled text)
  exact .call applies (.cons (.path (.first rfl segment)) (.cons .string .nil))

theorem evaluate_titled (schema : Schema) (text : String) : ∃ root,
    (Renderer.standard schema).evaluate (.call (titled text)) .it =
      pure ⟨root, some ("Title eq " ++ Text.quoted text)⟩ :=
  FilterTree.evaluate_built schema (built_titled text) .it rfl

def expanded (clause : Clause) : Call := Expand.call books [.clauses fun _ => .ok [clause]]

theorem expandWith_books (clause : Clause) :
    Expand.expandWith books [.clauses fun _ => .ok [clause]] = .ok (.call (expanded clause)) :=
  Expand.expandWith_eq _ _

def found : Cursor := ⟨schema, book, [], .ofType itContext book, .empty, .complex⟩

theorem it_book : Cursor.it schema book = .ok found := by with_unfolding_all rfl

def entry (clause : Clause) (key : String) : String × Expr :=
  (key, .inContext (.named clause.expr (.ofType key (clause.expr.concreteType?.getD .raw)))
    itContext)

theorem gathered_clause {clause : Clause} {key : String} (keyed : clause.key = .ok key) :
    ([ExpandOption.clauses fun _ => .ok [clause]].map ExpandOption.argument).foldlM
      ((expanded clause).addOptions schema books) [] = .ok [entry clause key] := by
  have asks : ExpandOption.Asks schema books (.clauses fun _ => .ok [clause])
      ([clause].map .clause) := .clauses rfl rfl it_book rfl
  have start : (([] : CallOf.Options).map Prod.fst).Nodup := List.nodup_nil
  apply CallOf.addAllOptions_eq_ok.mpr
  refine ⟨_, .cons asks .nil, (CallOf.addAllAsked_eq_ok start).mpr ?_⟩
  exact ⟨[entry clause key], .cons ⟨keyed, rfl⟩ .nil, by simp, rfl⟩

theorem render_expanded {clause : Clause} {key text : String} {root : Option RootSymbol}
    (keyed : clause.key = .ok key)
    (evaluated : (Renderer.standard schema).evaluate clause.expr .it = pure ⟨root, some text⟩) :
    (Renderer.standard schema).render (.call (expanded clause)) =
      pure ("Books" ++ "(" ++ key ++ "=" ++ text ++ ")") := by
  have filled : Expand.ordered [.clauses fun _ => .ok [clause]] ≠ [] := List.cons_ne_nil _ _
  have target : (Renderer.standard schema).partRendering .it (.expr books) =
      pure ⟨some (.ofType itContext author), some "Books"⟩ := by
    rw [Renderer.partRendering, books, Renderer.evaluate_member, Renderer.evaluate_root]
    rfl
  have option : (Renderer.standard schema).partRendering .it (.expr (entry clause key).2) = pure
      ⟨some (.ofType key (clause.expr.concreteType?.getD .raw)), some (key ++ "=" ++ text)⟩ := by
    rw [Renderer.partRendering, entry, Renderer.evaluate_inContext, Renderer.evaluate_named,
      show Scope.it.inContext itContext = .it from rfl, evaluated]
    rfl
  have opening (mark : String) : (Renderer.standard schema).partRendering .it (.text mark) =
      pure (.ofText mark) := rfl
  have parts : (PartOf.expr books :: if [entry clause key].isEmpty then [] else
      CallOf.optionParts "(" [entry clause key]) =
        [.expr books, .text "(", .expr (entry clause key).2, .text ")"] := rfl
  rw [expanded, Expand.render_gathered filled (gathered_clause keyed), Renderer.render,
    CallOf.expandedTarget, Renderer.evaluate_assembled, parts]
  simp only [List.mapM_cons, List.mapM_nil, target, option, opening, pure_bind]
  simp only [Rendering.textOrEmpty, Rendering.ofText, List.map_cons, List.map_nil,
    Option.getD_some, String.join_cons, String.join_nil, String.append_empty, String.append_assoc]

def mapping : Mapping where
  schema := schema

def asked (clause : Clause) : ResourceParts := ⟨[.entitySet authors] ++ [.query [clause]]⟩

def target (key text : String) : Target :=
  Draft.addressed { Draft.ofSet authors with query := [(key, Draft.clauseText key text)] }
    "http://svc" authors.pathType []

theorem map_asked {clause : Clause} {key text : String} (keyed : clause.key = .ok key)
    (rendered : mapping.renderer.render clause.expr = pure text) :
    (mapping.map "http://svc" (asked clause)).outcome = .ok (target key text) :=
  Mapping.map_clause keyed rendered "http://svc"

def titledBooks (title : String) : Clause := ⟨.call (expanded ⟨.call (titled title)⟩)⟩

def titledText (title : String) : String :=
  "Books" ++ "(" ++ "$filter" ++ "=" ++ ("Title eq " ++ Text.quoted title) ++ ")"

theorem render_titledBooks (title : String) :
    mapping.renderer.render (titledBooks title).expr = pure (titledText title) := by
  rcases evaluate_titled schema title with ⟨root, evaluated⟩
  exact render_expanded rfl evaluated

theorem not_calls_member {symbol : RootSymbol} {name function : String} {type : TypeRef} :
    ¬(Expr.member (some (.root symbol)) name type).Calls function := by
  intro calls
  rcases Expr.calls_cases calls with ⟨c, same, _⟩ | ⟨part, within, calls⟩
  · cases same
  · cases within with
    | parent =>
      rcases Expr.calls_cases calls with ⟨c, same, _⟩ | ⟨part, within, _⟩
      · cases same
      · cases within

theorem calls_titled {title function : String}
    (calls : (Expr.call (titled title)).Calls function) : function = "eq" := by
  rcases Expr.calls_cases calls with ⟨c, same, named⟩ | ⟨part, within, calls⟩
  · cases same
    exact named.symm
  · cases within with
    | receiver present => cases present
    | arg member =>
      simp only [titled, List.mem_cons, List.not_mem_nil, or_false] at member
      rcases member with rfl | rfl
      · exact absurd calls not_calls_member
      · rcases Expr.calls_cases calls with ⟨c, same, _⟩ | ⟨part, within, _⟩
        · cases same
        · cases within

theorem calls_titledBooks {title function : String}
    (calls : (titledBooks title).expr.Calls function) : function = "expand" ∨ function = "eq" := by
  rcases Expr.calls_cases calls with ⟨c, same, named⟩ | ⟨part, within, calls⟩
  · cases same
    exact .inl named.symm
  · cases within with
    | receiver present => cases present
    | arg member =>
      rcases List.mem_cons.mp member with rfl | member
      · exact absurd calls not_calls_member
      · cases List.mem_singleton.mp member
        rcases Expr.calls_cases calls with ⟨c, same, _⟩ | ⟨part, within, calls⟩
        · cases same
        · cases within with
          | subQuery built member =>
            rcases bind_eq_ok.mp built with ⟨clauses, ran, same⟩
            rcases bind_eq_ok.mp ran with ⟨cursor, _, once⟩
            cases once
            cases same
            cases List.mem_singleton.mp member
            exact .inr (calls_titled calls)

end Library

namespace Mapping

theorem expansion_pair_iff_dune :
    (Library.mapping.map "http://svc" (Library.asked (Library.titledBooks "Dune"))).outcome =
      .ok (Library.target "$expand" (Library.titledText "Dune")) ∧
    ∃ value, (∀ other, ("$expand", other) ∈
        (Library.target "$expand" (Library.titledText "Dune")).address.query ↔ other = value) ∧
      value = Library.titledText "Dune" := by
  have rendered := Library.render_titledBooks "Dune"
  have accepted := Library.map_asked (by rfl) rendered
  rcases expansion_pair_iff accepted List.mem_cons_self rfl with
    ⟨text, value, written, single, spared⟩
  rw [rendered] at written
  cases written
  exact ⟨accepted, value, single, spared.mpr (by decide)⟩

/-- A title in which such a call can be read is taken for one, though nothing calls it. -/
theorem title_read_as_call : ∃ comparison e text target,
    Filter.compare "eq" Library.title (.constant (.string "expandAll()")) none = .ok comparison ∧
    Expand.expandWith Library.books [.clauses fun _ => .ok [⟨comparison⟩]] = .ok e ∧
    ¬e.Calls "expandAll" ∧
    (Library.mapping.renderer.render e).outcome = .ok text ∧
    (Library.mapping.map "http://svc" (Library.asked ⟨e⟩)).outcome = .ok target ∧
    ("$expand", text) ∉ target.address.query := by
  have rendered := Library.render_titledBooks "expandAll()"
  refine ⟨_, (Library.titledBooks "expandAll()").expr, _, _, Library.compare_titled _,
    Library.expandWith_books _, ?_, congrArg Traced.outcome rendered,
    Library.map_asked (by rfl) rendered, ?_⟩
  · intro calls
    rcases Library.calls_titledBooks calls with same | same
    · exact absurd same (by decide)
    · exact absurd same (by decide)
  · decide

end Mapping
end ODataRequest
