import ODataRequest.Proofs.ClauseText
namespace ODataRequest

namespace Mapping

/-- At the top of a request the clause has this pair and no other under the name. -/
structure Pairs (mapping : Mapping) (clause : Clause) (name value : String) : Prop where
  added : ∀ draft : Draft, name ∉ draft.query.map Prod.fst → ∃ draft',
    Draft.addClause mapping draft clause = .ok draft' ∧
      draft'.query = draft.query ++ [(name, value)]
  mapped : ∀ root resource target, (mapping.map root resource).outcome = .ok target →
    clause ∈ resource.clauses → ∀ other, (name, other) ∈ target.address.query ↔ other = value

theorem pairs_of_clausePair {mapping : Mapping} {clause : Clause} {name value : String}
    (paired : mapping.ClausePair clause (name, value)) : mapping.Pairs clause name value := by
  constructor
  · intro draft new
    exact ⟨_, Draft.addClause_eq_ok.mpr ⟨(name, value), paired, new, rfl⟩, rfl⟩
  · intro root resource target accepted member
    rcases pair_of_clause accepted member with ⟨key, text, keyed, rendered, single⟩
    rcases paired with ⟨named, written, rendered', same⟩
    dsimp only at named same
    rw [named] at keyed
    cases keyed
    rw [rendered'] at rendered
    cases rendered
    rwa [same]

end Mapping

namespace Asked

/-- The option that is written for what is asked. For a clause it is the pair that the clause has
at the top, exactly if the query string leaves its text alone. -/
def MatchesTop (mapping : Mapping) : Asked → String → Prop
  | count, option => count.Written mapping.renderer option
  | clause c, option => ∃ name text value, c.key = .ok name ∧
      (mapping.renderer.render c.expr).outcome = .ok text ∧ option = name ++ "=" ++ text ∧
      mapping.Pairs c name value ∧
      (option = name ++ "=" ++ value ↔
        (name = "$expand" → Draft.Spared text) ∧ ¬(name = "$count" ∧ text = ""))

theorem matchesTop_of_written {mapping : Mapping} {asked : Asked} {option : String}
    (written : asked.Written mapping.renderer option) : asked.MatchesTop mapping option := by
  cases asked with
  | count => exact written
  | clause c =>
    rcases written with ⟨name, text, keyed, rendered, rfl⟩
    have paired : mapping.ClausePair c (name, Draft.clauseText name text) :=
      ⟨keyed, text, rendered, rfl⟩
    refine ⟨name, text, _, keyed, rendered, rfl, Mapping.pairs_of_clausePair paired, ?_⟩
    rw [String.append_right_inj, eq_comm]
    exact Draft.clauseText_eq_self_iff

end Asked

namespace Expand

variable {mapping : Mapping} {target e : Expr} {options : List ExpandOption} {text : String}

/-- An expansion is written as its target with the options in parentheses, in order. A clause
among them reads as the pair that it has at the top of a request, unless it is a count that
renders empty or an expansion in which a call of everything seems to stand. -/
theorem option_matches_top_iff (made : expandWith target options = .ok e)
    (rendered : (mapping.renderer.render e).outcome = .ok text) :
    ∃ head asked written, (mapping.renderer.render target).outcome = .ok head ∧
      text = head ++ bracketed written ∧
      List.Forall₂ (ExpandOption.Asks mapping.schema target) (ordered options) asked ∧
      List.Forall₂ (Asked.MatchesTop mapping) asked.flatten written := by
  rw [expandWith_eq] at made
  cases made
  rcases render_call.mp rendered with ⟨head, asked, written, begun, asks, each, _, rfl⟩
  exact ⟨head, asked, written, begun, rfl, asks, each.imp fun _ _ => Asked.matchesTop_of_written⟩

end Expand

namespace Library

def counting : Call where
  receiver := none
  args := []
  signature := .declared "count" .count [] (.type .boolean) (.joined ",")
  bindings := .empty

theorem count_counting : Paging.count = .ok (.call counting) := rfl

theorem evaluate_counting :
    (Renderer.standard schema).evaluate (.call counting) .it = pure ⟨none, some ""⟩ := by
  have plain : ∀ argument ∈ counting.args, argument.2.directiveKind? = none :=
    fun _ member => absurd member List.not_mem_nil
  rw [Renderer.evaluate_call (CallOf.reduce_of_plain plain)]
  rfl

theorem render_counting : mapping.renderer.render (.call counting) = pure "" := by
  have written : mapping.renderer.evaluate (.call counting) .it = _ := evaluate_counting
  rw [Renderer.render, written]
  rfl

end Library

namespace Expand

theorem option_matches_top_iff_titled : ∃ e head asked written,
    expandWith Library.books [.clauses fun _ => .ok [⟨.call (Library.titled "Dune")⟩]] = .ok e ∧
    (Library.mapping.renderer.render e).outcome = .ok "Books($filter=Title eq 'Dune')" ∧
    "Books($filter=Title eq 'Dune')" = head ++ bracketed written ∧
    List.Forall₂ (Asked.MatchesTop Library.mapping) (List.flatten asked) written := by
  have rendered : (Library.mapping.renderer.render (Library.titledBooks "Dune").expr).outcome =
      .ok "Books($filter=Title eq 'Dune')" := by
    rw [Library.render_titledBooks]
    decide
  rcases option_matches_top_iff (Library.expandWith_books _) rendered with
    ⟨head, asked, written, _, assembled, _, each⟩
  exact ⟨_, head, asked, written, Library.expandWith_books _, rendered, assembled, each⟩

/-- A count within an expansion is left empty, though it is asked for at the top. -/
theorem count_left_empty : ∃ counting e target,
    Paging.count = .ok counting ∧
    expandWith Library.books [.clauses fun _ => .ok [⟨counting⟩]] = .ok e ∧
    (Library.mapping.renderer.render e).outcome = .ok "Books($count=)" ∧
    (Library.mapping.map "http://svc" (Library.asked ⟨counting⟩)).outcome = .ok target ∧
    target.address.query = [("$count", "true")] := by
  have keyed : Clause.key ⟨.call Library.counting⟩ = .ok "$count" := rfl
  have rendered : Library.mapping.renderer.render (.call (Library.expanded
      ⟨.call Library.counting⟩)) = pure ("Books" ++ "(" ++ "$count" ++ "=" ++ "" ++ ")") :=
    Library.render_expanded keyed Library.evaluate_counting
  have accepted := Library.map_asked keyed Library.render_counting
  refine ⟨_, _, _, Library.count_counting, Library.expandWith_books _, ?_, accepted, rfl⟩
  rw [rendered]
  decide

end Expand
end ODataRequest
