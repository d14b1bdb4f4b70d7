import ODataRequest.Proofs.ClauseText
import Mathlib.Data.List.Duplicate
namespace ODataRequest

namespace CallOf

theorem addAllAsked_repeated {options : Options} {asked : List Asked} {keys : List String}
    (keyed : List.Forall₂ (fun asked key => asked.key = .ok key) asked keys)
    (distinct : (options.map Prod.fst).Nodup)
    (repeated : ¬(options.map Prod.fst ++ keys).Nodup) :
    ∃ key, List.Duplicate key (options.map Prod.fst ++ keys) ∧
      asked.foldlM addAsked options = .error (Clause.repeated key) := by
  induction keyed generalizing options with
  | nil =>
    rw [List.append_nil] at repeated
    exact absurd distinct repeated
  | @cons head key rest keys first _ ih =>
    rw [List.foldlM_cons]
    -- The first key that is known ends the gathering; a new one is known from there on.
    by_cases known : key ∈ options.map Prod.fst
    · refine ⟨key, ?_, ?_⟩
      · apply List.duplicate_iff_sublist.mpr
        exact (List.singleton_sublist.mpr known).append
          (List.singleton_sublist.mpr List.mem_cons_self)
      · rw [addAsked, first]
        change (addOption options key head.expr head.type >>= _) = _
        rw [addOption, if_pos (List.contains_iff_mem.mpr known)]
        rfl
    · let entry := (key, Expr.inContext (.named head.expr (.ofType key head.type)) itContext)
      have added : addAsked options head = .ok (options ++ [entry]) :=
        addAsked_eq_ok.mpr ⟨entry, ⟨first, rfl⟩, known, rfl⟩
      have keys_eq : (options ++ [entry]).map Prod.fst ++ keys =
          options.map Prod.fst ++ key :: keys := by
        simp [entry]
      rw [← keys_eq] at repeated ⊢
      rcases ih (distinct_append entry.2 distinct known) repeated with ⟨key, twice, failed⟩
      rw [added]
      exact ⟨key, twice, failed⟩

end CallOf

namespace Expand

/-- A count, if it is asked for, and builders of clauses, with what they come to: the clauses that
are built for the element of the target, the key and the text of each, and the text of the
target. -/
structure Plan (renderer : Renderer) (target : Expr) where
  counted : Bool
  builds : List (Cursor → Except Error (List Clause))
  type : TypeRef
  element : TypeRef
  cursor : Cursor
  clauses : List (List Clause)
  pairs : List (String × String)
  head : String
  typed : target.concreteType? = some type
  expanded : CallOf.expandedType type = .ok element
  started : Cursor.it renderer.schema element = .ok cursor
  built : List.Forall₂ (fun build clauses => build cursor = .ok clauses) builds clauses
  written : List.Forall₂
    (fun clause pair => clause.key = .ok pair.1 ∧
      (renderer.render clause.expr).outcome = .ok pair.2) clauses.flatten pairs
  begun : (renderer.render target).outcome = .ok head
  marked : counted = true → (renderer.render (.raw "true")).outcome = .ok "true"

namespace Plan

variable {renderer : Renderer} {target : Expr} (plan : Plan renderer target)

def counts {α : Type} (count : α) : List α := if plan.counted then [count] else []

def options : List ExpandOption := plan.counts .count ++ plan.builds.map .clauses

def keys : List String := plan.counts "$count" ++ plan.pairs.map Prod.fst

def texts : List String :=
  plan.counts "$count=true" ++ plan.pairs.map fun pair => pair.1 ++ "=" ++ pair.2

def asked : List (List Asked) :=
  plan.counts [.count] ++ plan.clauses.map fun clauses => clauses.map .clause

def Countable : Prop := plan.counted = true → plan.type.isCollection = true

theorem ordered_options : ordered plan.options = plan.options := by
  have builders : ∀ option ∈ plan.builds.map ExpandOption.clauses, option.isCount = false := by
    intro option member
    rcases List.mem_map.mp member with ⟨build, _, rfl⟩
    rfl
  have none_counts : (plan.builds.map ExpandOption.clauses).filter ExpandOption.isCount = [] :=
    List.filter_eq_nil_iff.mpr fun option member => by simp [builders option member]
  have all_others : (plan.builds.map ExpandOption.clauses).filter (fun option => !option.isCount) =
      plan.builds.map .clauses :=
    List.filter_eq_self.mpr fun option member => by simp [builders option member]
  rw [ordered, options, counts, List.filter_append, List.filter_append, none_counts, all_others]
  cases plan.counted <;> rfl

theorem asks (countable : plan.Countable) :
    List.Forall₂ (ExpandOption.Asks renderer.schema target) plan.options plan.asked := by
  apply List.rel_append
  · unfold counts
    split
    · rename_i counted
      exact .cons (.count plan.typed (countable counted)) .nil
    · exact .nil
  · rw [List.forall₂_map_left_iff, List.forall₂_map_right_iff]
    exact plan.built.imp fun build clauses built =>
      .clauses plan.typed plan.expanded plan.started built

theorem asked_flatten :
    plan.asked.flatten = plan.counts .count ++ plan.clauses.flatten.map .clause := by
  rw [asked, List.flatten_append, ← List.map_flatten]
  unfold counts
  cases plan.counted <;> rfl

theorem asked_keys :
    List.Forall₂ (fun asked key => asked.key = .ok key) plan.asked.flatten plan.keys := by
  rw [asked_flatten]
  apply List.rel_append
  · unfold counts
    cases plan.counted with
    | true => exact .cons rfl .nil
    | false => exact .nil
  · rw [List.forall₂_map_left_iff, List.forall₂_map_right_iff]
    exact plan.written.imp fun _ _ written => written.1

theorem asked_texts : List.Forall₂ (Asked.Written renderer) plan.asked.flatten plan.texts := by
  rw [asked_flatten]
  apply List.rel_append
  · unfold counts
    split
    · rename_i counted
      exact .cons ⟨"$count", "true", rfl, plan.marked counted, rfl⟩ .nil
    · exact .nil
  · rw [List.forall₂_map_left_iff, List.forall₂_map_right_iff]
    exact plan.written.imp fun clause pair ⟨keyed, rendered⟩ =>
      ⟨pair.1, pair.2, keyed, rendered, rfl⟩

end Plan

variable {renderer : Renderer} {target : Expr} (plan : Plan renderer target)

theorem render_whole (countable : plan.Countable) (distinct : plan.keys.Nodup) :
    (renderer.render (.call (call target plan.options))).outcome =
      .ok (plan.head ++ bracketed plan.texts) := by
  have asks := plan.asks countable
  have same : plan.asked.flatten.map Asked.key = plan.keys.map Except.ok := by
    rw [← List.forall₂_eq_eq_eq, List.forall₂_map_left_iff, List.forall₂_map_right_iff]
    exact plan.asked_keys
  have distinct' : (plan.asked.flatten.map Asked.key).Nodup :=
    same ▸ distinct.map fun _ _ => Except.ok.inj
  rw [← plan.ordered_options] at asks
  exact render_call.mpr ⟨_, _, _, plan.begun, asks, plan.asked_texts, distinct', rfl⟩

theorem render_repeated (countable : plan.Countable) (repeated : ¬plan.keys.Nodup) :
    ∃ key, List.Duplicate key plan.keys ∧
      (renderer.render (.call (call target plan.options))).outcome =
        .error (Clause.repeated key) := by
  have start : (([] : CallOf.Options).map Prod.fst).Nodup := List.nodup_nil
  rcases CallOf.addAllAsked_repeated plan.asked_keys start repeated with ⟨key, twice, failed⟩
  refine ⟨key, twice, render_refused ?_⟩
  rw [plan.ordered_options, CallOf.addAllOptions_of_asks (plan.asks countable)]
  exact failed

/-- The count is the first option, so it is what fails. -/
theorem render_uncountable (uncountable : ¬plan.Countable) :
    (renderer.render (.call (call target plan.options))).outcome =
      .error (.directiveMismatch "count" signature.text) := by
  rw [Plan.Countable, Classical.not_imp] at uncountable
  rcases uncountable with ⟨counted, single⟩
  have options : ordered plan.options = .count :: plan.builds.map .clauses := by
    rw [plan.ordered_options, Plan.options, Plan.counts, if_pos counted]
    rfl
  have refused : (call target plan.options).addOptions renderer.schema target []
      ExpandOption.count.argument = .error (.directiveMismatch "count" signature.text) := by
    change (if (target.concreteType?.map TypeRef.isCollection).getD false then _ else _) = _
    rw [plan.typed, if_neg (by exact single)]
    rfl
  apply render_refused
  rw [options, List.map_cons, List.foldlM_cons, refused]
  rfl

/-- An expansion whose parts can all be written is written itself exactly if all keys are distinct
and no count is asked of a single element. Then its text is that of the target, with the options in
parentheses behind it. Otherwise the count is reported if it is in the way, and else a key that
occurs twice. -/
theorem render_plan : ∃ e, expandWith target plan.options = .ok e ∧
    ((∃ text, (renderer.render e).outcome = .ok text) ↔ plan.keys.Nodup ∧ plan.Countable) ∧
    (∀ text, (renderer.render e).outcome = .ok text → text = plan.head ++ bracketed plan.texts) ∧
    (plan.Countable → ¬plan.keys.Nodup → ∃ key, List.Duplicate key plan.keys ∧
      (renderer.render e).outcome = .error (Clause.repeated key)) ∧
    (¬plan.Countable →
      (renderer.render e).outcome = .error (.directiveMismatch "count" signature.text)) := by
  have accepted : ∀ text,
      (renderer.render (.call (call target plan.options))).outcome = .ok text →
      plan.keys.Nodup ∧ plan.Countable := by
    intro text rendered
    by_cases countable : plan.Countable
    · refine ⟨?_, countable⟩
      by_contra repeated
      rcases render_repeated plan countable repeated with ⟨key, _, failed⟩
      cases rendered.symm.trans failed
    · cases rendered.symm.trans (render_uncountable plan countable)
  refine ⟨_, expandWith_eq target plan.options, ?_, ?_, render_repeated plan,
    render_uncountable plan⟩
  · constructor
    · rintro ⟨text, rendered⟩
      exact accepted text rendered
    · rintro ⟨distinct, countable⟩
      exact ⟨_, render_whole plan countable distinct⟩
  · intro text rendered
    rcases accepted text rendered with ⟨distinct, countable⟩
    exact Except.ok.inj (rendered.symm.trans (render_whole plan countable distinct))

end Expand

namespace Library

def shelf : Schema where
  types := [
    .complex {
      scope := "Library"
      name := "Author"
      properties := .ofList
        [("Books", ⟨.collection book, false, true⟩), ("Favourite", ⟨book, false, true⟩)] },
    .complex {
      scope := "Library"
      name := "Book"
      properties := .ofList [("Title", ⟨.string, false, false⟩)] }]
  ordered := by decide

def shelved (name : String) (type : TypeRef) : Expr :=
  .member (some (.root (.ofType itContext author))) name type

theorem render_shelved (name : String) (type : TypeRef) :
    ((Renderer.standard shelf).render (shelved name type)).outcome = .ok name := by
  rw [Renderer.render, shelved, Renderer.evaluate_member, Renderer.evaluate_root]
  rfl

theorem render_titled (title : String) : ((Renderer.standard shelf).render
    (.call (titled title))).outcome = .ok ("Title eq " ++ Text.quoted title) := by
  rcases evaluate_titled shelf title with ⟨root, evaluated⟩
  rw [Renderer.render, evaluated]
  rfl

def plan (name : String) (type : TypeRef) (expanded : CallOf.expandedType type = .ok book)
    (titles : List String) : Expand.Plan (Renderer.standard shelf) (shelved name type) where
  counted := true
  builds := titles.map fun title _ => .ok [⟨.call (titled title)⟩]
  type := type
  element := book
  cursor := ⟨shelf, book, [], .ofType itContext book, .empty, .complex⟩
  clauses := titles.map fun title => [⟨.call (titled title)⟩]
  pairs := titles.map fun title => ("$filter", "Title eq " ++ Text.quoted title)
  head := name
  typed := rfl
  expanded := expanded
  started := by with_unfolding_all rfl
  built := by
    rw [List.forall₂_map_left_iff, List.forall₂_map_right_iff]
    exact List.forall₂_same.mpr fun _ _ => rfl
  written := by
    rw [← List.flatMap_def, ← List.map_eq_flatMap, List.forall₂_map_left_iff,
      List.forall₂_map_right_iff]
    exact List.forall₂_same.mpr fun title _ => ⟨rfl, render_titled title⟩
  begun := render_shelved name type
  marked _ := by
    rw [Renderer.render, Expr.raw, Expr.typedConstant, Renderer.evaluate_value]
    rfl

end Library

theorem Expand.render_plan_dune :
    let books := Library.shelved "Books" (.collection Library.book)
    let plan := Library.plan "Books" (.collection Library.book) rfl ["Dune"]
    plan.keys.Nodup ∧ plan.Countable ∧ ∃ e, expandWith books plan.options = .ok e ∧
      ((Renderer.standard Library.shelf).render e).outcome =
        .ok "Books($count=true;$filter=Title eq 'Dune')" := by
  intro books plan
  have distinct : plan.keys.Nodup := by decide
  have countable : plan.Countable := fun _ => rfl
  rcases render_plan plan with ⟨e, made, accepted, text_eq, _⟩
  rcases accepted.mpr ⟨distinct, countable⟩ with ⟨text, rendered⟩
  refine ⟨distinct, countable, e, made, ?_⟩
  rw [rendered, text_eq text rendered]
  decide

/-- Two filters of one book are never noticed behind a count of it. -/
theorem Expand.count_before_repeated :
    ¬∀ (renderer : Renderer) target (plan : Plan renderer target) e,
      expandWith target plan.options = .ok e → ¬(plan.pairs.map Prod.fst).Nodup →
      ∃ key, (renderer.render e).outcome = .error (Clause.repeated key) := by
  intro noticed
  let plan := Library.plan "Favourite" Library.book rfl ["Dune", "Emma"]
  have uncountable : ¬plan.Countable := fun countable => nomatch countable rfl
  rcases noticed _ _ plan _ (expandWith_eq _ _) (by decide) with ⟨key, failed⟩
  cases (render_uncountable plan uncountable).symm.trans failed

end ODataRequest
