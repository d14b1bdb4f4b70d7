import ODataRequest.Expr.Reduction

namespace ODataRequest

/-!
What reduction leaves is made of parts of the call: `precedes_of_arg`, `precedes_of_receiver` and
`precedes_of_path` say that whatever is rendered next is smaller than the call.
-/
namespace CallOf

open ODataRequest.Expr

def Closed (given : Expr → Prop) : Prop := ∀ e whole, PartIn e whole → given whole → given e

def Made (given : Expr → Prop) (c : Call) : Prop :=
  (∀ e, c.receiver = some e → MadeOf given e) ∧ ∀ argument ∈ c.args, MadeOf given argument.1

theorem directiveOf_eq {c : Call} {argument : Argument} {d : Directive}
    (held : c.directiveOf argument = .ok d) : argument.1 = .directive d :=
  congrArg Prod.fst (directiveOf_held held).1

theorem given_of_directive {given : Expr → Prop} {d : Directive}
    (made : MadeOf given (.directive d)) : given (.directive d) := by
  cases made with
  | given h => exact h

theorem formatArgument_made {given : Expr → Prop} {format : Format} {a b : Argument}
    (made : MadeOf given a.1) (formatted : formatArgument format a = .ok b) :
    MadeOf given b.1 := by
  rcases formatArgument_cases formatted with rfl | ⟨v, type, text, _, _, rfl⟩
  · exact made
  · exact .value

theorem addOption_made {given : Expr → Prop} {options options' : Options} {key : String}
    {e : Expr} {type : TypeRef} (made : ∀ entry ∈ options, MadeOf given entry.2)
    (part : MadeOf given e) (added : addOption options key e type = .ok options') :
    ∀ entry ∈ options', MadeOf given entry.2 := by
  unfold addOption at added
  split at added
  · simp at added
  · simp only [Except.ok.injEq] at added
    subst added
    intro entry member
    rcases List.mem_append.mp member with member | member
    · exact made entry member
    · simp only [List.mem_singleton] at member
      exact member ▸ .inContext (.named part)

theorem addClause_made {given : Expr → Prop} {options options' : Options} {e : Expr}
    (made : ∀ entry ∈ options, MadeOf given entry.2) (part : MadeOf given e)
    (added : addClause options e = .ok options') : ∀ entry ∈ options', MadeOf given entry.2 := by
  obtain ⟨key, _, added⟩ := bind_eq_ok.mp added
  exact addOption_made made part added

theorem addOptions_made {given : Expr → Prop} (closed : Closed given) {schema : Schema} {c : Call}
    {target : Expr} {options options' : Options} {argument : Argument}
    (part : MadeOf given argument.1) (made : ∀ entry ∈ options, MadeOf given entry.2)
    (added : c.addOptions schema target options argument = .ok options') :
    ∀ entry ∈ options', MadeOf given entry.2 := by
  obtain ⟨d, held, gathers⟩ := addOptions_cases added
  have holder := given_of_directive (directiveOf_eq held ▸ part)
  cases gathers with
  | countOption _ added => exact addOption_made made .value added
  | subQueries _ _ built added =>
    refine foldlM_invariant (fun o : Options => ∀ entry ∈ o, MadeOf given entry.2)
      (fun o e o' member holds step => ?_) made added
    exact addClause_made holds (.given (closed _ _ (.subQuery built member) holder)) step

theorem optionParts_made {given : Expr → Prop} {options : Options} {opening : String} {e : Expr}
    (made : ∀ entry ∈ options, MadeOf given entry.2)
    (member : PartOf.expr e ∈ optionParts opening options) : MadeOf given e := by
  induction options generalizing opening with
  | nil => simp [optionParts] at member
  | cons option rest ih =>
    simp only [optionParts, List.mem_cons, reduceCtorEq, PartOf.expr.injEq, false_or] at member
    rcases member with rfl | member
    · exact made option (by simp)
    · exact ih (fun entry present => made entry (by simp [present])) member

theorem expandedTarget_made {given : Expr → Prop} {target : Expr} {options : Options}
    (part : MadeOf given target) (made : ∀ entry ∈ options, MadeOf given entry.2) :
    MadeOf given (expandedTarget target options) := by
  refine .assembled fun e member => ?_
  rcases List.mem_cons.mp member with same | member
  · simp only [PartOf.expr.injEq] at same
    exact same ▸ part
  · split at member
    · simp at member
    · exact optionParts_made made member

theorem expand_made {given : Expr → Prop} (closed : Closed given) {schema : Schema} {c c' : Call}
    {before after : List Argument} {argument : Argument} (made : Made given c)
    (split : c.args = before ++ argument :: after)
    (expanded : c.expand schema before argument after = .ok (.next c')) : Made given c' := by
  obtain ⟨target, p, options, last, gathered, rfl⟩ := expand_next expanded
  have parts : ∀ a ∈ before ++ argument :: after, MadeOf given a.1 := split ▸ made.2
  have within : ∀ a ∈ argument :: after.takeWhile isOption, MadeOf given a.1 := by
    intro a member
    rcases List.mem_cons.mp member with rfl | member
    · exact parts _ (by simp)
    · exact parts a (by simp [(List.takeWhile_sublist isOption).subset member])
  have listed : ∀ entry ∈ options, MadeOf given entry.2 :=
    foldlM_invariant (fun o : Options => ∀ entry ∈ o, MadeOf given entry.2)
      (fun o a o' member holds step => addOptions_made closed (within a member) holds step)
      (by simp) gathered
  refine ⟨made.1, fun a member => ?_⟩
  rcases List.mem_append.mp member with member | member
  · exact parts a (by simp [List.dropLast_subset _ member])
  · rcases List.mem_cons.mp member with rfl | member
    · exact expandedTarget_made (parts (target, p) (by simp [List.mem_of_getLast? last])) listed
    · exact parts a (by simp [(List.dropWhile_sublist isOption).subset member])

theorem round_made {given : Expr → Prop} (closed : Closed given) {schema : Schema} {c c' : Call}
    (made : Made given c) (next : c.round schema = .ok (.next c')) : Made given c' := by
  cases round_eq_ok next with
  | @next before after argument d _ split held worked =>
    have parts : ∀ a ∈ before ++ argument :: after, MadeOf given a.1 :=
      splitDirective_eq split ▸ made.2
    have rest : ∀ a ∈ before ++ after, MadeOf given a.1 := by
      intro a member
      refine parts a ?_
      rcases List.mem_append.mp member with member | member <;> simp [member]
    cases worked with
    | customName name => exact ⟨fun e same => Option.some.inj same ▸ .root, rest⟩
    | result type => exact ⟨made.1, rest⟩
    | format mapped =>
      refine ⟨made.1, fun b member => ?_⟩
      obtain ⟨a, present, formatted⟩ := mem_mapM mapped member
      exact formatArgument_made (rest a present) formatted
    | subQueries expanded | countOption expanded =>
      exact expand_made closed made (splitDirective_eq split) expanded

theorem round_rawText {given : Expr → Prop} (closed : Closed given) {schema : Schema} {c : Call}
    {paths : List (String × Expr)} {write : List (String × String) → String}
    (made : Made given c) (finished : c.round schema = .ok (.rawText paths write)) :
    ∀ path ∈ paths, given path.2 := by
  cases round_eq_ok finished with
  | @rawText before after argument executor _ _ split held _ =>
    have part := made.2 argument (by simp [splitDirective_eq split])
    have holder := given_of_directive (directiveOf_eq held ▸ part)
    exact fun path member => closed _ _ (.rawPath member) holder

theorem reduce_call_made {given : Expr → Prop} (closed : Closed given) {schema : Schema}
    {c c' : Call} (made : Made given c) (reduced : c.reduce schema = .ok (.call c')) :
    Made given c' := by
  fun_induction reduce schema c with
  | case1 => simp at reduced
  | case2 => simp only [Except.ok.injEq, Reduced.call.injEq] at reduced; exact reduced ▸ made
  | case3 => simp at reduced
  | case4 c next step ih => exact ih (round_made closed made step) reduced

theorem reduce_rawText {given : Expr → Prop} (closed : Closed given) {schema : Schema} {c : Call}
    {paths : List (String × Expr)} {write : List (String × String) → String}
    (made : Made given c) (reduced : c.reduce schema = .ok (.rawText paths write)) :
    ∀ path ∈ paths, given path.2 := by
  fun_induction reduce schema c with
  | case1 => simp at reduced
  | case2 => simp at reduced
  | case3 c paths' write' step =>
    simp only [Except.ok.injEq, Reduced.rawText.injEq] at reduced
    obtain ⟨rfl, rfl⟩ := reduced
    exact round_rawText closed made step
  | case4 c next step ih => exact ih (round_made closed made step) reduced

theorem within_closed (c : Call) : Closed (Within · (.call c)) :=
  fun _ _ part within => .trans (.single part) within

theorem made_of_parts (c : Call) : Made (Within · (.call c)) c :=
  ⟨fun _ same => .given (.single (.receiver same)), fun _ member => .given (.single (.arg member))⟩

theorem precedes_of_arg {schema : Schema} {c c' : Call} {argument : Argument}
    (reduced : c.reduce schema = .ok (.call c')) (member : argument ∈ c'.args) :
    Precedes argument.1 (.call c) :=
  (reduce_call_made (within_closed c) (made_of_parts c) reduced).2 argument member

theorem precedes_of_receiver {schema : Schema} {c c' : Call} {e : Expr}
    (reduced : c.reduce schema = .ok (.call c')) (same : c'.receiver = some e) :
    Precedes e (.call c) :=
  (reduce_call_made (within_closed c) (made_of_parts c) reduced).1 e same

theorem precedes_of_path {schema : Schema} {c : Call} {paths : List (String × Expr)}
    {write : List (String × String) → String} {path : String × Expr}
    (reduced : c.reduce schema = .ok (.rawText paths write)) (member : path ∈ paths) :
    Precedes path.2 (.call c) :=
  .given (reduce_rawText (within_closed c) (made_of_parts c) reduced path member)

end CallOf
end ODataRequest
