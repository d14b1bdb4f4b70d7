import ODataRequest.Proofs.FilterTree
import ODataRequest.Proofs.Rounds
namespace ODataRequest

/-!
Calls that are never written as nothing. A name, a mark beside the operands or a word between two
of them is always left, and working in the directives of a call changes neither its layout nor
the number of its operands. Of the functions that clauses are written with, this leaves those that
join a list, and the expansion, which adds nothing to its target unless it has options.
-/

theorem Text.joined_eq_empty_iff {separator : String} (filled : separator ≠ "")
    {texts : List String} : joined separator texts = "" ↔ texts = [] ∨ texts = [""] := by
  match texts with
  | [] => simp [joined]
  | [text] => simp [joined]
  | first :: second :: rest => simp [joined_cons, String.join_cons, filled]

namespace Layout

/-- Something is written besides operands, if there are so many of them. -/
def Fills (n : Nat) : Layout → Prop
  | .function _ => True
  | .before mark | .after mark => mark ≠ ""
  | .between _ => 2 ≤ n
  | .joined _ | .plain => False

instance (n : Nat) (layout : Layout) : Decidable (layout.Fills n) :=
  match layout with
  | .function _ => isTrue trivial
  | .before mark | .after mark => inferInstanceAs (Decidable (mark ≠ ""))
  | .between _ => inferInstanceAs (Decidable (2 ≤ n))
  | .joined _ | .plain => isFalse id

theorem Fills.mono {layout : Layout} {n m : Nat} (fills : layout.Fills n) (more : n ≤ m) :
    layout.Fills m := by
  cases layout with
  | between => exact Nat.le_trans fills more
  | _ => exact fills

theorem callText_ne_empty {layout : Layout} {receiver : Option String} {operands : List String}
    (fills : layout.Fills operands.length) :
    Renderer.callText layout receiver operands ≠ "" := by
  cases layout with
  | between operator =>
    have spaced : " " ++ operator ++ " " ≠ "" := by simp
    have several : 2 ≤ operands.length := fills
    intro empty
    rcases (Text.joined_eq_empty_iff spaced).mp empty with rfl | rfl
    · exact absurd several (by decide)
    · exact absurd several (by decide)
  | function name => cases receiver <;> simp [Renderer.callText]
  | before mark =>
    have mark_filled : mark ≠ "" := fills
    simp [Renderer.callText, mark_filled]
  | after mark =>
    have mark_filled : mark ≠ "" := fills
    simp [Renderer.callText, mark_filled]
  | joined | plain => exact fills.elim

end Layout

namespace Signature

def operandCount (s : Signature) : Nat := s.parameters.countP FilterTree.ordinary

/-- The overloads among which the result is decided are laid out like the signature itself. -/
def laidOutAlike (s : Signature) : Bool :=
  match s.result with
  | .undecided overloads => overloads.members.all fun other => other.layout == s.layout
  | .type _ => true

/-- Whatever is called by the signature is written with some text around the operands. -/
structure Fills (s : Signature) : Prop where
  laid : s.layout.Fills s.operandCount
  alike : s.laidOutAlike = true

def spare : List String :=
  ["and", "or", "select", "orderBy", "combine", "expand", "filterRaw", "selectRaw"]

/-- A signature of any other function of a filter, a selection, an expansion or an ordering. The
result of a cast is the type that it names. -/
inductive Writes : Signature → Prop
  | declared {option : QueryOption} {name : String} {overloads : Overloads} {s : Signature} :
    option ∈ [.filter, .select, .expand, .orderBy] → name ∉ spare →
      Builtin.overloads option name = .ok overloads → s ∈ overloads.members → Writes s
  | cast {s : Signature} (type : TypeRef) :
    Builtin.signature .filter "cast" = .ok s → Writes (s.narrowed type)

theorem table_fills : ∀ entry ∈ Builtin.table,
    entry.1 ∈ [.filter, .select, .expand, .orderBy] → entry.2.1 ∉ spare →
      ∀ s ∈ entry.2.2.members, s.layout.Fills s.operandCount ∧ s.laidOutAlike = true := by
  decide +kernel

theorem entry_of_overloads {option : QueryOption} {name : String} {overloads : Overloads}
    (found : Builtin.overloads option name = .ok overloads) :
    (option, name, overloads) ∈ Builtin.table := by
  unfold Builtin.overloads at found
  split at found
  · rename_i entry first
    have named := List.find?_some first
    rw [Bool.and_eq_true, beq_iff_eq, beq_iff_eq] at named
    cases found
    rw [← named.1, ← named.2]
    exact List.mem_of_find?_eq_some first
  · cases found

theorem fills_of_writes {s : Signature} (writes : s.Writes) : s.Fills := by
  cases writes with
  | declared option name found member =>
    have checked := table_fills _ (entry_of_overloads found) option name _ member
    exact ⟨checked.1, checked.2⟩
  | cast type found =>
    cases found
    exact ⟨trivial, rfl⟩

theorem writes_of_signature {option : QueryOption} {name : String} {s : Signature}
    (clausal : option ∈ [.filter, .select, .expand, .orderBy]) (other : name ∉ spare)
    (found : Builtin.signature option name = .ok s) : s.Writes := by
  obtain ⟨overloads, listed, first⟩ := bind_eq_ok.mp found
  split at first
  · rename_i head
    cases first
    exact .declared clausal other listed (List.mem_of_mem_head? head)
  · cases first

theorem writes_of_overload {operator : String} {type : PrimitiveType} {s : Signature}
    (number : type = .int64 ∨ type = .double)
    (found : Builtin.overload .filter operator type = .ok s) : s.Writes := by
  have other : operator ∉ spare := by
    intro member
    simp only [spare, List.mem_cons, List.not_mem_nil, or_false] at member
    rcases number with rfl | rfl
    all_goals
      rcases member with rfl | rfl | rfl | rfl | rfl | rfl | rfl | rfl
      all_goals cases found
  obtain ⟨overloads, listed, chosen⟩ := bind_eq_ok.mp found
  split at chosen
  · rename_i one
    cases chosen
    exact .declared List.mem_cons_self other listed (List.mem_of_find?_eq_some one)
  · cases chosen

theorem apply_eq_ok {s : Signature} {receiver : Option Expr} {args : List Expr} {e : Expr}
    (applied : s.apply receiver args = .ok e) :
    ∃ pairs lost, Pairing s.parameters args pairs lost ∧
      e = .call ⟨receiver, pairs.map (typeConstant (bind pairs)), s, bind pairs⟩ := by
  by_cases walks : ∃ pairs lost, Pairing s.parameters args pairs lost
  · obtain ⟨pairs, lost, walk⟩ := walks
    rw [apply_of_pairing walk] at applied
    cases applied
    exact ⟨pairs, lost, walk, rfl⟩
  · rw [apply_of_unpaired fun pairs lost walk => walks ⟨pairs, lost, walk⟩] at applied
    cases applied

theorem given_of_apply {s : Signature} {receiver : Option Expr} {args : List Expr} {c : Call}
    (applied : s.apply receiver args = .ok (.call c)) :
    c.receiver = receiver ∧ c.signature = s ∧
      ∀ argument ∈ c.args, ∃ e ∈ args, ∃ type, argument.1 = e.expecting type := by
  obtain ⟨pairs, lost, walk, same⟩ := apply_eq_ok applied
  cases same
  refine ⟨rfl, rfl, fun argument member => ?_⟩
  obtain ⟨pair, present, rfl⟩ := List.mem_map.mp member
  rw [typeConstant_eq]
  exact ⟨pair.1, (pairing_sublist walk).subset (List.mem_map_of_mem present), _, rfl⟩

theorem pairing_ordinary {parameters : List Parameter} {args lost : List Expr}
    {pairs : List (Expr × Parameter)} (walk : Pairing parameters args pairs lost) :
    (parameters.filter FilterTree.ordinary).Sublist (pairs.map Prod.snd) := by
  induction walk with
  | done => exact .slnil
  | passed _ optional _ _ ih =>
    rw [List.filter_cons_of_neg (by simp [FilterTree.ordinary, optional])]
    exact ih
  | @taken p parameters _ _ _ _ _ _ _ ih =>
    rw [List.map_cons]
    cases ordinary : FilterTree.ordinary p with
    | true => rw [List.filter_cons_of_pos ordinary]; exact ih.cons_cons p
    | false => rw [List.filter_cons_of_neg (by simp [ordinary])]; exact ih.cons p
  | absorbed _ _ _ _ ih => exact ih.cons _
  | closed repeated _ _ ih =>
    rw [List.filter_cons_of_neg (by simp [FilterTree.ordinary, repeated])]
    exact ih
  | swallowed repeated _ _ _ _ ih =>
    rw [List.filter_cons_of_neg (by simp [FilterTree.ordinary, repeated])]
    exact ih

end Signature

namespace CallOf

variable {schema : Schema} {c c' : Call}

/-- What the functions of filters, selections, expansions and orderings are applied to, those that
join a list or expand and those for text that is written by hand set aside. -/
inductive Applies : Option Expr → List Expr → Call → Prop
  | builtin {option : QueryOption} {name : String} {args : List Expr} {c : Call} :
    option ∈ [.filter, .select, .expand, .orderBy] → name ∉ Signature.spare →
      callBuiltin option name args = .ok (.call c) → Applies none args c
  | numeric {operator : String} {operands : List Expr} {c : Call} :
    Filter.numeric operator operands none = .ok (.call c) → Applies none operands c
  | numericAs {operator : String} {operands : List Expr} {type : PrimitiveType} {c : Call} :
    Filter.numeric operator operands (some type) = .ok (.call c) →
      Applies none (operands ++ [.directive (.result type)]) c
  | cast {e : Expr} {type : TypeRef} {c : Call} :
    Filter.cast e type = .ok (.call c) → Applies none [e, .raw type.text] c
  | quantify {quantifier variableName : String} {collection element : Cursor}
    {predicate : Cursor → Except Error Expr} {body : Expr} {c : Call} :
    quantifier ∈ ["any", "all"] →
      Filter.quantify quantifier collection variableName predicate = .ok (.call c) →
      collection.element variableName = .ok element → predicate element = .ok body →
      Applies (some collection.toExpr)
        [.assembled [.text (variableName ++ ":"), .expr body] (.type .boolean)] c
  | notEmpty {collection : Cursor} {c : Call} :
    Filter.notEmpty collection = .ok (.call c) → Applies (some collection.toExpr) [] c

theorem as_not_spare (operator : String) : operator ++ "_as" ∉ Signature.spare := by
  intro member
  have ending : ∀ name ∈ Signature.spare, name.toList.getLast? ≠ some 's' := by decide
  apply ending _ member
  simp

theorem writes_of_applies {receiver : Option Expr} {args : List Expr}
    (applies : Applies receiver args c) :
    ∃ s : Signature, s.Writes ∧ s.apply receiver args = .ok (.call c) := by
  cases applies with
  | builtin clausal other made =>
    obtain ⟨s, found, applied⟩ := bind_eq_ok.mp made
    exact ⟨s, Signature.writes_of_signature clausal other found, applied⟩
  | numeric made =>
    obtain ⟨s, found, applied⟩ := bind_eq_ok.mp made
    exact ⟨s, Signature.writes_of_overload (FilterTree.inferResult_none _ _) found, applied⟩
  | numericAs made =>
    obtain ⟨s, found, applied⟩ := bind_eq_ok.mp made
    exact ⟨s, Signature.writes_of_signature List.mem_cons_self (as_not_spare _) found, applied⟩
  | cast made =>
    obtain ⟨s, found, applied⟩ := bind_eq_ok.mp made
    exact ⟨_, .cast _ found, applied⟩
  | quantify either made element predicate =>
    obtain ⟨_, reached, made⟩ := bind_eq_ok.mp made
    cases element.symm.trans reached
    obtain ⟨_, built, made⟩ := bind_eq_ok.mp made
    cases predicate.symm.trans built
    obtain ⟨s, found, applied⟩ := bind_eq_ok.mp made
    have other : ∀ name ∈ ["any", "all"], name ∉ Signature.spare := by decide
    exact ⟨s, Signature.writes_of_signature List.mem_cons_self (other _ either) found, applied⟩
  | notEmpty made =>
    obtain ⟨s, found, applied⟩ := bind_eq_ok.mp made
    exact ⟨s, Signature.writes_of_signature List.mem_cons_self (by decide) found, applied⟩

theorem operandCount_le {s : Signature} {receiver : Option Expr} {args : List Expr}
    (applied : s.apply receiver args = .ok (.call c)) :
    s.operandCount ≤ (operands c.args).length := by
  obtain ⟨pairs, lost, walk, same⟩ := Signature.apply_eq_ok applied
  cases same
  have declared : ((pairs.map (Signature.typeConstant (Signature.bind pairs))).map Prod.snd) =
      pairs.map Prod.snd := by
    rw [List.map_map]
    exact List.map_congr_left fun pair _ => Signature.typeConstant_parameter _ pair
  have plain : (s.parameters.filter FilterTree.ordinary).filter
      (fun p => !p.directiveKind?.isSome) = s.parameters.filter FilterTree.ordinary := by
    apply List.filter_eq_self.mpr
    intro p member
    have ordinary := (List.mem_filter.mp member).2
    simp only [FilterTree.ordinary, Bool.and_eq_true, Option.isNone_iff_eq_none] at ordinary
    simp [ordinary.2]
  have taken := (Signature.pairing_ordinary walk).filter fun p => !p.directiveKind?.isSome
  rw [plain, ← declared, List.filter_map] at taken
  have counted := taken.length_le
  rw [List.length_map] at counted
  rw [Signature.operandCount, List.countP_eq_length_filter]
  exact counted

theorem settledSignature_alike {argument : Argument} {type : TypeRef}
    (alike : c.signature.laidOutAlike = true) :
    (c.settledSignature argument type).layout = c.signature.layout ∧
      (c.settledSignature argument type).laidOutAlike = true := by
  unfold settledSignature
  dsimp only
  cases result : c.signature.result with
  | type decided => exact ⟨rfl, rfl⟩
  | undecided overloads =>
    dsimp only
    cases found : overloads.byResult? type with
    | none => exact ⟨rfl, rfl⟩
    | some overload =>
      rw [Signature.laidOutAlike, result] at alike
      have member := List.mem_of_find?_eq_some found
      have decided : overload.result.concrete? = some type := by
        simpa using List.find?_some found
      refine ⟨by simpa using List.all_eq_true.mp alike overload member, ?_⟩
      cases settled : overload.result with
      | type => simp [Signature.laidOutAlike, settled]
      | undecided =>
        rw [settled] at decided
        cases decided

theorem round_layout (alike : c.signature.laidOutAlike = true)
    (next : c.round schema = .ok (.next c')) :
    c'.signature.layout = c.signature.layout ∧ c'.signature.laidOutAlike = true := by
  have kept (removed : List Argument) : (c.signatureWithout removed).layout = c.signature.layout ∧
      (c.signatureWithout removed).laidOutAlike = true := ⟨rfl, alike⟩
  cases round_eq_ok next with
  | next split held worked =>
    cases worked with
    | customName | format => exact kept _
    | result type => exact settledSignature_alike alike
    | subQueries expanded | countOption expanded =>
      obtain ⟨target, p, options, _, _, rfl⟩ := expand_next expanded
      exact kept _

theorem reduce_layout (alike : c.signature.laidOutAlike = true)
    (reduced : c.reduce schema = .ok (.call c')) : c'.signature.layout = c.signature.layout := by
  fun_induction reduce schema c with
  | case1 => cases reduced
  | case2 =>
    cases reduced
    rfl
  | case3 => cases reduced
  | case4 c next step ih =>
    obtain ⟨same, alike⟩ := round_layout alike step
    rw [ih alike reduced, same]

end CallOf

namespace Renderer

variable {renderer : Renderer} {c : Call} {scope : Scope} {rendering : Rendering}

theorem length_of_mapM {α β : Type} {f : α → Traced β} {items : List α} {results : List β}
    (mapped : (items.mapM f).outcome = .ok results) : results.length = items.length :=
  (Traced.mapM_eq_ok.mp mapped).length_eq.symm

theorem call_ne_empty (fills : c.signature.Fills)
    (enough : c.signature.operandCount ≤ (CallOf.operands c.args).length)
    (composed : ∀ paths, ∀ argument ∈ c.args, argument.1 ≠ .directive (.rawPaths paths))
    (evaluated : (renderer.evaluate (.call c) scope).outcome = .ok rendering) :
    rendering.textOrEmpty ≠ "" := by
  rw [evaluate_reduced] at evaluated
  obtain ⟨reduced, worked, evaluated⟩ := Traced.outcome_bind_eq_ok.mp evaluated
  cases reduced with
  | rawText paths write =>
    obtain ⟨p, q, present, _⟩ := CallOf.reduce_pair worked
    exact absurd rfl (composed paths _ (present.subset List.mem_cons_self))
  | call c' =>
    obtain ⟨_, _, evaluated⟩ := Traced.outcome_bind_eq_ok.mp evaluated
    obtain ⟨receiver, _, evaluated⟩ := Traced.outcome_bind_eq_ok.mp evaluated
    obtain ⟨texts, written, same⟩ := Traced.outcome_bind_eq_ok.mp evaluated
    cases same
    have layout := CallOf.reduce_layout fills.alike worked
    have carried := (CallOf.reduce_operands worked).2.length_eq
    have counted := length_of_mapM written
    apply Layout.callText_ne_empty
    rw [List.length_map, layout]
    exact fills.laid.mono (by omega)

end Renderer
end ODataRequest
