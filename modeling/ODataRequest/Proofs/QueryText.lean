import ODataRequest.Clause.Options
import ODataRequest.Proofs.PercentDecoding
import ODataRequest.Proofs.QueryPairs
import Mathlib.Data.List.TakeWhile
namespace ODataRequest

def PlainKey (key : String) : Prop := '&' ∉ key.toList ∧ '=' ∉ key.toList

instance (key : String) : Decidable (PlainKey key) :=
  inferInstanceAs (Decidable ('&' ∉ key.toList ∧ '=' ∉ key.toList))

/-- What stands before the first equality sign, and what is encoded behind it. -/
def readPair? (piece : List Char) : Option (String × String) :=
  match piece.dropWhile (· != '=') with
  | [] => none
  | _ :: value =>
    (Text.decodeComponent? (String.ofList value)).map fun text =>
      (String.ofList (piece.takeWhile (· != '=')), text)

def readQuery? (text : String) : Option (List (String × String)) :=
  if text = "" then some [] else (text.toList.splitOn '&').mapM readPair?

section Splitting

variable {pair : String × String} {pairs : List (String × String)}

theorem not_mem_of_mem_splitOn {mark : Char} {chars piece : List Char}
    (member : piece ∈ chars.splitOn mark) : mark ∉ piece := by
  induction chars generalizing piece with
  | nil =>
    rw [List.splitOn_nil, List.mem_singleton] at member
    rw [member]
    exact List.not_mem_nil
  | cons char rest ih =>
    rw [List.splitOn_cons_eq_if_modifyHead] at member
    split at member
    · rcases List.mem_cons.mp member with rfl | later
      · exact List.not_mem_nil
      · exact ih later
    · rename_i different
      obtain ⟨first, others, split⟩ := List.exists_cons_of_ne_nil (List.splitOn_ne_nil mark rest)
      -- The character belongs to the first piece of the rest.
      rw [split, List.modifyHead_cons] at member
      have first_plain : mark ∉ first := ih (split ▸ List.mem_cons_self)
      rcases List.mem_cons.mp member with rfl | later
      · intro present
        rcases List.mem_cons.mp present with rfl | present
        · exact different (beq_self_eq_true mark)
        · exact first_plain present
      · exact ih (split ▸ List.mem_cons_of_mem first later)

theorem plain_of_readPair? {piece : List Char} (whole : '&' ∉ piece)
    (read : readPair? piece = some pair) : PlainKey pair.1 := by
  unfold readPair? at read
  split at read
  · cases read
  · rcases Option.map_eq_some_iff.mp read with ⟨text, _, rfl⟩
    unfold PlainKey
    rw [String.toList_ofList]
    constructor
    · intro member
      exact whole (List.takeWhile_subset _ member)
    · intro member
      have kept := List.mem_takeWhile_imp member
      simp at kept

theorem plain_of_readQuery? {text : String} (read : readQuery? text = some pairs) :
    ∀ pair ∈ pairs, PlainKey pair.1 := by
  have general : ∀ (pieces : List (List Char)) (pairs : List (String × String)),
      (∀ piece ∈ pieces, '&' ∉ piece) → pieces.mapM readPair? = some pairs →
      ∀ pair ∈ pairs, PlainKey pair.1 := by
    intro pieces
    induction pieces with
    | nil =>
      intro pairs _ read
      cases read
      simp
    | cons piece rest ih =>
      intro pairs whole read
      rw [List.mapM_cons] at read
      rcases Option.bind_eq_some_iff.mp read with ⟨first, head, read⟩
      rcases Option.bind_eq_some_iff.mp read with ⟨others, tail, same⟩
      cases same
      intro pair member
      rcases List.mem_cons.mp member with rfl | member
      · exact plain_of_readPair? (whole piece List.mem_cons_self) head
      · exact ih others (fun piece later => whole piece (List.mem_cons_of_mem _ later)) tail pair
          member
  unfold readQuery? at read
  split at read
  · cases read
    simp
  · exact general _ pairs (fun piece member => not_mem_of_mem_splitOn member) read

theorem readPair?_queryPair (plain : '=' ∉ pair.1.toList) :
    readPair? (queryPair true pair).toList = some pair := by
  have before : ∀ char ∈ pair.1.toList, (char != '=') = true := by
    intro char member
    apply bne_iff_ne.mpr
    rintro rfl
    exact plain member
  have written : (queryPair true pair).toList =
      pair.1.toList ++ '=' :: (Text.encodeComponent pair.2).toList := by
    simp [queryPair]
  have behind : (queryPair true pair).toList.dropWhile (· != '=') =
      '=' :: (Text.encodeComponent pair.2).toList := by
    rw [written, List.dropWhile_append_of_pos before]
    rfl
  have key : (queryPair true pair).toList.takeWhile (· != '=') = pair.1.toList := by
    rw [written, List.takeWhile_append_of_pos before]
    exact List.append_nil _
  rw [readPair?, behind, key]
  dsimp only
  rw [String.ofList_toList, String.ofList_toList, Text.decodeComponent?_encodeComponent]
  rfl

theorem not_mem_queryPair (plain : '&' ∉ pair.1.toList) :
    '&' ∉ (queryPair true pair).toList := by
  have encoded : '&' ∉ (Text.encodeComponent pair.2).toList :=
    Text.not_mem_encodeComponent (by decide) (by decide) pair.2
  simp [queryPair, plain, encoded]

theorem readPairs?_queryPairs (plain : ∀ pair ∈ pairs, PlainKey pair.1) :
    (pairs.map fun pair => (queryPair true pair).toList).mapM readPair? = some pairs := by
  induction pairs with
  | nil => rfl
  | cons head rest ih =>
    have head_plain : PlainKey head.1 := plain head List.mem_cons_self
    have others := ih fun pair later => plain pair (List.mem_cons_of_mem _ later)
    rw [List.map_cons, List.mapM_cons, readPair?_queryPair head_plain.2, others]
    rfl

theorem readQuery?_queryString (plain : ∀ pair ∈ pairs, PlainKey pair.1) :
    readQuery? (queryString true pairs) = some pairs := by
  cases pairs with
  | nil => rfl
  | cons head rest =>
    have filled : queryString true (head :: rest) ≠ "" := by
      rw [queryString, List.map_cons, Text.joined_cons, queryPair]
      simp
    have pieces : (queryString true (head :: rest)).toList =
        ['&'].intercalate ((head :: rest).map fun pair => (queryPair true pair).toList) := by
      rw [queryString, Text.joined, String.toList_intercalate, List.map_map]
      rfl
    have whole : ∀ piece ∈ (head :: rest).map fun pair => (queryPair true pair).toList,
        '&' ∉ piece := by
      intro piece member
      rcases List.mem_map.mp member with ⟨pair, present, rfl⟩
      exact not_mem_queryPair (plain pair present).1
    rw [readQuery?, if_neg filled, pieces, List.splitOn_intercalate '&' whole (by simp)]
    exact readPairs?_queryPairs plain

/-- A query string splits into the pairs it was built from exactly if their keys are plain. -/
theorem readQuery?_queryString_iff :
    readQuery? (queryString true pairs) = some pairs ↔ ∀ pair ∈ pairs, PlainKey pair.1 :=
  ⟨plain_of_readQuery?, readQuery?_queryString⟩

end Splitting

namespace Custom

def nameArgument (name : String) : Expr × Parameter :=
  (.directive (.customName name), .directive "name" .customName "query parameter name")

def call (name : String) (e : Expr) : Call where
  receiver := none
  args := [nameArgument name, (e, Builtin.untyped "value")]
  signature := .declared "custom" .custom [(nameArgument name).2, Builtin.untyped "value"]
    (.type .raw) .plain
  bindings := .empty

def named (name : String) (e : Expr) : Call :=
  { call name e with
    receiver := some (.root (.ofCustom name))
    args := [(e, Builtin.untyped "value")]
    signature := (call name e).signatureWithout [nameArgument name] }

theorem raw_eq (name text : String) : raw name text = .ok (.call (call name (.raw text))) := rfl

theorem key_call (name : String) (e : Expr) : Clause.key ⟨.call (call name e)⟩ = .ok name := rfl

theorem reduce_call (schema : Schema) (name : String) (e : Expr) :
    (call name e).reduce schema = .ok (.call (named name e)) := by
  have plain : ∀ argument ∈ (named name e).args, argument.2.directiveKind? = none := by
    intro argument member
    rw [List.mem_singleton.mp member]
    rfl
  have round : (call name e).round schema = .ok (.next (named name e)) := rfl
  rw [CallOf.reduce_round, round]
  exact CallOf.reduce_of_plain plain

/-- The value of a custom parameter is written as it would be by itself. -/
theorem render_call (renderer : Renderer) (name : String) {e : Expr}
    (other : Renderer.isDirective e = false) :
    renderer.render (.call (call name e)) = renderer.render e := by
  have received : renderer.receiverRendering (named name e) .it =
      pure (Renderer.anchor (.ofCustom name) Scope.it.nested) :=
    Renderer.evaluate_root ..
  exact Renderer.render_operand (reduce_call _ name e) rfl rfl other rfl rfl received

end Custom

namespace Clause

def givenName? (clause : Clause) : Option String :=
  clause.expr.topCall?.bind fun c => (customReceiver? c).or (customName? c)

theorem key_eq_ok {clause : Clause} {key : String} (keyed : clause.key = .ok key) :
    clause.givenName? = some key ∨
      clause.givenName? = none ∧ ∃ option : QueryOption, option.key? = some key := by
  unfold Clause.key at keyed
  rcases bind_eq_ok.mp keyed with ⟨c, called, keyed⟩
  rw [givenName?, Clause.call_eq_ok.mp called, Option.bind_some]
  rw [← Option.or_assoc] at keyed
  split at keyed
  · rename_i name found
    cases keyed
    rcases Option.or_eq_some_iff.mp found with given | ⟨absent, chosen⟩
    · exact .inl given
    · exact .inr ⟨absent, _, chosen⟩
  · cases keyed

theorem plain_option {option : QueryOption} {key : String} (keyed : option.key? = some key) :
    PlainKey key := by
  cases option <;> cases keyed <;> decide

theorem plain_key_iff {clause : Clause} {key : String} (keyed : clause.key = .ok key) :
    PlainKey key ↔ ∀ name, clause.givenName? = some name → PlainKey name := by
  rcases key_eq_ok keyed with given | ⟨absent, option, found⟩
  · rw [given]
    constructor
    · intro plain name same
      cases same
      exact plain
    · intro plain
      exact plain key rfl
  · rw [absent]
    constructor
    · intro _ name same
      cases same
    · intro _
      exact plain_option found

end Clause

namespace Mapping

theorem plain_pairs_iff {mapping : Mapping} {clauses : List Clause}
    {pairs : List (String × String)} (paired : List.Forall₂ mapping.ClausePair clauses pairs) :
    (∀ pair ∈ pairs, PlainKey pair.1) ↔
      ∀ clause ∈ clauses, ∀ name, clause.givenName? = some name → PlainKey name := by
  induction paired with
  | nil => simp
  | cons head _ ih =>
    rw [List.forall_mem_cons, List.forall_mem_cons, Clause.plain_key_iff head.1, ih]

/-- The query string of an accepted request reads as the query that it was built from exactly if
no name that an author gave to a custom parameter or an alias is split. -/
theorem readQuery?_eq_query_iff {mapping : Mapping} {root : String} {resource : ResourceParts}
    {target : Target} (accepted : (mapping.map root resource).outcome = .ok target)
    (identified : mapping.Identified resource.clauses) :
    readQuery? (target.address.queryString true) = some target.address.query ↔
      (∀ clause ∈ resource.clauses, ∀ name, clause.givenName? = some name → PlainKey name) ∧
        ∀ param, mapping.Carries resource param → PlainKey param.name := by
  rcases map_eq_ok accepted identified with
    ⟨draft, type, bindings, reached, gathered, typed, bound, distinct, rfl⟩
  have aliases : (∀ pair ∈ bindings, PlainKey pair.1) ↔
      ∀ param, mapping.Carries resource param → PlainKey param.name := by
    constructor
    · intro plain param carried
      rcases bound_of_carries gathered identified bound carried with ⟨text, _, paired⟩
      exact plain (param.name, text) paired
    · rintro plain ⟨name, text⟩ paired
      rcases carries_of_bound gathered bound paired with ⟨param, carried, rfl, _⟩
      exact plain param carried
  calc readQuery? (queryString true (draft.query ++ bindings)) = some (draft.query ++ bindings)
    _ ↔ ∀ pair ∈ draft.query ++ bindings, PlainKey pair.1 := readQuery?_queryString_iff
    _ ↔ (∀ pair ∈ draft.query, PlainKey pair.1) ∧ ∀ pair ∈ bindings, PlainKey pair.1 :=
      List.forall_mem_append
    _ ↔ _ := and_congr (plain_pairs_iff gathered.pairs) aliases

theorem readQuery?_latest :
    (Mapping.map { schema := Orders.schema } "http://svc" Orders.latest).outcome =
        .ok Orders.latestTarget ∧
      Mapping.Identified { schema := Orders.schema } Orders.latest.clauses ∧
      (readQuery? (Orders.latestTarget.address.queryString true) =
          some Orders.latestTarget.address.query ↔
        (∀ clause ∈ Orders.latest.clauses, ∀ name, clause.givenName? = some name →
          PlainKey name) ∧
          ∀ param, Mapping.Carries { schema := Orders.schema } Orders.latest param →
            PlainKey param.name) :=
  ⟨Orders.map_latest, Orders.identified_latest,
    readQuery?_eq_query_iff Orders.map_latest Orders.identified_latest⟩

namespace Orders

def given (name text : String) : Draft :=
  { Draft.ofSet orders with query := [(name, Draft.clauseText name text)] }

def givenTarget (name text : String) : Target :=
  (given name text).addressed "http://svc" (.collection order) []

theorem map_given (name text : String) :
    (Mapping.map { schema := schema } "http://svc"
      ⟨[.entitySet orders] ++ [.query [⟨.call (Custom.call name (.raw text))⟩]]⟩).outcome =
      .ok (givenTarget name text) := by
  apply map_clause (Custom.key_call name (.raw text))
  exact (Custom.render_call _ _ rfl).trans (Renderer.render_raw schema text)

end Orders

/-- A custom parameter that is named with an ampersand is read as something else. -/
theorem ampersand_not_read : ∃ e target, Custom.raw "a&b" "1" = .ok e ∧
    (Mapping.map { schema := Orders.schema } "http://svc"
      ⟨[.entitySet Orders.orders, .query [⟨e⟩]]⟩).outcome = .ok target ∧
    readQuery? (target.address.queryString true) ≠ some target.address.query := by
  refine ⟨_, _, Custom.raw_eq "a&b" "1", Orders.map_given "a&b" "1", ?_⟩
  intro read
  have plain : PlainKey "a&b" := readQuery?_queryString_iff.mp read _ List.mem_cons_self
  exact plain.1 (by decide)

end Mapping
end ODataRequest
