import ODataRequest.Expr.Reduction
import ODataRequest.Proofs.Literals
namespace ODataRequest

namespace Value

variable {P : Value → Prop}

mutual

theorem induction (single : ∀ value, value.isList = false → P value)
    (list : ∀ items, (∀ item ∈ items, P item) → P (.list items)) : (value : Value) → P value
  | .list items => list items (induction_items single list items)
  | .null | .bool _ | .int _ | .float _ | .decimal _ | .string _ | .guid _ | .dateTimeOffset _
  | .date _ | .timeOfDay _ | .duration _ | .binary _ | .member _ | .raw _ => single _ rfl

theorem induction_items (single : ∀ value, value.isList = false → P value)
    (list : ∀ items, (∀ item ∈ items, P item) → P (.list items)) :
    (items : List Value) → ∀ item ∈ items, P item
  | [], _, held => absurd held List.not_mem_nil
  | first :: rest, item, held => by
    rcases List.mem_cons.mp held with same | behind
    · exact same ▸ induction single list first
    · exact induction_items single list rest item behind

end

mutual

/-- The values at the ends of a list, however deep they stand; any other value is its own. -/
def leaves : Value → List Value
  | .list items => leavesOf items
  | value => [value]

def leavesOf : List Value → List Value
  | [] => []
  | item :: rest => leaves item ++ leavesOf rest

end

mutual

/-- The text of a value from the texts of its leaves: lists stand in parentheses. -/
def spelled (write : Value → String) : Value → String
  | .list items => Literal.listText (spelledItems write items)
  | value => write value

def spelledItems (write : Value → String) : List Value → List String
  | [] => []
  | item :: rest => spelled write item :: spelledItems write rest

end

variable {value leaf : Value} {items : List Value} {write : Value → String}

theorem leaves_of_single (single : value.isList = false) : value.leaves = [value] := by
  cases value with
  | list items => cases single
  | _ => rfl

theorem spelled_of_single (single : value.isList = false) : value.spelled write = write value := by
  cases value with
  | list items => cases single
  | _ => rfl

theorem leavesOf_eq (items : List Value) : leavesOf items = items.flatMap leaves := by
  induction items with
  | nil => rfl
  | cons item rest ih => rw [leavesOf, ih, List.flatMap_cons]

theorem spelledItems_eq (items : List Value) :
    spelledItems write items = items.map (spelled write) := by
  induction items with
  | nil => rfl
  | cons item rest ih => rw [spelledItems, ih, List.map_cons]

theorem mem_leaves_list : leaf ∈ (list items).leaves ↔ ∃ item ∈ items, leaf ∈ item.leaves := by
  rw [leaves, leavesOf_eq, List.mem_flatMap]

theorem spelled_list :
    (list items).spelled write = Literal.listText (items.map (spelled write)) := by
  rw [spelled, spelledItems_eq]

end Value

namespace Literal

variable {schema : Schema} {type : TypeRef} {value : Value} {text : String}
  {write : Value → String}

theorem elementOrSelf_of_single (single : type.isCollection = false) :
    type.elementOrSelf = type := by
  cases type with
  | named scope name => rfl
  | collection element => cases single

/-- The element type decides what a list is written as; the type of the list only whether it may
be written. -/
theorem serialize_list_element {items : List Value} :
    serialize schema (.list items) type = .ok text ↔
      type.elementOrSelf.isCollection = false ∧
        serialize schema (.list items) type.elementOrSelf = .ok text := by
  rw [serialize_list_eq_ok, serialize_list_eq_ok]
  constructor
  · intro ⟨single, written⟩
    rw [elementOrSelf_of_single single]
    exact ⟨single, single, written⟩
  · intro ⟨single, _, written⟩
    rw [elementOrSelf_of_single single] at written
    exact ⟨single, written⟩

theorem serialize_of_leaves (single : type.isCollection = false) (value : Value)
    (written : ∀ leaf ∈ value.leaves, serialize schema leaf type = .ok (write leaf)) :
    serialize schema value type = .ok (value.spelled write) := by
  induction value using Value.induction with
  | single value leaf =>
    rw [Value.spelled_of_single leaf]
    exact written value (by simp [Value.leaves_of_single leaf])
  | list items ih =>
    have each : ∀ item ∈ items, serialize schema item type = .ok (item.spelled write) := by
      intro item member
      apply ih item member
      intro leaf inside
      exact written leaf (Value.mem_leaves_list.mpr ⟨item, member, inside⟩)
    rw [serialize_list_eq_ok, elementOrSelf_of_single single, Value.spelled_list]
    exact ⟨single, _, serializeItems_map each, rfl⟩

theorem leaf_of_serialize (single : type.isCollection = false) (value : Value)
    (written : ∃ text, serialize schema value type = .ok text) :
    ∀ leaf ∈ value.leaves, ∃ text, serialize schema leaf type = .ok text := by
  induction value using Value.induction with
  | single value leaf =>
    intro same member
    rw [Value.leaves_of_single leaf, List.mem_singleton] at member
    exact member ▸ written
  | list items ih =>
    obtain ⟨text, written⟩ := written
    obtain ⟨_, literals, each, _⟩ := serialize_list_eq_ok.mp written
    rw [elementOrSelf_of_single single] at each
    intro leaf member
    obtain ⟨item, present, inside⟩ := Value.mem_leaves_list.mp member
    exact ih item present (exists_literal each item present) leaf inside

theorem serialize_eq_ok_iff (single : type.isCollection = false) :
    serialize schema value type = .ok text ↔
      ∃ write : Value → String,
        (∀ leaf ∈ value.leaves, serialize schema leaf type = .ok (write leaf)) ∧
          text = value.spelled write := by
  constructor
  · intro written
    choose! write each using leaf_of_serialize single value ⟨text, written⟩
    rw [serialize_of_leaves single value each, Except.ok.injEq] at written
    exact ⟨write, each, written.symm⟩
  · intro ⟨write, each, same⟩
    rw [serialize_of_leaves single value each, same]

theorem exists_error_iff {ε α : Type} {x : Except ε α} :
    (∃ e, x = .error e) ↔ ¬∃ a, x = .ok a := by
  cases x with
  | error e => simp
  | ok a => simp

theorem serialize_list_iff {items : List Value} :
    serialize schema (.list items) type = .ok text ↔
      type.elementOrSelf.isCollection = false ∧
        ∃ write : Value → String,
          (∀ leaf ∈ (Value.list items).leaves,
            serialize schema leaf type.elementOrSelf = .ok (write leaf)) ∧
          text = (Value.list items).spelled write := by
  rw [serialize_list_element]
  constructor
  · intro ⟨single, written⟩
    exact ⟨single, (serialize_eq_ok_iff single).mp written⟩
  · intro ⟨single, written⟩
    exact ⟨single, (serialize_eq_ok_iff single).mpr written⟩

theorem refused_list_iff (schema : Schema) (type : TypeRef) (items : List Value) :
    (∃ e, serialize schema (.list items) type = .error e) ↔
      type.elementOrSelf.isCollection = true ∨
        ∃ leaf ∈ (Value.list items).leaves,
          ∃ e, serialize schema leaf type.elementOrSelf = .error e := by
  by_cases single : type.elementOrSelf.isCollection = false
  · have leaves : (∃ text, serialize schema (.list items) type = .ok text) ↔
        ∀ leaf ∈ (Value.list items).leaves,
          ∃ text, serialize schema leaf type.elementOrSelf = .ok text := by
      constructor
      · intro ⟨text, written⟩
        exact leaf_of_serialize single (.list items) ⟨text, (serialize_list_element.mp written).2⟩
      · intro each
        choose! write written using each
        exact ⟨_, serialize_list_iff.mpr ⟨single, write, written, rfl⟩⟩
    simp only [exists_error_iff, leaves, single, Bool.false_eq_true, false_or, not_forall,
      exists_prop]
  · have nested : type.elementOrSelf.isCollection = true := by simpa using single
    rw [exists_error_iff]
    refine iff_of_true ?_ (.inl nested)
    intro ⟨text, written⟩
    exact single (serialize_list_element.mp written).1

theorem apply_nested (format : Format) (parameter : String) {items : List Value}
    (nested : ∃ item ∈ items, item.isList = true) :
    format.apply (.list items) parameter =
      .error (.unsupportedFormat format.elementType.text parameter
        "nested lists cannot be mapped") := by
  have found : items.any Value.isList = true := List.any_eq_true.mpr nested
  obtain ⟨elementType, formatter⟩ := format
  cases formatter with
  | item write => simp [Format.apply, found]
  | list write => simp [Format.apply, found]

/-- A list of lists is refused exactly if its type is a collection of collections or something at
the end of its lists has no literal of the element type. In all other cases it is written, with a
pair of parentheses for each list. A format of the author's own refuses it always. -/
theorem nested_list_refused_iff (schema : Schema) (type : TypeRef) {items : List Value}
    (nested : ∃ item ∈ items, item.isList = true) :
    ((∃ e, serialize schema (.list items) type = .error e) ↔
      type.elementOrSelf.isCollection = true ∨
        ∃ leaf ∈ (Value.list items).leaves,
          ∃ e, serialize schema leaf type.elementOrSelf = .error e) ∧
    (∀ text, serialize schema (.list items) type = .ok text ↔
      type.elementOrSelf.isCollection = false ∧
        ∃ write : Value → String,
          (∀ leaf ∈ (Value.list items).leaves,
            serialize schema leaf type.elementOrSelf = .ok (write leaf)) ∧
          text = (Value.list items).spelled write) ∧
    ∀ (format : Format) (parameter : String), format.apply (.list items) parameter =
      .error (.unsupportedFormat format.elementType.text parameter
        "nested lists cannot be mapped") := by
  refine ⟨refused_list_iff schema type items, fun text => serialize_list_iff, ?_⟩
  exact fun format parameter => apply_nested format parameter nested

def mixed : List Value := [.list [.int 1], .bool true]

theorem nested_list_refused_iff_mixed :
    (∃ item ∈ mixed, item.isList = true) ∧
    ∃ e, serialize .empty (.list mixed) (.collection .int64) = .error e := by
  have nested : ∃ item ∈ mixed, item.isList = true := ⟨.list [.int 1], by simp [mixed], rfl⟩
  refine ⟨nested, (nested_list_refused_iff .empty (.collection .int64) nested).1.mpr (.inr ?_)⟩
  exact ⟨.bool true, by simp [mixed, Value.leaves, Value.leavesOf], _, rfl⟩

theorem serialize_listed_one :
    serialize .empty (.list [.list [.int 1]]) (.collection .int64) = .ok "((1))" := by
  rfl

theorem listed_one_written :
    ¬∀ (schema : Schema) (type : TypeRef) (items : List Value),
      (∃ item ∈ items, item.isList = true) →
      ∃ e, serialize schema (.list items) type = .error e := by
  intro refused
  obtain ⟨e, failed⟩ := refused .empty (.collection .int64) [.list [.int 1]]
    ⟨.list [.int 1], List.mem_singleton_self _, rfl⟩
  cases failed.symm.trans serialize_listed_one

end Literal
end ODataRequest
