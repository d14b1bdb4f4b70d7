import ODataRequest.Literal
import ODataRequest.Proofs.Outcomes
namespace ODataRequest

/-!
What a literal is made of. Null and raw text are the same as every type and a list is made of the
literals of its items; the type decides the literal of every other value, and among the primitive
types only `Edm.String` decides how it is spelled, the others whether there is one.
-/

/-- The value is neither null nor raw text nor a list, so that its type decides its literal. -/
def Value.isTyped : Value → Bool
  | .null | .raw _ | .list _ => false
  | _ => true

namespace Literal

variable {schema : Schema} {value : Value} {type : TypeRef} {name text : String}

theorem serialize_typed (typed : value.isTyped = true) (type : TypeRef) :
    serialize schema value type = scalar schema value type := by
  cases value with
  | null => cases typed
  | raw text => cases typed
  | list items => cases typed
  | _ => rfl

theorem scalar_edm (schema : Schema) (value : Value) (name : String) :
    scalar schema value (.edm name) =
      ((primitive? name value).map pure).getD (.error (mismatch value (.edm name))) := by
  rfl

theorem serialize_edm_eq_ok (typed : value.isTyped = true) :
    serialize schema value (.edm name) = .ok text ↔ primitive? name value = some text := by
  rw [serialize_typed typed, scalar_edm]
  cases primitive? name value with
  | none => simp
  | some written => simp [pure, Except.pure]

theorem serializeItems_eq_mapM (schema : Schema) (items : List Value) (type : TypeRef) :
    serializeItems schema items type = items.mapM fun item => serialize schema item type := by
  induction items with
  | nil => rfl
  | cons item rest ih => rw [serializeItems, List.mapM_cons, ih]

theorem serializeItems_eq_ok {items : List Value} {literals : List String} :
    serializeItems schema items type = .ok literals ↔
      List.Forall₂ (fun item literal => serialize schema item type = .ok literal) items
        literals := by
  rw [serializeItems_eq_mapM, mapM_eq_ok]

theorem serializeItems_map {items : List Value} {write : Value → String}
    (each : ∀ item ∈ items, serialize schema item type = .ok (write item)) :
    serializeItems schema items type = .ok (items.map write) :=
  serializeItems_eq_ok.mpr (List.forall₂_map_right_iff.mpr (List.forall₂_same.mpr each))

theorem exists_literal {items : List Value} {literals : List String}
    (written : serializeItems schema items type = .ok literals) :
    ∀ item ∈ items, ∃ literal, serialize schema item type = .ok literal := by
  intro item member
  obtain ⟨literal, _, one⟩ := exists_of_forall₂ (serializeItems_eq_ok.mp written) member
  exact ⟨literal, one⟩

def listText (literals : List String) : String := "(" ++ Text.joined "," literals ++ ")"

theorem serialize_list_eq_ok {items : List Value} :
    serialize schema (.list items) type = .ok text ↔
      type.elementOrSelf.isCollection = false ∧
        ∃ literals, serializeItems schema items type.elementOrSelf = .ok literals ∧
          text = listText literals := by
  rw [serialize]
  cases nested : type.elementOrSelf.isCollection with
  | true => simp
  | false =>
    simp only [Bool.false_eq_true, if_false, true_and, bind_eq_ok, pure, Except.pure,
      Except.ok.injEq, eq_comm (a := text)]
    rfl

end Literal
end ODataRequest
