import ODataRequest.Proofs.Validation
import ODataRequest.Proofs.WellFormedSchemas
namespace ODataRequest

/-!
The kind of a position is that of its type. A type has a kind if it is at most a collection and its
innermost type is declared with sound properties; else it is too deep, or the schema is at fault.
-/

theorem Schema.resolves_declared {schema : Schema} {c : ComplexType}
    (declared : c ∈ schema.complexTypes) : schema.Resolves c.type :=
  exists_kind_iff.mpr (.inr (.inr ⟨_, mem_complexTypes.mp declared, rfl, rfl⟩))

namespace Schema

variable {schema : Schema}

theorem properties_blames (c : ComplexType) :
    Yields (schema.properties c) (fun _ => True) fun e => e.ofSchema = true := by
  have walked : Yields (schema.baseChain c) (fun _ => True) fun e => e.ofSchema = true := by
    apply (schema.baseChain_fails c).causes
    rintro _ ⟨name, base, rfl⟩
    rfl
  apply walked.bind
  intro chain _
  have listed : Yields (chain.reverse.foldlM declareAll []) (fun _ => True)
      fun e => e.ofSchema = true := by
    apply Yields.foldlM trivial
    intro listed _ owner _
    apply Yields.foldlM trivial
    intro listed _ entry _
    rw [declare]
    split
    · exact Yields.error rfl
    · exact Yields.ok trivial
  exact listed.bind fun _ _ => Yields.ok trivial

theorem kind_blames (type : TypeRef) :
    Yields (schema.kind type.innermost) (fun _ => True) fun e => e.ofSchema = true := by
  induction type with
  | collection element ih => exact ih
  | named scope name =>
    apply (schema.kind_named_fails scope name).causes
    rintro _ rfl
    rfl

end Schema

namespace Cursor

variable {schema : Schema} {type : TypeRef} {kind : CursorKind}

theorem depth_of_classify (classified : classify schema type = .ok kind) : type.depth ≤ 1 := by
  unfold classify at classified
  split at classified
  · cases classified
  · rename_i shallow
    exact Nat.le_of_not_lt shallow

theorem classify_named (schema : Schema) (scope name : String) :
    classify schema (.named scope name) = classifySingle schema (.named scope name) := by
  unfold classify
  exact if_neg (Nat.not_lt_zero 1)

theorem classify_collection (schema : Schema) (scope name : String) :
    classify schema (.collection (.named scope name)) =
      (classifySingle schema (.named scope name)).map fun _ => .collection := by
  unfold classify
  exact if_neg (Nat.lt_irrefl 1)

theorem complex_of_classifySingle (classified : classifySingle schema type = .ok kind) :
    (kind = .complex ∧ ∃ c, schema.complex type = .ok c) ∨
      kind ≠ .complex ∧ schema.complex type = .error (.unknownType type.text) := by
  rcases bind_eq_ok.mp classified with ⟨found, resolved, classified⟩
  rw [Schema.complex, resolved]
  cases found with
  | complex c =>
    rcases bind_eq_ok.mp classified with ⟨_, _, classified⟩
    rcases bind_eq_ok.mp classified with ⟨_, _, classified⟩
    cases classified
    exact .inl ⟨rfl, c, rfl⟩
  | primitive | raw | enum =>
    cases classified
    refine .inr ⟨?_, rfl⟩
    intro same
    cases same

theorem classify_innermost (classified : classify schema type = .ok kind) :
    ∃ inner, classifySingle schema type.innermost = .ok inner ∧
      classify schema type.innermost = .ok inner ∧
      kind = if type.isCollection then .collection else inner := by
  have shallow := depth_of_classify classified
  cases type with
  | named scope name =>
    rw [classify_named] at classified
    exact ⟨kind, classified, (classify_named ..).trans classified, rfl⟩
  | collection element =>
    cases element with
    | named scope name =>
      rw [classify_collection] at classified
      rcases map_eq_ok.mp classified with ⟨inner, single, rfl⟩
      exact ⟨inner, single, (classify_named ..).trans single, rfl⟩
    | collection element => simp [TypeRef.depth] at shallow

theorem classifySingle_total (closed : schema.Closed) {found : TypeKind}
    (resolved : schema.kind type = .ok found) : ∃ kind, classifySingle schema type = .ok kind := by
  have total : Yields (classifySingle schema type) (fun _ => True) fun _ => False := by
    rw [classifySingle, resolved]
    cases found with
    | complex c =>
      have declared : schema.complex type = .ok c := by rw [Schema.complex, resolved]
      rcases closed.listed c (Schema.complex_mem declared) with ⟨properties, listed, resolve⟩
      have checked : Yields (properties.forM fun entry =>
          (schema.kind entry.2.type.innermost).map fun _ => ()) (fun _ => True) fun _ => False := by
        apply Yields.forM
        intro entry member
        rcases resolve entry member with ⟨found, known⟩
        rw [known]
        exact Yields.ok trivial
      change Yields (schema.properties c >>= _) _ _
      rw [listed]
      exact checked.bind fun _ _ => Yields.ok trivial
    | primitive | raw | enum => exact Yields.ok trivial
  rcases total.exists_ok with ⟨kind, classified, _⟩
  exact ⟨kind, classified⟩

theorem classify_wrap_total (closed : schema.Closed) {c : ComplexType}
    (declared : c ∈ schema.complexTypes) {layers : Nat} (shallow : layers ≤ 1) :
    ∃ kind, classify schema (c.type.wrap layers) = .ok kind := by
  rcases Schema.resolves_declared declared with ⟨found, resolved⟩
  rcases classifySingle_total closed resolved with ⟨kind, classified⟩
  match layers, shallow with
  | 0, _ => exact ⟨kind, (classify_named ..).trans classified⟩
  | 1, _ =>
    exact ⟨.collection, (classify_collection ..).trans (map_eq_ok.mpr ⟨kind, classified, rfl⟩)⟩

theorem classifySingle_blames (type : TypeRef) :
    Yields (classifySingle schema type.innermost) (fun _ => True) fun e => e.ofSchema = true := by
  apply (Schema.kind_blames type).bind
  intro found _
  cases found with
  | complex c =>
    apply (Schema.properties_blames c).bind
    intro properties _
    have checked : Yields (properties.forM fun entry =>
        (schema.kind entry.2.type.innermost).map fun _ => ()) (fun _ => True)
        fun e => e.ofSchema = true := by
      apply Yields.forM
      intro entry _
      exact (Schema.kind_blames entry.2.type).map fun _ _ => trivial
    exact checked.bind fun _ _ => Yields.ok trivial
  | primitive | raw | enum => exact Yields.ok trivial

theorem classify_blames (shallow : type.depth ≤ 1) :
    Yields (classify schema type) (fun _ => True) fun e => e.ofSchema = true := by
  cases type with
  | named scope name =>
    rw [classify_named]
    exact classifySingle_blames (.named scope name)
  | collection element =>
    cases element with
    | named scope name =>
      rw [classify_collection]
      exact (classifySingle_blames (.named scope name)).map fun _ _ => trivial
    | collection element => simp [TypeRef.depth] at shallow

theorem classify_nested (nested : 2 ≤ type.depth) :
    classify schema type = .error (.nestedCollection type.text) := by
  unfold classify
  exact if_pos nested

theorem classify_nested_iff :
    (∃ text, classify schema type = .error (.nestedCollection text)) ↔ 2 ≤ type.depth := by
  refine ⟨?_, fun nested => ⟨_, classify_nested nested⟩⟩
  rintro ⟨text, refused⟩
  by_contra shallow
  cases (classify_blames (by omega)).of_eq_error refused

end Cursor
end ODataRequest
