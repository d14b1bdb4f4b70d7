import ODataRequest.Proofs.CursorKinds
import ODataRequest.Proofs.Traversal
namespace ODataRequest

namespace Cursor

/-- Positions that steps lead to, one after another, from a type of the schema. -/
inductive Reached (schema : Schema) (type : TypeRef) : Cursor → Prop
  | start {root : RootSymbol} {cursor : Cursor} :
      start schema type root = .ok cursor → Reached schema type cursor
  | move {cursor next : Cursor} (m : Move) :
      Reached schema type cursor → cursor.move m = .ok next → Reached schema type next
  | element {cursor next : Cursor} (variableName : String) :
      Reached schema type cursor → cursor.element variableName = .ok next →
      Reached schema type next
  | context {cursor : Cursor} (name : String) :
      Reached schema type cursor → Reached schema type (cursor.inContext name)
  | aliased {cursor : Cursor} (param : Alias) :
      Reached schema type cursor → Reached schema type (cursor.withAlias param)

def OfComplex (cursor : Cursor) : Prop :=
  cursor.kind = .complex ∨
    cursor.kind = .collection ∧ classify cursor.schema cursor.type.innermost = .ok .complex

/-- What holds at every position: its kind is the class of its type, unless it is a count or a raw
value. -/
structure Settled (schema : Schema) (cursor : Cursor) : Prop where
  within : cursor.schema = schema
  shallow : cursor.type.depth ≤ 1
  classified : cursor.kind ≠ .count → cursor.kind ≠ .value →
    classify schema cursor.type = .ok cursor.kind

section Steps

variable {schema : Schema} {type : TypeRef} {cursor next : Cursor}

theorem settled_start {root : RootSymbol} (started : start schema type root = .ok cursor) :
    Settled schema cursor := by
  rcases bind_eq_ok.mp started with ⟨kind, classified, same⟩
  cases same
  exact ⟨rfl, depth_of_classify classified, fun _ _ => classified⟩

theorem settled_move (settled : Settled schema cursor) {m : Move}
    (moved : cursor.move m = .ok next) : Settled schema next := by
  cases m with
  | property name =>
    rcases property_inversion moved with ⟨_, property, kind, _, _, _, classified, rfl⟩
    rw [settled.within] at classified
    exact ⟨settled.within, depth_of_classify classified, fun _ _ => classified⟩
  | cast target =>
    rcases cast_inversion moved with ⟨_, derived, kind, _, _, _, classified, _, rfl⟩
    rw [settled.within] at classified
    exact ⟨settled.within, depth_of_classify classified, fun _ _ => classified⟩
  | count =>
    rcases count_inversion moved with ⟨_, rfl⟩
    exact ⟨settled.within, Nat.zero_le 1, fun counted => absurd rfl counted⟩
  | value =>
    rcases value_inversion moved with ⟨_, rfl⟩
    exact ⟨settled.within, Nat.zero_le 1, fun _ valued => absurd rfl valued⟩

theorem settled_element (settled : Settled schema cursor) {variableName : String}
    (entered : cursor.element variableName = .ok next) : Settled schema next := by
  unfold Cursor.element at entered
  split at entered
  · rcases bind_eq_ok.mp entered with ⟨type, _, entered⟩
    rcases bind_eq_ok.mp entered with ⟨element, started, same⟩
    cases same
    rw [settled.within] at started
    have inside := settled_start started
    exact ⟨inside.within, inside.shallow, inside.classified⟩
  · cases entered

theorem settled_reached (reached : Reached schema type cursor) : Settled schema cursor := by
  induction reached with
  | start started => exact settled_start started
  | move m _ moved ih => exact settled_move ih moved
  | element variableName _ entered ih => exact settled_element ih entered
  | context name _ ih => exact ⟨ih.within, ih.shallow, ih.classified⟩
  | aliased param _ ih => exact ⟨ih.within, ih.shallow, ih.classified⟩

end Steps

section Bases

variable {schema : Schema} {cursor : Cursor}

theorem castBase_of_single (settled : Settled schema cursor) (simple : cursor.kind ≠ .complex)
    (single : cursor.kind ≠ .collection) :
    cursor.castBase = .error (cursor.cannotTraverse "cast") := by
  rw [castBase, if_neg (Nat.not_lt.mpr settled.shallow)]
  cases kind : cursor.kind with
  | complex => exact absurd kind simple
  | collection => exact absurd kind single
  | primitive | enum | count | value => rfl

/-- Anything else asks for the declaration of its innermost type, which is there if that type is
complex and else is reported as unknown. -/
theorem castBase_of_compound (settled : Settled schema cursor)
    (compound : cursor.kind = .complex ∨ cursor.kind = .collection) :
    (cursor.OfComplex ∧ ∃ c ∈ schema.complexTypes, cursor.castBase = .ok c) ∨
      ¬cursor.OfComplex ∧
        cursor.castBase = .error (.unknownType cursor.type.innermost.text) := by
  have asked : cursor.castBase = schema.complex cursor.type.innermost := by
    rw [castBase, if_neg (Nat.not_lt.mpr settled.shallow), ← settled.within]
    rcases compound with kind | kind <;> rw [kind]
  have classified : classify schema cursor.type = .ok cursor.kind := by
    apply settled.classified <;> rcases compound with kind | kind <;> rw [kind] <;> nofun
  rcases classify_innermost classified with ⟨inner, single, innermost, same⟩
  have complex : cursor.OfComplex ↔ inner = .complex := by
    rw [OfComplex, settled.within, innermost, Except.ok.injEq]
    rcases compound with kind | kind
    · rw [kind] at same ⊢
      split at same
      · cases same
      · simp [same.symm]
    · simp [kind]
  rw [asked]
  rcases complex_of_classifySingle single with ⟨found, c, declared⟩ | ⟨other, unknown⟩
  · exact .inl ⟨complex.mpr found, c, Schema.complex_mem declared, declared⟩
  · exact .inr ⟨fun found => other (complex.mp found), unknown⟩

theorem resolveCast_refused (schema : Schema) (c : ComplexType) (target : String) :
    Yields (schema.resolveCast c target)
      (fun derived => ∃ d ∈ schema.complexTypes, derived = d.type)
      fun e => e = .unknownCast c.fullName target := by
  apply Yields.of_cases
  · intro derived resolved
    rcases Schema.resolveCast_derived resolved with ⟨d, member, rfl⟩
    exact ⟨d, Schema.derivedTypes_declared member, rfl⟩
  · intro e failed
    simp only [Schema.resolveCast] at failed
    split at failed
    · cases failed
    · split at failed
      · cases failed
      · cases failed
        rfl

theorem cast_of_castBase (closed : schema.Closed) (settled : Settled schema cursor)
    {c : ComplexType} (based : cursor.castBase = .ok c) (target : String) :
    Yields (cursor.cast target) (fun _ => True) fun e => e = .unknownCast c.fullName target := by
  rw [cast, based, settled.within]
  apply (resolveCast_refused schema c target).bind
  rintro _ ⟨d, declared, rfl⟩
  rcases classify_wrap_total closed declared settled.shallow with ⟨kind, classified⟩
  have reached : Yields (classify schema (d.type.wrap cursor.type.depth)) (fun _ => True)
      fun e => e = .unknownCast c.fullName target := by
    rw [classified]
    exact Yields.ok trivial
  exact reached.bind fun _ _ => Yields.ok trivial

theorem cast_of_failure {e : Error} (failed : cursor.castBase = .error e) (target : String) :
    cursor.cast target = .error e := by
  rw [cast, failed]
  rfl

theorem casters_of_failure {e : Error} (failed : cursor.castBase = .error e) :
    cursor.casters = .error e := by
  rw [casters, failed]
  rfl

end Bases

/-- Casts fail as they are said to: because the position cannot be traversed, exactly if it is not
complex nor a collection of complex data, else only because a target is unknown, and never because
a type is. -/
structure ReportsMisuse (cursor : Cursor) : Prop where
  casters_misused :
    (∃ type reason, cursor.casters = .error (.cannotTraverse type reason)) ↔ ¬cursor.OfComplex
  cast_misused : ∀ target,
    (∃ type reason, cursor.cast target = .error (.cannotTraverse type reason)) ↔ ¬cursor.OfComplex
  listed : cursor.OfComplex → ∃ casters, cursor.casters = .ok casters
  refused : cursor.OfComplex → ∀ target e, cursor.cast target = .error e →
    ∃ type, e = .unknownCast type target
  casters_known : ∀ type, cursor.casters ≠ .error (.unknownType type)
  cast_known : ∀ target type, cursor.cast target ≠ .error (.unknownType type)

section Reports

variable {schema : Schema} {cursor : Cursor}

theorem reportsMisuse_of_single (settled : Settled schema cursor) (simple : cursor.kind ≠ .complex)
    (single : cursor.kind ≠ .collection) : cursor.ReportsMisuse := by
  have failed := castBase_of_single settled simple single
  have casters := casters_of_failure failed
  have cast := cast_of_failure failed
  have leaf : ¬cursor.OfComplex := fun complex => complex.elim simple fun found => single found.1
  exact {
    casters_misused := ⟨fun _ => leaf, fun _ => ⟨_, _, casters⟩⟩
    cast_misused := fun target => ⟨fun _ => leaf, fun _ => ⟨_, _, cast target⟩⟩
    listed := fun complex => absurd complex leaf
    refused := fun complex => absurd complex leaf
    casters_known := by
      intro type unknown
      cases casters.symm.trans unknown
    cast_known := by
      intro target type unknown
      cases (cast target).symm.trans unknown }

theorem reportsMisuse_of_complex (closed : schema.Closed) (settled : Settled schema cursor)
    (complex : cursor.OfComplex) {c : ComplexType} (based : cursor.castBase = .ok c) :
    cursor.ReportsMisuse := by
  have casters : cursor.casters = .ok (cursor.schema.casters c) := by
    rw [Cursor.casters, based]
    rfl
  have cast (target : String) (e : Error) (failed : cursor.cast target = .error e) :
      e = .unknownCast c.fullName target :=
    (cast_of_castBase closed settled based target).of_eq_error failed
  exact {
    casters_misused := by
      refine ⟨?_, fun leaf => absurd complex leaf⟩
      rintro ⟨type, reason, failed⟩
      cases casters.symm.trans failed
    cast_misused := by
      refine fun target => ⟨?_, fun leaf => absurd complex leaf⟩
      rintro ⟨type, reason, failed⟩
      cases cast target _ failed
    listed := fun _ => ⟨_, casters⟩
    refused := fun _ target e failed => ⟨_, cast target e failed⟩
    casters_known := by
      intro type unknown
      cases casters.symm.trans unknown
    cast_known := by
      intro target type unknown
      cases cast target _ unknown }

/-- Behind validation casts fail as they are said to at every position that is reached, but for the
collections of leaves. There the type of the elements is reported as unknown. -/
theorem misuse_reported_iff {type : TypeRef} (valid : schema.validate = .ok ())
    (reached : Reached schema type cursor) :
    (cursor.ReportsMisuse ↔ (cursor.kind = .collection → cursor.OfComplex)) ∧
      (cursor.kind = .collection → ¬cursor.OfComplex →
        cursor.casters = .error (.unknownType cursor.type.innermost.text) ∧
        ∀ target, cursor.cast target = .error (.unknownType cursor.type.innermost.text)) := by
  have closed := Schema.closed_of_validate valid
  have settled := settled_reached reached
  by_cases compound : cursor.kind = .complex ∨ cursor.kind = .collection
  · rcases castBase_of_compound settled compound with ⟨complex, c, _, based⟩ | ⟨leaves, failed⟩
    · have reports := reportsMisuse_of_complex closed settled complex based
      exact ⟨⟨fun _ _ => complex, fun _ => reports⟩, fun _ leaves => absurd complex leaves⟩
    · have casters := casters_of_failure failed
      refine ⟨⟨?_, ?_⟩, fun _ _ => ⟨casters, cast_of_failure failed⟩⟩
      · intro reports
        exact absurd casters (reports.casters_known _)
      · intro reports
        have collection := compound.resolve_left fun complex => leaves (.inl complex)
        exact absurd (reports collection) leaves
  · have simple : cursor.kind ≠ .complex := fun kind => compound (.inl kind)
    have single : cursor.kind ≠ .collection := fun kind => compound (.inr kind)
    exact ⟨⟨fun _ kind => absurd kind single,
      fun _ => reportsMisuse_of_single settled simple single⟩, fun kind => absurd kind single⟩

end Reports
end Cursor

namespace Staff

def colleagues : Cursor :=
  start.step ⟨"Colleagues", .navigation, .collection person⟩ .collection

end Staff

namespace Atlas

def city : TypeRef := .named "Atlas" "City"

def schema : Schema where
  types := [.complex {
    scope := "Atlas"
    name := "City"
    properties := .ofList [("Names", ⟨.collection .string, false, false⟩)] }]
  ordered := by decide

def start : Cursor := ⟨schema, city, [], .ofType itContext city, .empty, .complex⟩

def names : Cursor :=
  start.step ⟨"Names", .property, .collection .string⟩ .collection

end Atlas

theorem Cursor.misuse_reported_iff_colleagues :
    Staff.schema.validate = .ok () ∧
      Cursor.Reached Staff.schema Staff.person Staff.colleagues ∧
      Staff.colleagues.kind = .collection ∧ Staff.colleagues.ReportsMisuse := by
  have valid : Staff.schema.validate = .ok () := by with_unfolding_all rfl
  have started : Cursor.start Staff.schema Staff.person (.ofType itContext Staff.person) =
      .ok Staff.start := by with_unfolding_all rfl
  have moved : Staff.start.move (.property "Colleagues") = .ok Staff.colleagues := by
    with_unfolding_all rfl
  have complex : Staff.colleagues.OfComplex := .inr ⟨rfl, by with_unfolding_all rfl⟩
  have reached := Cursor.Reached.move _ (.start started) moved
  exact ⟨valid, reached, rfl, (Cursor.misuse_reported_iff valid reached).1.mpr fun _ => complex⟩

/-- The names of a city are a collection, and what they are a collection of is not complex. That is
not said; instead the type of texts is unknown. -/
theorem Cursor.names_of_unknown_type :
    Atlas.schema.validate = .ok () ∧ Cursor.Reached Atlas.schema Atlas.city Atlas.names ∧
      ¬Atlas.names.OfComplex ∧ Atlas.names.casters = .error (.unknownType "Edm.String") ∧
      Atlas.names.cast "City" = .error (.unknownType "Edm.String") ∧
      ¬Atlas.names.ReportsMisuse := by
  have valid : Atlas.schema.validate = .ok () := by with_unfolding_all rfl
  have started : Cursor.start Atlas.schema Atlas.city (.ofType itContext Atlas.city) =
      .ok Atlas.start := by with_unfolding_all rfl
  have moved : Atlas.start.move (.property "Names") = .ok Atlas.names := by with_unfolding_all rfl
  have casters : Atlas.names.casters = .error (.unknownType "Edm.String") := by
    with_unfolding_all rfl
  have cast : Atlas.names.cast "City" = .error (.unknownType "Edm.String") := by
    with_unfolding_all rfl
  have leaves : ¬Atlas.names.OfComplex := by
    rintro (complex | ⟨_, complex⟩)
    · cases complex
    · cases complex
  exact ⟨valid, .move _ (.start started) moved, leaves, casters, cast,
    fun reports => reports.casters_known _ casters⟩

end ODataRequest
