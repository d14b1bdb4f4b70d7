import ODataRequest.Expr.Basic

/-!
The order along which expressions are rendered. A call is rendered through the expressions that
working in its directives makes of its parts, so these have to precede it: they are built from
parts of the call by contexts, names and assembly. `precedes_wellFounded` says that this descent
ends, also where the parts come out of a sub-query function.
-/

namespace ODataRequest.Expr

/-- Immediate parts. What a sub-query function can return counts as part of its directive. -/
inductive PartIn : Expr → Expr → Prop
  | parent {e : Expr} {name : String} {result : Result} : PartIn e (property (some e) name result)
  | receiver {e : Expr} {c : Call} : c.receiver = some e → PartIn e (call c)
  | arg {c : Call} {pair : Expr × Parameter} : pair ∈ c.args → PartIn pair.1 (call c)
  | subQuery {build : Schema → TypeRef → Except Error (List Expr)} {schema : Schema}
      {type : TypeRef} {queries : List Expr} {e : Expr} :
      build schema type = .ok queries → e ∈ queries → PartIn e (directive (.subQueries build))
  | rawPath {paths : List (String × Expr)} {path : String × Expr} :
      path ∈ paths → PartIn path.2 (directive (.rawPaths paths))
  | aliased {param : Alias} {type : Option TypeRef} {e : Expr} :
      param.payload = .reference e → PartIn e (aliased param type)
  | inContext {e : Expr} {context : String} : PartIn e (inContext e context)
  | named {e : Expr} {symbol : RootSymbol} : PartIn e (named e symbol)
  | assembled {parts : List Part} {result : Result} {e : Expr} :
      PartOf.expr e ∈ parts → PartIn e (assembled parts result)

mutual

theorem accessible : (e : Expr) → Acc PartIn e
  | root _ => ⟨_, fun _ h => by cases h⟩
  | property none _ _ => ⟨_, fun _ h => by cases h⟩
  | property (some e) _ _ => ⟨_, fun _ h => by cases h; exact accessible e⟩
  | call ⟨receiver, args, _, _⟩ => ⟨_, fun _ h => by
      cases h with
      | receiver h => exact accessibleReceiver receiver _ h
      | arg h => exact accessibleArgs args _ h⟩
  | value _ _ => ⟨_, fun _ h => by cases h⟩
  | aliased ⟨_, _, .reference e⟩ _ => ⟨_, fun _ h => by
      cases h with
      | aliased same => cases same; exact accessible e⟩
  | aliased ⟨_, _, .constant _ _⟩ _ => ⟨_, fun _ h => by cases h; contradiction⟩
  | aliased ⟨_, _, .text _⟩ _ => ⟨_, fun _ h => by cases h; contradiction⟩
  | directive d => ⟨_, fun _ h => by
      cases d <;> cases h
      case subQueries build schema type queries member built =>
        exact accessibleBuilt (build schema type) _ built _ member
      case rawPaths paths path member => exact accessiblePaths paths _ member⟩
  | inContext e _ => ⟨_, fun _ h => by cases h; exact accessible e⟩
  | named e _ => ⟨_, fun _ h => by cases h; exact accessible e⟩
  | assembled parts _ => ⟨_, fun _ h => by
      cases h with
      | assembled h => exact accessibleParts parts _ h⟩

theorem accessibleReceiver : (o : Option Expr) → ∀ e, o = some e → Acc PartIn e
  | none => fun _ h => by cases h
  | some e => fun _ h => by cases h; exact accessible e

theorem accessibleArgs : (args : List (Expr × Parameter)) → ∀ pair ∈ args, Acc PartIn pair.1
  | [] => fun _ h => by cases h
  | (e, _) :: rest => fun _ h => by
      cases h with
      | head => exact accessible e
      | tail _ h => exact accessibleArgs rest _ h

theorem accessiblePaths : (paths : List (String × Expr)) → ∀ path ∈ paths, Acc PartIn path.2
  | [] => fun _ h => by cases h
  | (_, e) :: rest => fun _ h => by
      cases h with
      | head => exact accessible e
      | tail _ h => exact accessiblePaths rest _ h

theorem accessibleParts : (parts : List Part) → ∀ e, PartOf.expr e ∈ parts → Acc PartIn e
  | [] => fun _ h => by cases h
  | .text _ :: rest => fun _ h => by
      cases h with
      | tail _ h => exact accessibleParts rest _ h
  | .expr e :: rest => fun _ h => by
      cases h with
      | head => exact accessible e
      | tail _ h => exact accessibleParts rest _ h

theorem accessibleBuilt : (built : Except Error (List Expr)) →
    ∀ queries, built = .ok queries → ∀ e ∈ queries, Acc PartIn e
  | .error _ => fun _ h => by cases h
  | .ok queries => fun _ h => by cases h; exact accessibleList queries

theorem accessibleList : (queries : List Expr) → ∀ e ∈ queries, Acc PartIn e
  | [] => fun _ h => by cases h
  | e :: rest => fun _ h => by
      cases h with
      | head => exact accessible e
      | tail _ h => exact accessibleList rest _ h

end

theorem partIn_wellFounded : WellFounded PartIn := ⟨accessible⟩

abbrev Within : Expr → Expr → Prop := Relation.TransGen PartIn

/-- Built from given expressions by what working in a directive can add. -/
inductive MadeOf (given : Expr → Prop) : Expr → Prop
  | given {e : Expr} : given e → MadeOf given e
  | root {symbol : RootSymbol} : MadeOf given (root symbol)
  | value {v : Value} {type : Option TypeRef} : MadeOf given (value v type)
  | inContext {e : Expr} {context : String} : MadeOf given e → MadeOf given (inContext e context)
  | named {e : Expr} {symbol : RootSymbol} : MadeOf given e → MadeOf given (named e symbol)
  | assembled {parts : List Part} {result : Result} :
      (∀ e, PartOf.expr e ∈ parts → MadeOf given e) → MadeOf given (assembled parts result)

/-- What may be rendered on the way to rendering `whole`. -/
def Precedes (e whole : Expr) : Prop :=
  match whole with
  | call c => MadeOf (Within · (call c)) e
  | whole => PartIn e whole

theorem accessible_of_madeOf {given : Expr → Prop}
    (accessible : ∀ e, given e → Acc Precedes e) {e : Expr} (made : MadeOf given e) :
    Acc Precedes e := by
  induction made with
  | given h => exact accessible _ h
  | root => exact ⟨_, fun _ h => by cases h⟩
  | value => exact ⟨_, fun _ h => by cases h⟩
  | inContext _ ih => exact ⟨_, fun _ h => by cases h; exact ih⟩
  | named _ ih => exact ⟨_, fun _ h => by cases h; exact ih⟩
  | assembled _ ih =>
    exact ⟨_, fun _ h => by
      cases h with
      | assembled h => exact ih _ h⟩

theorem precedes_wellFounded : WellFounded Precedes := by
  constructor
  intro e
  induction e using partIn_wellFounded.transGen.induction with
  | _ e ih =>
    cases e with
    | call c => exact ⟨_, fun _ made => accessible_of_madeOf ih made⟩
    | _ => exact ⟨_, fun x part => ih x (.single part)⟩

abbrev Below : Expr → Expr → Prop := Relation.TransGen Precedes

instance : WellFoundedRelation Expr := ⟨Below, precedes_wellFounded.transGen⟩

end ODataRequest.Expr
