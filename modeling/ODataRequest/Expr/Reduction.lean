import ODataRequest.Expr.Order
import ODataRequest.Clause.Basic
import ODataRequest.Fallible

/-!
Working in the directives of a call, from left to right. Each round takes at least one argument
away, so the rounds end; what they make is built from parts of the call.
-/

namespace ODataRequest

namespace Format

def apply (format : Format) (v : Value) (parameter : String) : Except Error String :=
  let unsupported (reason : String) : Except Error String :=
    .error (.unsupportedFormat format.elementType.text parameter reason)
  match format.formatter, v with
  | .item write, .list items =>
    if items.any Value.isList then unsupported "nested lists cannot be mapped"
    else .ok ("(" ++ Text.joined "," (items.map write) ++ ")")
  | .item write, v => .ok (write v)
  | .list write, .list items =>
    if items.any Value.isList then unsupported "nested lists cannot be mapped"
    else .ok (write items)
  | .list _, _ => unsupported "a list mapper needs a list argument"

end Format

/-- What remains to be rendered of a call: the call without directives, or hand-written text. -/
inductive Reduced
  | call (c : Call)
  | rawText (paths : List (String × Expr)) (write : List (String × String) → String)

inductive Round
  | finished
  | rawText (paths : List (String × Expr)) (write : List (String × String) → String)
  | next (c : Call)

namespace CallOf

abbrev Argument := Expr × Parameter

def mismatch (c : Call) (p : Parameter) : Error :=
  .directiveMismatch p.name c.signature.text

def directiveOf (c : Call) (argument : Argument) : Except Error Directive :=
  match argument.1 with
  | .directive d =>
    if argument.2.directiveKind? = some d.kind then .ok d else .error (c.mismatch argument.2)
  | _ => .error (c.mismatch argument.2)

/-- The arguments before the first one for a directive, that one, and those after it. -/
def splitDirective : List Argument → Option (List Argument × Argument × List Argument)
  | [] => none
  | argument :: rest =>
    if argument.2.directiveKind?.isSome then some ([], argument, rest)
    else (splitDirective rest).map fun (before, found, after) => (argument :: before, found, after)

def signatureWithout (c : Call) (removed : List Argument) : Signature :=
  let names := removed.map fun argument => argument.2.name
  c.signature.reshaped (c.signature.parameters.filter fun p => !names.contains p.name)
    c.signature.layout

/-- The signature once its result is settled: an overload of that result, if there is one. -/
def settledSignature (c : Call) (argument : Argument) (type : TypeRef) : Signature :=
  let narrowed := (c.signatureWithout [argument]).narrowed type
  match c.signature.result with
  | .undecided overloads =>
    match overloads.byResult? type with
    | some overload => { overload with constructedFrom := some c.signature }
    | none => narrowed
  | .type _ => narrowed

/-- A constant in the author's format; null, raw text and everything else stay. -/
def formatArgument (format : Format) (argument : Argument) : Except Error Argument :=
  match argument.1 with
  | .value .null _ | .value (.raw _) _ => .ok argument
  | .value v _ =>
    if v.isList != argument.2.declaresList then
      .error (.unsupportedFormat format.elementType.text argument.2.name
        "argument shape does not match its declared type")
    else (format.apply v argument.2.name).map fun text => (.raw text, argument.2)
  | _ => .ok argument

def isOption (argument : Argument) : Bool :=
  argument.2.directiveKind? == some .subQueries || argument.2.directiveKind? == some .countOption

abbrev Options := List (String × Expr)

/-- An option is written as `key=text` and rendered relative to the expanded element. -/
def addOption (options : Options) (key : String) (e : Expr) (type : TypeRef) :
    Except Error Options :=
  if (options.map Prod.fst).contains key then .error (Clause.repeated key)
  else .ok (options ++ [(key, .inContext (.named e (.ofType key type)) itContext)])

def addClause (options : Options) (e : Expr) : Except Error Options := do
  let key ← (Clause.mk e).key
  addOption options key e (e.concreteType?.getD .raw)

def expandedType (type : TypeRef) : Except Error TypeRef :=
  if type.isCollection then type.element else .ok type

def addOptions (schema : Schema) (c : Call) (target : Expr) (options : Options)
    (argument : Argument) : Except Error Options := do
  match ← c.directiveOf argument with
  | .countOption =>
    if (target.concreteType?.map TypeRef.isCollection).getD false then
      addOption options "$count" (.raw "true") .boolean
    else .error (c.mismatch argument.2)
  | .subQueries build =>
    match target.concreteType? with
    | none => .error (c.mismatch argument.2)
    | some type => (← build schema (← expandedType type)).foldlM addClause options
  | _ => .error (c.mismatch argument.2)

def optionParts (opening : String) : Options → List Part
  | [] => [.text ")"]
  | option :: rest => .text opening :: .expr option.2 :: optionParts ";" rest

def expandedTarget (target : Expr) (options : Options) : Expr :=
  let parenthesized := if options.isEmpty then [] else optionParts "(" options
  .assembled (.expr target :: parenthesized) (target.result?.getD (.type .raw))

/-- Gives the options from the first directive on to the argument before them. -/
def expand (schema : Schema) (c : Call) (before : List Argument) (argument : Argument)
    (after : List Argument) : Except Error Round := do
  match before.getLast? with
  | none => .error (c.mismatch argument.2)
  | some (target, p) =>
    let given := argument :: after.takeWhile isOption
    let options ← given.foldlM (c.addOptions schema target) []
    pure (.next { c with
      args := before.dropLast ++ (expandedTarget target options, p) :: after.dropWhile isOption
      signature := c.signatureWithout given })

def round (schema : Schema) (c : Call) : Except Error Round := do
  match splitDirective c.args with
  | none => pure .finished
  | some (before, argument, after) =>
    match ← c.directiveOf argument with
    | .customName name =>
      pure (.next { c with
        receiver := some (.root (.ofCustom name))
        args := before ++ after
        signature := c.signatureWithout [argument] })
    | .result type =>
      pure (.next { c with
        args := before ++ after
        signature := c.settledSignature argument type.type })
    | .format format =>
      let args ← (before ++ after).mapM (formatArgument format)
      pure (.next { c with args := args, signature := c.signatureWithout [argument] })
    | .rawPaths paths =>
      match after with
      | [] => .error (c.mismatch argument.2)
      | executor :: _ =>
        match ← c.directiveOf executor with
        | .rawText write => pure (.rawText paths write)
        | _ => .error (c.mismatch executor.2)
    | .rawText _ => .error (c.mismatch argument.2)
    | .subQueries _ | .countOption => c.expand schema before argument after

theorem directiveOf_held {c : Call} {argument : Argument} {d : Directive}
    (held : c.directiveOf argument = .ok d) :
    argument = (.directive d, argument.2) ∧ argument.2.directiveKind? = some d.kind := by
  unfold directiveOf at held
  split at held
  · rename_i d' given
    split at held
    · rename_i kind
      cases held
      exact ⟨Prod.ext given rfl, kind⟩
    · cases held
  · cases held

theorem splitDirective_eq {args before after : List Argument} {argument : Argument}
    (split : splitDirective args = some (before, argument, after)) :
    args = before ++ argument :: after := by
  induction args generalizing before with
  | nil => simp [splitDirective] at split
  | cons head rest ih =>
    unfold splitDirective at split
    split at split
    · simp at split
      obtain ⟨rfl, rfl, rfl⟩ := split
      rfl
    · obtain ⟨⟨before', argument', after'⟩, inner, same⟩ := Option.map_eq_some_iff.mp split
      simp only [Prod.mk.injEq] at same
      obtain ⟨rfl, rfl, rfl⟩ := same
      simp [ih inner]

theorem formatArgument_cases {format : Format} {a b : Argument}
    (formatted : formatArgument format a = .ok b) :
    b = a ∨ ∃ v type text, a.1 = .value v type ∧ format.apply v a.2.name = .ok text ∧
      b = (.raw text, a.2) := by
  unfold formatArgument at formatted
  split at formatted
  · cases formatted
    exact .inl rfl
  · cases formatted
    exact .inl rfl
  · rename_i v type _ _ constant
    split at formatted
    · cases formatted
    · obtain ⟨text, applied, rfl⟩ := map_eq_ok.mp formatted
      exact .inr ⟨v, type, text, constant, applied, rfl⟩
  · cases formatted
    exact .inl rfl

/-- How a directive makes options of an expansion out of those gathered before it. -/
inductive Gathers (schema : Schema) (target : Expr) (options options' : Options) : Directive → Prop
  | countOption :
      (target.concreteType?.map TypeRef.isCollection).getD false = true →
      addOption options "$count" (.raw "true") .boolean = .ok options' →
      Gathers schema target options options' .countOption
  | subQueries {build : Schema → TypeRef → Except Error (List Expr)} {type element : TypeRef}
      {queries : List Expr} :
      target.concreteType? = some type → expandedType type = .ok element →
      build schema element = .ok queries → queries.foldlM addClause options = .ok options' →
      Gathers schema target options options' (.subQueries build)

theorem addOptions_cases {schema : Schema} {c : Call} {target : Expr} {options options' : Options}
    {argument : Argument} (added : c.addOptions schema target options argument = .ok options') :
    ∃ d, c.directiveOf argument = .ok d ∧ Gathers schema target options options' d := by
  obtain ⟨d, held, added⟩ := bind_eq_ok.mp added
  refine ⟨d, held, ?_⟩
  cases d with
  | countOption =>
    dsimp only at added
    split at added
    · rename_i collection
      exact .countOption collection added
    · cases added
  | subQueries build =>
    dsimp only at added
    split at added
    · cases added
    · rename_i typed
      obtain ⟨element, expanded, added⟩ := bind_eq_ok.mp added
      obtain ⟨queries, built, added⟩ := bind_eq_ok.mp added
      exact .subQueries typed expanded built added
  | _ => cases added

theorem expand_next {schema : Schema} {c c' : Call} {before after : List Argument}
    {argument : Argument} (expanded : c.expand schema before argument after = .ok (.next c')) :
    ∃ target p options, before.getLast? = some (target, p) ∧
      (argument :: after.takeWhile isOption).foldlM (c.addOptions schema target) [] =
        .ok options ∧
      c' = { c with
        args := before.dropLast ++ (expandedTarget target options, p) :: after.dropWhile isOption
        signature := c.signatureWithout (argument :: after.takeWhile isOption) } := by
  unfold expand at expanded
  split at expanded
  · cases expanded
  · rename_i target p last
    obtain ⟨options, gathered, same⟩ := bind_eq_ok.mp expanded
    cases same
    exact ⟨target, p, options, last, gathered, rfl⟩

theorem expand_not_finished {schema : Schema} {c : Call} {before after : List Argument}
    {argument : Argument} {round : Round}
    (expanded : c.expand schema before argument after = .ok round) : ∃ c', round = .next c' := by
  unfold expand at expanded
  split at expanded
  · cases expanded
  · obtain ⟨options, _, same⟩ := bind_eq_ok.mp expanded
    cases same
    exact ⟨_, rfl⟩

theorem expand_next_length {schema : Schema} {c c' : Call} {before after : List Argument}
    {argument : Argument} (expanded : c.expand schema before argument after = .ok (.next c')) :
    c'.args.length < (before ++ argument :: after).length := by
  obtain ⟨target, p, options, last, _, rfl⟩ := expand_next expanded
  have dropped := (List.dropWhile_suffix isOption (l := after)).length_le
  have positive := List.length_pos_of_mem (List.mem_of_getLast? last)
  simp only [List.length_append, List.length_cons, List.length_dropLast]
  omega

/-- What working in a directive between `before` and `after` makes of a call. -/
inductive WorkedIn (schema : Schema) (c : Call) (before : List Argument) (argument : Argument)
    (after : List Argument) : Directive → Call → Prop
  | customName (name : String) :
      WorkedIn schema c before argument after (.customName name)
        { c with
          receiver := some (.root (.ofCustom name))
          args := before ++ after
          signature := c.signatureWithout [argument] }
  | result (type : PrimitiveType) :
      WorkedIn schema c before argument after (.result type)
        { c with
          args := before ++ after
          signature := c.settledSignature argument type.type }
  | format {format : Format} {args : List Argument} :
      (before ++ after).mapM (formatArgument format) = .ok args →
      WorkedIn schema c before argument after (.format format)
        { c with args := args, signature := c.signatureWithout [argument] }
  | subQueries {build : Schema → TypeRef → Except Error (List Expr)} {c' : Call} :
      c.expand schema before argument after = .ok (.next c') →
      WorkedIn schema c before argument after (.subQueries build) c'
  | countOption {c' : Call} :
      c.expand schema before argument after = .ok (.next c') →
      WorkedIn schema c before argument after .countOption c'

/-- Everything that a round can do, by the first directive. -/
inductive RoundOf (schema : Schema) (c : Call) : Round → Prop
  | finished : splitDirective c.args = none → RoundOf schema c .finished
  | rawText {before after : List Argument} {argument executor : Argument}
      {paths : List (String × Expr)} {write : List (String × String) → String} :
      splitDirective c.args = some (before, argument, executor :: after) →
      c.directiveOf argument = .ok (.rawPaths paths) →
      c.directiveOf executor = .ok (.rawText write) → RoundOf schema c (.rawText paths write)
  | next {before after : List Argument} {argument : Argument} {d : Directive} {c' : Call} :
      splitDirective c.args = some (before, argument, after) → c.directiveOf argument = .ok d →
      WorkedIn schema c before argument after d c' → RoundOf schema c (.next c')

theorem round_eq_ok {schema : Schema} {c : Call} {result : Round}
    (worked : c.round schema = .ok result) : RoundOf schema c result := by
  unfold round at worked
  split at worked
  · rename_i split
    cases worked
    exact .finished split
  · rename_i before argument after split
    obtain ⟨d, held, worked⟩ := bind_eq_ok.mp worked
    cases d with
    | customName name =>
      cases worked
      exact .next split held (.customName name)
    | result type =>
      cases worked
      exact .next split held (.result type)
    | format format =>
      obtain ⟨args, mapped, same⟩ := bind_eq_ok.mp worked
      cases same
      exact .next split held (.format mapped)
    | rawPaths paths =>
      cases after with
      | nil => cases worked
      | cons executor rest =>
        obtain ⟨d', held', worked⟩ := bind_eq_ok.mp worked
        cases d' with
        | rawText write =>
          cases worked
          exact .rawText split held held'
        | _ => cases worked
    | rawText write => cases worked
    | subQueries build =>
      obtain ⟨c', rfl⟩ := expand_not_finished worked
      exact .next split held (.subQueries worked)
    | countOption =>
      obtain ⟨c', rfl⟩ := expand_not_finished worked
      exact .next split held (.countOption worked)

theorem round_next_length {schema : Schema} {c c' : Call} (next : c.round schema = .ok (.next c')) :
    c'.args.length < c.args.length := by
  cases round_eq_ok next with
  | next split held worked =>
    rw [splitDirective_eq split]
    cases worked with
    | customName | result => simp
    | format mapped => simp [mapM_length mapped]
    | subQueries expanded | countOption expanded => exact expand_next_length expanded

def reduce (schema : Schema) (c : Call) : Except Error Reduced :=
  match _step : c.round schema with
  | .error e => .error e
  | .ok .finished => .ok (.call c)
  | .ok (.rawText paths write) => .ok (.rawText paths write)
  | .ok (.next c') => reduce schema c'
termination_by c.args.length
decreasing_by exact round_next_length _step

end CallOf
end ODataRequest
