import ODataRequest.Address
import ODataRequest.Aliases
import ODataRequest.Logged
import ODataRequest.Resource.Part

/-!
From the parts of a request to its address. A `Draft` is what is known after some of the parts;
each part is checked against the type that the path has reached.
-/

namespace ODataRequest

structure MappingOptions where
  urlEncode : Bool := true
  ignoreWarnings : Bool := false
  deriving DecidableEq

structure Mapping where
  schema : Schema
  serializer : Serializer := Literal.serialize
  options : MappingOptions := {}

def Mapping.renderer (mapping : Mapping) : Renderer := ⟨mapping.schema, mapping.serializer⟩

/-- The address as far as it is known. `terminal` names the part that ended the path. -/
structure Draft where
  accept : Accept := .json
  aliases : AliasList := .empty
  container : Option String := none
  entitySet : Option EntitySet := none
  type : Option TypeRef := none
  segments : List String := []
  terminal : Option String := none
  query : List (String × String) := []

namespace Draft

def addSegment (draft : Draft) (segment : String) (type : TypeRef) : Draft :=
  { draft with segments := draft.segments ++ [segment], type := some type }

/-- Writes text right behind the last segment. -/
def extendSegment (draft : Draft) (text : String) (type : TypeRef) : Draft :=
  let segments := match draft.segments.getLast? with
    | some last => draft.segments.dropLast ++ [last ++ text]
    | none => []
  { draft with segments := segments, type := some type }

def addPair (draft : Draft) (key text : String) : Except Error Draft :=
  if draft.query.any fun pair => pair.1 == key then .error (Clause.repeated key)
  else .ok { draft with query := draft.query ++ [(key, text)] }

/-- The value of a clause: an expansion of everything is a star, and a count that renders empty
is asked for. -/
def clauseText (key text : String) : String :=
  if key = "$expand" then
    Text.replaceAll (Text.replaceAll text "expandAll(true)" "*/$ref") "expandAll()" "*"
  else if key = "$count" ∧ text = "" then "true"
  else text

def addClause (mapping : Mapping) (draft : Draft) (clause : Clause) : Except Error Draft := do
  let key ← clause.key
  let rendered := mapping.renderer.render clause.expr
  let text ← rendered.outcome
  { draft with aliases := draft.aliases.pushAll rendered.met }.addPair key (clauseText key text)

/-- A request starts with an entity set, with or without a container before it. -/
def addRoot (draft : Draft) : ResourcePart → Except Error Draft
  | .container name =>
    if draft.container.isNone then .ok { draft with container := some name }
    else .error (.missingRoot (ResourcePart.container name).description)
  | .entitySet set =>
    .ok { draft.addSegment set.name set.pathType with
      container := draft.container.or (some set.container)
      entitySet := some set }
  | part => .error (.missingRoot part.description)

def addProperty (mapping : Mapping) (draft : Draft) (type : TypeRef) (name : String) :
    Except Error Draft :=
  match mapping.schema.complex type with
  | .ok c => do
    let property ← mapping.schema.property c name
    pure (draft.addSegment name property.type)
  | .error _ =>
    let reason :=
      if type.isCollection then "select an element with a key first" else "not a complex type"
    .error (.propertyNotAllowed type.text name reason)

def addCount (draft : Draft) (type : TypeRef) : Except Error Draft :=
  if type.isCollection then
    .ok { draft.addSegment "$count" .int64 with accept := .integer, terminal := some "$count" }
  else .error (.cannotTraverse type.text "$count needs a collection")

def isLeaf (schema : Schema) (type : TypeRef) : Except Error Bool :=
  if type.isCollection then .ok false
  else (schema.kind type).map fun
    | .primitive | .enum _ => true
    | _ => false

def addValue (mapping : Mapping) (draft : Draft) (type : TypeRef) : Except Error Draft := do
  if ← isLeaf mapping.schema type then
    pure { draft.addSegment "$value" .string with accept := .raw, terminal := some "$value" }
  else .error (.cannotTraverse type.text "$value needs a primitive or enum")

def addCast (mapping : Mapping) (draft : Draft) (type : TypeRef) (target : String) :
    Except Error Draft :=
  if 1 < type.depth then .error (.nestedCollection type.text)
  else do
    let c ← mapping.schema.complex type.innermost
    let derived ← mapping.schema.resolveCast c target
    pure (draft.addSegment derived.text (derived.wrap type.depth))

def keyedElement (schema : Schema) (type : TypeRef) : Except Error (TypeRef × ComplexType) :=
  match type with
  | .collection (.named scope name) =>
    match schema.complex (.named scope name) with
    | .ok c => .ok (.named scope name, c)
    | .error _ => .error (.keyNotAllowed type.text "elements are not entities")
  | _ => .error (.keyNotAllowed type.text "keys select an element of a collection")

def encoded (mapping : Mapping) (text : String) : String :=
  if mapping.options.urlEncode then Text.encodeComponent text else text

def keyLiteral (mapping : Mapping) (value : Value) (type : TypeRef) : Except Error String :=
  (mapping.serializer mapping.schema value type).map (encoded mapping)

def singleKeyType (entity : ComplexType) (key : List (String × Property)) (value : Value) :
    Except Error TypeRef :=
  match key with
  | [] => .error (.noKey entity.fullName)
  | [(_, property)] => .ok property.type
  | _ :: (missing, _) :: _ =>
    .error (.missingKeyProperty entity.fullName
      (missing ++ " (got the single value " ++ value.display ++ ")"))

def keyPair (mapping : Mapping) (entity : ComplexType) (pairs : List (String × Value))
    (declared : String × Property) : Except Error String :=
  match lookupNamed declared.1 pairs with
  | none => .error (.missingKeyProperty entity.fullName declared.1)
  | some value => do
    let text ← keyLiteral mapping value declared.2.type
    pure (declared.1 ++ "=" ++ text)

/-- The pairs of a composite key in declared order, between parentheses. -/
def compositeText (mapping : Mapping) (entity : ComplexType) (key : List (String × Property))
    (pairs : List (String × Value)) : Except Error String :=
  match pairs.find? fun pair => !(key.map Prod.fst).contains pair.1 with
  | some unexpected => .error (.unexpectedKeyProperty entity.fullName unexpected.1)
  | none => do
    let texts ← key.mapM (keyPair mapping entity pairs)
    pure ("(" ++ Text.joined "," texts ++ ")")

/-- A string stands in a segment without quotes. -/
def segmentText (mapping : Mapping) (value : Value) (type : TypeRef) : Except Error String :=
  match value with
  | .string s => .ok (encoded mapping s)
  | value => keyLiteral mapping value type

def warnUnless (ignored : Bool) (warning : Warning) : Logged Error Unit :=
  if ignored then pure () else .warn warning

def addKey (mapping : Mapping) (draft : Draft) (type : TypeRef) (key : KeySelection) :
    Logged Error Draft := do
  let (element, entity) ← .ofExcept (keyedElement mapping.schema type)
  let declared ← .ofExcept (mapping.schema.keyProperties entity)
  match key with
  | .raw text => pure (draft.extendSegment ("(" ++ text ++ ")") element)
  | .styled .parenthesized (.single value) =>
    let keyType ← .ofExcept (singleKeyType entity declared value)
    let text ← .ofExcept (keyLiteral mapping value keyType)
    pure (draft.extendSegment ("(" ++ text ++ ")") element)
  | .styled .segment (.single value) =>
    let keyType ← .ofExcept (singleKeyType entity declared value)
    let text ← .ofExcept (segmentText mapping value keyType)
    pure (draft.addSegment text element)
  | .styled .parenthesized (.composite pairs) =>
    let text ← .ofExcept (compositeText mapping entity declared pairs)
    pure (draft.extendSegment text element)
  | .styled .segment (.composite pairs) =>
    warnUnless mapping.options.ignoreWarnings (.compositeKeySegment entity.fullName)
    let text ← .ofExcept (compositeText mapping entity declared pairs)
    pure (draft.extendSegment text element)

/-- One argument of a bound function. It travels as an alias of its own. -/
def addArgument (f : BoundFunction) (arguments : List (String × Value))
    (state : AliasList × List String) (p : FunctionParameter) :
    Except Error (AliasList × List String) :=
  match lookupNamed p.name arguments with
  | none =>
    .error (.invalidQuery s!"missing argument '{p.name}' for function '{f.fullName}'")
  | some value =>
    let param := AliasOf.create (.argument state.1.params.length) p.name (.constant value p.type)
    .ok (state.1.push param, state.2 ++ [p.name ++ "=" ++ param.name])

def addFunction (draft : Draft) (type : TypeRef) (name : String)
    (arguments : List (String × Value)) : Except Error Draft := do
  match draft.entitySet with
  | none => .error (.missingEntitySet s!"function '{name}'")
  | some set =>
    let f ← set.boundFunction type name
    if arguments.length ≠ f.parameters.length then
      .error (.argumentCount f.fullName (numeral f.parameters.length) arguments.length)
    else
      let (aliases, texts) ← f.parameters.foldlM (addArgument f arguments) (draft.aliases, [])
      let segment := f.fullName ++ "(" ++ Text.joined "," texts ++ ")"
      pure { draft.addSegment segment f.result with aliases := aliases }

def addPathPart (mapping : Mapping) (draft : Draft) (type : TypeRef) (part : ResourcePart) :
    Logged Error Draft :=
  match part with
  | .container _ | .entitySet _ =>
    .fail (.invalidQuery (part.description ++ " must be the first part of a uri"))
  | .key key => draft.addKey mapping type key
  | .property name => .ofExcept (draft.addProperty mapping type name)
  | .count => .ofExcept (draft.addCount type)
  | .value => .ofExcept (draft.addValue mapping type)
  | .cast target => .ofExcept (draft.addCast mapping type target)
  | .function name arguments => .ofExcept (draft.addFunction type name arguments)
  | .query _ => pure draft

def addPart (mapping : Mapping) (draft : Draft) (part : ResourcePart) : Logged Error Draft :=
  match part with
  | .query clauses => .ofExcept (clauses.foldlM (addClause mapping) draft)
  | part =>
    match draft.terminal, draft.type with
    | some terminal, _ =>
      .fail (.cannotTraverse terminal (part.description ++ " cannot follow it"))
    | none, none => .ofExcept (draft.addRoot part)
    | none, some type => draft.addPathPart mapping type part

def finish (mapping : Mapping) (draft : Draft) (root : String) : Except Error Target := do
  match draft.type with
  | none => .error (.missingRoot "an empty part list")
  | some type =>
    let bindings ← mapping.renderer.bindAliases draft.aliases
    let final ← bindings.foldlM (fun draft binding => draft.addPair binding.1 binding.2) draft
    pure ⟨final.accept, type, {
      root := root
      container := final.container
      entitySet := final.entitySet.map EntitySet.name
      path := Text.joined "/" final.segments
      query := final.query }⟩

end Draft

namespace Mapping

def draft (mapping : Mapping) (resource : ResourceParts) : Logged Error Draft :=
  resource.parts.foldlM (Draft.addPart mapping) {}

/-- The address that the parts describe below a service root. -/
def map (mapping : Mapping) (root : String) (resource : ResourceParts) : Logged Error Target := do
  let draft ← mapping.draft resource
  .ofExcept (draft.finish mapping root)

end Mapping
end ODataRequest
