import ODataRequest.Expr.Basic
namespace ODataRequest

namespace Expr

def matchesDirective (e : Expr) (p : Parameter) : Bool :=
  match e with
  | directive d => p.directiveKind? == some d.kind
  | _ => false

def fits (e : Expr) (p : Parameter) : Bool :=
  match p.directiveKind?, e with
  | some _, e => e.matchesDirective p
  | none, directive _ => false
  | none, _ => true

end Expr

namespace Signature

/-- Takes arguments for a repeated parameter until only as many are left as parameters follow.
A directive parameter also stops at an argument of another kind, which is taken off the list. -/
def absorb (p : Parameter) (trailing : Nat) : List Expr → List Expr × List Expr
  | [] => ([], [])
  | e :: rest =>
    if trailing < rest.length + 1 then
      if p.directiveKind?.isSome && !e.matchesDirective p then ([], rest)
      else
        let (taken, left) := absorb p trailing rest
        (e :: taken, left)
    else ([], e :: rest)

/-- Pairs arguments with parameters from left to right. An optional parameter is passed over
if the next argument does not fit it. Nothing is returned if an argument is missing;
the second list holds the arguments left over. -/
def pairFrom : List Parameter → List Expr → Option (List (Expr × Parameter) × List Expr)
  | [], args => some ([], args)
  | p :: parameters, args =>
    if p.repeated then
      let (taken, left) := absorb p parameters.length args
      (pairFrom parameters left).map fun (pairs, rest) => (taken.map (·, p) ++ pairs, rest)
    else match args with
      | [] => if p.optional then pairFrom parameters [] else none
      | e :: rest =>
        if !p.optional || e.fits p then
          (pairFrom parameters rest).map fun (pairs, left) => ((e, p) :: pairs, left)
        else pairFrom parameters (e :: rest)

def pair (s : Signature) (args : List Expr) : Except Error (List (Expr × Parameter)) :=
  match pairFrom s.parameters args with
  | some (pairs, []) => .ok pairs
  | _ => .error (.argumentCount s.name s.arityText args.length)

def bindingOf? : Expr × Parameter → Option (String × TypeRef)
  | (e, p) =>
    match p.kind, e.concreteType? with
    | .operand (.generic name) _, some type => some (name, type)
    | .operand (.genericCollection name) _, some (.collection element) => some (name, element)
    | _, _ => none

/-- The generic types; the first argument that has a type decides. -/
def bind (pairs : List (Expr × Parameter)) : Table TypeRef :=
  (pairs.filterMap bindingOf?).foldl (fun table entry => table.insertNew entry.1 entry.2) .empty

def resolvedType? (p : Parameter) (bindings : Table TypeRef) : Option TypeRef :=
  match p.kind with
  | .operand (.concrete type) _ => some type
  | .operand (.generic name) _ => bindings.get? name
  | .operand (.genericCollection name) _ => (bindings.get? name).map .collection
  | _ => none

def typeConstant (bindings : Table TypeRef) : Expr × Parameter → Expr × Parameter
  | (.value v none, p) => (.value v (resolvedType? p bindings), p)
  | other => other

def apply (s : Signature) (receiver : Option Expr) (args : List Expr) : Except Error Expr := do
  let pairs ← s.pair args
  let bindings := bind pairs
  pure (.call ⟨receiver, pairs.map (typeConstant bindings), s, bindings⟩)

end Signature
end ODataRequest
