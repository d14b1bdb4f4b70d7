namespace ODataRequest

structure RequestTarget where
  scheme : Option String := none
  authority : String := ""
  path : String := ""
  query : Option String := none
  deriving DecidableEq

namespace RequestTarget

def text (target : RequestTarget) : String :=
  let scheme := match target.scheme with
    | some scheme => scheme ++ "://"
    | none => ""
  let path := if target.path.isEmpty && target.scheme.isSome then "/" else target.path
  let query := match target.query with
    | some query => "?" ++ query
    | none => ""
  scheme ++ target.authority ++ path ++ query

def lengthLimit : Nat := 65534

def isSchemeChar (char : Char) : Bool := char.isAlphanum || "+-.~".toList.contains char

def splitScheme (chars : List Char) : Option (Option String × List Char) :=
  let (name, rest) := chars.span isSchemeChar
  match rest with
  | ':' :: '/' :: '/' :: rest =>
    let lower := (String.ofList name).toLower
    if lower = "http" ∨ lower = "https" then some (some lower, rest)
    else if name.length ≤ 64 then some (some (String.ofList name), rest)
    else none
  | _ => some (none, chars)

def isAuthorityChar (char : Char) : Bool :=
  char.isAlphanum || "!$&'()*+,-.;=_~".toList.contains char

def endsAuthority (char : Char) : Bool := char == '/' || char == '?' || char == '#'

/-- What has been seen of an authority: colons and percent signs since the user part or the
bracketed address ended, and whether an at sign came last. -/
structure AuthorityScan where
  colons : Nat := 0
  percent : Bool := false
  opened : Bool := false
  closed : Bool := false
  atLast : Bool := false

/-- A colon inside brackets separates the groups of an address; there are at most eight. -/
def AuthorityScan.step (scan : AuthorityScan) (char : Char) : Option AuthorityScan :=
  let scan := { scan with atLast := false }
  match char with
  | ':' => if 8 ≤ scan.colons then none else some { scan with colons := scan.colons + 1 }
  | '[' => if scan.percent || scan.opened then none else some { scan with opened := true }
  | ']' =>
    if !scan.opened || scan.closed then none
    else some { scan with closed := true, colons := 0, percent := false }
  | '@' => some { scan with colons := 0, percent := false, atLast := true }
  | '%' => some { scan with percent := true }
  | char => if isAuthorityChar char then some scan else none

/-- Brackets are closed, at most one colon stands before a port, a host follows the at sign and
has no percent signs. -/
def AuthorityScan.sound (scan : AuthorityScan) : Bool :=
  scan.opened == scan.closed && scan.colons ≤ 1 && !scan.atLast && !scan.percent

def isAuthority (chars : List Char) : Bool :=
  (chars.foldlM AuthorityScan.step {}).any AuthorityScan.sound

def isPathChar (char : Char) : Bool :=
  0x21 ≤ char.toNat && !"#<>?\x60\x7F".toList.contains char

def isQueryChar (char : Char) : Bool :=
  0x21 ≤ char.toNat && !"\"#<>\x7F".toList.contains char

def ofPath? (scheme : Option String) (authority : String) (chars : List Char) :
    Option RequestTarget :=
  let chars := chars.takeWhile fun char => char != '#'
  let (path, rest) := chars.span fun char => char != '?'
  if path.all isPathChar then
    match rest with
    | [] => some ⟨scheme, authority, String.ofList path, none⟩
    | _ :: query =>
      if query.all isQueryChar then
        some ⟨scheme, authority, String.ofList path, some (String.ofList query)⟩
      else none
  else none

def ofFull? (chars : List Char) : Option RequestTarget := do
  let (scheme, chars) ← splitScheme chars
  let (authority, rest) := chars.span fun char => !endsAuthority char
  if !isAuthority authority then none
  else if scheme.isNone then
    if rest.isEmpty then some ⟨none, String.ofList authority, "", none⟩ else none
  else if authority.isEmpty then none
  else ofPath? scheme (String.ofList authority) rest

def ofText? (text : String) : Option RequestTarget :=
  if lengthLimit < text.utf8ByteSize then none
  else match text.toList with
    | [] => none
    | ['*'] => some ⟨none, "", "*", none⟩
    | '/' :: rest => ofPath? none "" ('/' :: rest)
    | chars => ofFull? chars

end RequestTarget
end ODataRequest
