namespace ODataRequest

/-- Something questionable that does not stop a request. -/
inductive Warning
  | compositeKeySegment (type : String)
  | contentTypeMismatch (expected found : String)
  deriving DecidableEq

def Warning.message : Warning → String
  | compositeKeySegment _ =>
    "composite keys cannot be written as a path segment; using key-as-function form"
  | contentTypeMismatch _ _ =>
    "response content type does not match the requested accept type"

/-- A result together with the warnings given on the way to it, also to a failure. -/
structure Logged (ε α : Type) where
  warnings : List Warning
  outcome : Except ε α

namespace Logged

variable {ε δ α β : Type}

def bind (x : Logged ε α) (f : α → Logged ε β) : Logged ε β :=
  match x.outcome with
  | .ok a => ⟨x.warnings ++ (f a).warnings, (f a).outcome⟩
  | .error e => ⟨x.warnings, .error e⟩

instance : Monad (Logged ε) where
  pure a := ⟨[], .ok a⟩
  bind := bind

def fail (e : ε) : Logged ε α := ⟨[], .error e⟩

def ofExcept (outcome : Except ε α) : Logged ε α := ⟨[], outcome⟩

def warn (warning : Warning) : Logged ε Unit := ⟨[warning], .ok ()⟩

def mapError (f : ε → δ) (x : Logged ε α) : Logged δ α := ⟨x.warnings, x.outcome.mapError f⟩

end Logged
end ODataRequest
