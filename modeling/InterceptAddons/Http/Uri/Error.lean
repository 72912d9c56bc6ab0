/-!
# Faults of request targets

Why a text is no URI, no authority or no path, and why parts do not fit together.
-/

namespace InterceptAddons.Http

/-- Why a request target is refused. -/
inductive UriError
  | tooLong
  | empty
  | invalidChar
  | schemeTooLong
  | invalidAuthority
  | invalidFormat
  | missingSlash
  | missingScheme
  deriving Repr, DecidableEq

def UriError.message : UriError → String
  | .tooLong => "uri too long"
  | .empty => "empty string"
  | .invalidChar => "invalid uri character"
  | .schemeTooLong => "scheme too long"
  | .invalidAuthority => "invalid authority"
  | .invalidFormat => "invalid format"
  | .missingSlash => "path does not start with slash"
  | .missingScheme => "scheme missing"

end InterceptAddons.Http
