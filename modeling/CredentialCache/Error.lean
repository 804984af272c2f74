/-!
# Errors

Every failure of the caches is one of five kinds, with a detail text. The kind fixes the message
prefix, the HTTP status and the problem-details record (RFC 7807) that an endpoint would answer.
Rejected credentials (an invalid grant or an unknown token) are told apart from faults.
-/

namespace CredentialCache

inductive ErrorKind
  | invalidGrant
  | notFound
  | invalidArgument
  | illegalState
  | internal
deriving DecidableEq, Repr

/-- A failure: its kind and the detail text. -/
structure AppError where
  kind : ErrorKind
  detail : String
deriving DecidableEq, Repr

namespace ErrorKind

def prefixText : ErrorKind → String
  | invalidGrant => "Invalid grant: "
  | notFound => "Not found: "
  | invalidArgument => "Invalid argument: "
  | illegalState => "Illegal state: "
  | internal => "Internal error: "

def status : ErrorKind → Nat
  | invalidGrant => 400
  | notFound => 404
  | invalidArgument => 400
  | illegalState => 500
  | internal => 500

def slug : ErrorKind → String
  | invalidGrant => "invalid-grant"
  | notFound => "not-found"
  | invalidArgument => "invalid-argument"
  | illegalState => "illegal-state"
  | internal => "internal"

def title : ErrorKind → String
  | invalidGrant => "Invalid Grant"
  | notFound => "Resource Not Found"
  | invalidArgument => "Invalid Argument"
  | illegalState => "Illegal State"
  | internal => "Internal Server Error"

/-- A rejected credential rather than a fault: an invalid grant or a missing resource. -/
def isCredentialRejection : ErrorKind → Bool
  | invalidGrant | notFound => true
  | _ => false

end ErrorKind

namespace AppError

def invalidGrant (detail : String) : AppError := ⟨.invalidGrant, detail⟩
def notFound (detail : String) : AppError := ⟨.notFound, detail⟩
def invalidArgument (detail : String) : AppError := ⟨.invalidArgument, detail⟩
def illegalState (detail : String) : AppError := ⟨.illegalState, detail⟩
def internal (detail : String) : AppError := ⟨.internal, detail⟩

/-- The full message: the kind's prefix, then the detail. -/
def message (e : AppError) : String := e.kind.prefixText ++ e.detail

end AppError

/-- A problem-details record (RFC 7807). -/
structure ProblemDetails where
  type : String
  title : String
  status : Nat
  detail : String
  inst : Option String := none
deriving DecidableEq, Repr

def AppError.toProblem (e : AppError) : ProblemDetails where
  type := "https://credstore.dev/problems/" ++ e.kind.slug
  title := e.kind.title
  status := e.kind.status
  detail := e.message

end CredentialCache
