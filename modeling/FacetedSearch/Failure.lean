/-!
# `FacetedSearch.Failure`: failures of a search engine

A failure is a reason why the engine gave no answer. It is transient
when trying again may help: the engine was not reached, took too long,
is switched off, is overloaded (status 429) or broke down (status 500
and above).
-/

set_option autoImplicit false

namespace FacetedSearch

/-- Why a search engine gave no answer. -/
inductive Failure where
  | connection (reason : String)
  | timeout (reason : String)
  | status (code : UInt16) (body : String)
  | protocol (reason : String)
  | unavailable (reason : String)
deriving DecidableEq, Inhabited

namespace Failure

/-- Whether trying again may help. -/
def isTransient : Failure → Bool
  | .connection _ | .timeout _ | .unavailable _ => true
  | .status code _ => 500 ≤ code || code = 429
  | .protocol _ => false

/-- The message for a failure. -/
def message : Failure → String
  | .connection reason => "Backend connection error: " ++ reason
  | .timeout reason => "Backend request timed out: " ++ reason
  | .status code body => "Backend returned status " ++ toString code.toNat ++ ": " ++ body
  | .protocol reason => "Backend protocol error: " ++ reason
  | .unavailable reason => "Backend unavailable: " ++ reason

end Failure

end FacetedSearch
