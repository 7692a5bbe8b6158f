import Assay.Text.Quoted

/-!
# Replies of a model

A call to a generative model ends with a text, with nothing at all, with a failure of the service,
or with any other fault of the client. A `Provider` is a model as its callers see it: a function
from the number of a call to its reply.
-/

namespace Assay

/-- How a call to a model ends. -/
inductive Reply where
  | text (s : String)
  | nothing
  /-- The service failed. -/
  | serviceError (message : String)
  /-- The client failed in a way of its own. -/
  | crash (kind message : String)
  deriving DecidableEq, Repr

/-- A model that can be called. -/
structure Provider where
  name : String
  model : String
  /-- The reply to a call; calls count from zero. -/
  reply : Nat → Reply

/-- The form in which a fault of the client is shown. -/
def shownCrash (kind message : String) : String :=
  kind ++ "(" ++ Text.quoted message ++ ")"

end Assay
