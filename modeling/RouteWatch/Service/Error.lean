-- Why a service call fails. Each cause has one message, written by `ServiceError.message`.
namespace RouteWatch

-- The causes of a failed service call.
inductive ServiceError where
  -- Nothing is stored under the app name or service address.
  | notFound (key : String)
  -- The app name is already stored.
  | alreadyExists (app : String)
  -- The request breaks a rule on its fields.
  | validation (reason : String)
  -- The store could not do its work.
  | storage (reason : String)
  deriving DecidableEq, Repr

namespace ServiceError

def message : ServiceError → String
  | .notFound key => "Interest not found: " ++ key
  | .alreadyExists app => "Interest already exists: " ++ app
  | .validation reason => "Interest validation error: " ++ reason
  | .storage reason => "Interest storage error: " ++ reason

-- The name of the kind of failure, as answers spell it.
def kindName : ServiceError → String
  | .notFound _ => "NotFound"
  | .alreadyExists _ => "AlreadyExists"
  | .validation _ => "Validation"
  | .storage _ => "Storage"

def blankAppName : ServiceError :=
  .validation "app name must not be empty"

end ServiceError

end RouteWatch
