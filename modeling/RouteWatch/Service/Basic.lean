import RouteWatch.Service.Error
import RouteWatch.Service.Registry
import RouteWatch.Text.Blank

-- The interest service: the four changes of the store, each checked, and the event each success
-- announces.
namespace RouteWatch

-- A successful change of the store.
structure Change (Moment : Type) where
  -- What the caller receives.
  result : Interest Moment
  -- The store after the change.
  store : Registry Moment
  -- The event the change announces.
  event : Event Moment

namespace Service

variable {Moment : Type}

-- A change the store made, announced as an event of `kind` carrying what the store gave back;
-- a refusal of the store is passed on, and announces nothing.
def announce (kind : EventKind) :
    Except ServiceError (Interest Moment × Registry Moment) → Except ServiceError (Change Moment)
  | .error e => .error e
  | .ok (i, r) => .ok { result := i, store := r, event := ⟨kind, i⟩ }

-- Creates the interest of `req` at moment `now`: a blank app name is refused before the store
-- is asked, a stored one by the look-up, and the store's own creation checks it once more.
def create (r : Registry Moment) (req : Request) (now : Moment) :
    Except ServiceError (Change Moment) :=
  if Text.allBlank req.appName then .error .blankAppName
  else
    match r.find? req.appName with
    | some _ => .error (.alreadyExists req.appName)
    | none =>
      let i := Interest.new req.appName req.serviceIp now
      announce .created ((r.create i).map fun r' => (i, r'))

-- Routes the stored interest of `req`'s app name to `req`'s address, updated at `now`; the
-- store's own update looks the app name up again.
def update (r : Registry Moment) (req : Request) (now : Moment) :
    Except ServiceError (Change Moment) :=
  match r.find? req.appName with
  | none => .error (.notFound req.appName)
  | some old => announce .updated (r.update (old.moveTo req.serviceIp now))

def removeApp (r : Registry Moment) (app : String) : Except ServiceError (Change Moment) :=
  announce .deleted (r.removeApp app)

def removeIp (r : Registry Moment) (ip : String) : Except ServiceError (Change Moment) :=
  announce .deleted (r.removeIp ip)

end Service

end RouteWatch
