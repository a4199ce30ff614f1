-- Interests and the events that announce their changes.
namespace RouteWatch

-- A moment of the clock of record: moments taken one after another strictly grow, so only
-- their order matters.
abbrev Stamp := Nat

-- One app name routed to one service address, with the moments of its creation and of its
-- last update.
structure Interest (Moment : Type) where
  appName : String
  serviceIp : String
  createdAt : Moment
  updatedAt : Moment
  deriving DecidableEq, Repr

namespace Interest

variable {Moment : Type}

-- A new interest is created and updated at the same moment.
def new (app ip : String) (now : Moment) : Interest Moment :=
  { appName := app, serviceIp := ip, createdAt := now, updatedAt := now }

-- An interest is fresh while it has not been updated since its creation.
def fresh [DecidableEq Moment] (i : Interest Moment) : Bool :=
  decide (i.createdAt = i.updatedAt)

-- The same interest routed to `ip`, updated at `now`; its creation moment stays.
def moveTo (i : Interest Moment) (ip : String) (now : Moment) : Interest Moment :=
  { i with serviceIp := ip, updatedAt := now }

@[simp] theorem fresh_new [DecidableEq Moment] (app ip : String) (now : Moment) :
    (new app ip now).fresh = true := by
  simp [new, fresh]

@[simp] theorem moveTo_appName (i : Interest Moment) (ip : String) (now : Moment) :
    (i.moveTo ip now).appName = i.appName := rfl

end Interest

-- What a client asks for: an app name and the service address to route it to.
structure Request where
  appName : String
  serviceIp : String
  deriving DecidableEq, Repr

-- The three changes an interest goes through.
inductive EventKind where
  | created
  | updated
  | deleted
  deriving DecidableEq, Repr

namespace EventKind

-- The name of a kind of change, on the wire and in text alike.
def wireName : EventKind → String
  | .created => "INTEREST_CREATED"
  | .updated => "INTEREST_UPDATED"
  | .deleted => "INTEREST_DELETED"

-- Every kind, in the order the wire format lists them.
def all : List EventKind := [.created, .updated, .deleted]

def ofWireName? (s : String) : Option EventKind :=
  all.find? fun k => k.wireName == s

theorem ofWireName?_wireName (k : EventKind) : ofWireName? k.wireName = some k := by
  cases k <;> rfl

end EventKind

-- A change of one interest, as observers receive it.
structure Event (Moment : Type) where
  kind : EventKind
  interest : Interest Moment
  deriving DecidableEq, Repr

-- An event is filed under the app name of its interest.
def Event.key {Moment : Type} (e : Event Moment) : String :=
  e.interest.appName

end RouteWatch
