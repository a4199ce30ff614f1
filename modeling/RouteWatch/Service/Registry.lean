import RouteWatch.Interest
import RouteWatch.Keyed
import RouteWatch.Service.Error

-- The store of interests: at most one interest per app name, held in increasing order of app name.
namespace RouteWatch

-- Interests in strictly increasing order of app name.
structure Registry (Moment : Type) where
  entries : List (Interest Moment)
  -- Each entry's app name is below those of the entries after it.
  ordered : entries.Pairwise fun a b => a.appName < b.appName
  deriving Repr

namespace Registry

variable {Moment : Type}

def empty : Registry Moment := ⟨[], List.Pairwise.nil⟩

-- Stores `i` under its app name, replacing what was stored there.
def put (r : Registry Moment) (i : Interest Moment) : Registry Moment :=
  ⟨Keyed.insert Interest.appName i r.entries, Keyed.insert_ordered i r.ordered⟩

-- Removes the interest of app name `app`, if there is one.
def erase (r : Registry Moment) (app : String) : Registry Moment :=
  ⟨r.entries.filter (fun i => i.appName != app), r.ordered.filter _⟩

def find? (r : Registry Moment) (app : String) : Option (Interest Moment) :=
  r.entries.find? fun i => i.appName == app

-- Of the interests routed to `ip`, the one with the least app name.
def findByIp? (r : Registry Moment) (ip : String) : Option (Interest Moment) :=
  r.entries.find? fun i => i.serviceIp == ip

-- The store holding `seed`, put in order: a later interest replaces an earlier one of the
-- same app name.
def ofList (seed : List (Interest Moment)) : Registry Moment :=
  seed.foldl put empty

-- Every stored interest, in increasing order of app name.
def toList (r : Registry Moment) : List (Interest Moment) :=
  r.entries

-- `i` is stored, routed to `ip`, and no stored interest routed to `ip` has a smaller app
-- name.
def LeastAt (r : Registry Moment) (ip : String) (i : Interest Moment) : Prop :=
  i ∈ r.toList ∧ i.serviceIp = ip ∧ ∀ j ∈ r.toList, j.serviceIp = ip → i.appName ≤ j.appName

def size (r : Registry Moment) : Nat :=
  r.entries.length

-- Stores `i`, unless an interest is stored under its app name already.
def create (r : Registry Moment) (i : Interest Moment) : Except ServiceError (Registry Moment) :=
  match r.find? i.appName with
  | some _ => .error (.alreadyExists i.appName)
  | none => .ok (r.put i)

-- Puts `i` in place of the interest stored under its app name, and gives `i` back.
def update (r : Registry Moment) (i : Interest Moment) :
    Except ServiceError (Interest Moment × Registry Moment) :=
  match r.find? i.appName with
  | none => .error (.notFound i.appName)
  | some _ => .ok (i, r.put i)

-- Takes out the interest stored under `app`, and gives it back.
def removeApp (r : Registry Moment) (app : String) :
    Except ServiceError (Interest Moment × Registry Moment) :=
  match r.find? app with
  | none => .error (.notFound app)
  | some i => .ok (i, r.erase app)

def namesAt (r : Registry Moment) (ip : String) : List String :=
  (r.entries.filter fun i => i.serviceIp == ip).map Interest.appName

-- The least of `names`, keeping the first of equal ones, as the standard library's minimum does.
def leastName? : List String → Option String
  | [] => none
  | a :: rest => some (rest.foldl (fun m b => if b < m then b else m) a)

-- Takes out an interest routed to `ip` in two round trips: the least app name routed there,
-- then the interest stored under that name, which may fail on its own.
def removeIp (r : Registry Moment) (ip : String) :
    Except ServiceError (Interest Moment × Registry Moment) :=
  match leastName? (r.namesAt ip) with
  | none => .error (.notFound ip)
  | some app => r.removeApp app

end Registry

end RouteWatch
