-- The hub keeps one mailbox per observer id. Registering an id again gives it a new mailbox and
-- unlinks the old one; deregistering unlinks it. A published event goes to every linked mailbox.
namespace RouteWatch

-- Observer ids and the mailbox each one is linked to, in the order the ids first appeared.
structure Hub where
  links : List (String × Nat)
  deriving Repr

namespace Hub

def empty : Hub := ⟨[]⟩

def mailbox? (h : Hub) (id : String) : Option Nat :=
  h.links.lookup id

-- Links `id` to mailbox `m`, in place of its previous mailbox if it had one.
def link (h : Hub) (id : String) (m : Nat) : Hub :=
  if h.links.any (·.1 == id) then
    ⟨h.links.map fun e => if e.1 == id then (id, m) else e⟩
  else
    ⟨h.links ++ [(id, m)]⟩

def unlink (h : Hub) (id : String) : Hub :=
  ⟨h.links.filter fun e => e.1 != id⟩

-- The linked mailboxes, in the order a published event reaches them.
def mailboxes (h : Hub) : List Nat :=
  h.links.map (·.2)

-- The number of registered observer ids.
def size (h : Hub) : Nat :=
  h.links.length

end Hub

end RouteWatch
