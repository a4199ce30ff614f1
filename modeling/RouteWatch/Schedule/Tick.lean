-- Tick deadlines of a periodic timer that skips the ticks it missed.
namespace RouteWatch.Schedule

-- How late a tick may be taken and still keep the next deadline one period on.
def lateness : Nat := 5

-- The furthest ahead the runtime arms a timer: 30 years of 365 days, in ms.
def farFuture : Nat := 946080000000

-- A wait of `ms` as a timer takes it, cut to `farFuture`.
def waitOf (ms : Nat) : Nat := min ms farFuture

-- The deadline after a tick of deadline `d` taken at `now`, for period `p`.
def nextDeadline (p d now : Nat) : Nat :=
  if d + lateness < now then now + p - (now - d) % p
  else if farFuture < p then now + farFuture
  else d + p

end RouteWatch.Schedule
