/-!
# The shutdown signal

A signal that any number of receivers can wait for. The channel keeps the last signal only; a receiver
sees signals that were given after it subscribed, and learns how many it has lost.
-/

namespace OutboundWatch

/-- What asking for a signal gives. -/
inductive Reception where
  | signal
  | empty
  | closed
  | lagged (lost : Nat)
  deriving DecidableEq

/-- The channel: how many signals were given, and for each receiver how many it has behind it. -/
structure Signal where
  given : Nat
  receivers : List (Nat × Nat)
  nextReceiver : Nat

namespace Signal

def create : Signal := ⟨0, [], 0⟩

def subscribe (s : Signal) : Signal × Nat :=
  ({ s with
      receivers := s.receivers ++ [(s.nextReceiver, s.given)]
      nextReceiver := s.nextReceiver + 1 },
    s.nextReceiver)

/-- Give the signal. It is not kept when nobody could receive it. -/
def trigger (s : Signal) : Signal :=
  if s.receivers.isEmpty then s else { s with given := s.given + 1 }

/-- Drop a receiver, and tell whether it was there. -/
def drop (s : Signal) (id : Nat) : Signal × Bool :=
  ({ s with receivers := s.receivers.filter fun r => r.1 != id }, s.receivers.any fun r => r.1 == id)

/-- Let a receiver have the signals up to `seen` behind it. -/
def setSeen (s : Signal) (id seen : Nat) : Signal :=
  { s with receivers := s.receivers.map fun r => if r.1 = id then (id, seen) else r }

def receive (s : Signal) (id : Nat) : Signal × Reception :=
  match s.receivers.lookup id with
  | none => (s, .closed)
  | some seen =>
    if seen = s.given then (s, .empty)
    else if seen + 1 = s.given then (s.setSeen id s.given, .signal)
    else (s.setSeen id (s.given - 1), .lagged (s.given - 1 - seen))

def receiverCount (s : Signal) : Nat := s.receivers.length

end Signal

end OutboundWatch
