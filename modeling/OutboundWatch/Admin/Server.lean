import OutboundWatch.Admin.Router

/-!
# The admin server

A server answers requests until the observatory shuts down. It learns of that as everybody else does, through
a receiver of the shutdown signal, which it subscribes when it starts.
-/

namespace OutboundWatch.Admin

structure Server where
  address : String
  /-- The key that requests must carry. -/
  key : String
  receiver : Nat

namespace Server

/-- Start to serve an observatory at an address, with the key of its configuration. -/
def start (o : Observatory) (address : String) : Observatory × Server × List Record :=
  let (signal, receiver) := o.signal.subscribe
  ({ o with signal := signal }, ⟨address, o.config.admin.apiKey, receiver⟩,
    [.notice (.adminListening address)])

/-- The end of the server, once its receiver has something to receive. Whatever it receives ends it. -/
def finish? (s : Server) (o : Observatory) : Option (Observatory × List Record) :=
  match o.signal.receive s.receiver with
  | (_, .empty) => none
  | (signal, _) => some ({ o with signal := (signal.drop s.receiver).1 }, [.notice .adminStopped])

end Server

end OutboundWatch.Admin
