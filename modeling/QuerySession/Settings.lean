/-!
# Settings

How a session presents itself to clients, and how long the queues of its worker are.
-/

namespace QuerySession

/-- What a session says about itself, and the database it works with unless told otherwise. -/
structure Identity where
  connectionId : String := "bolt-0"
  serverAgent : String := "Zeta4G/0.1.0"
  defaultDatabase : String := "zeta4g"
  deriving DecidableEq, Repr, Inhabited

/-- The settings of a session and its worker. -/
structure Settings extends Identity where
  /-- The length of the queue of requests. -/
  requestCapacity : UInt64 := 64
  /-- The length of the queue of responses. -/
  responseCapacity : UInt64 := 256
  deriving DecidableEq, Repr, Inhabited

namespace Settings

/-- Sets the name of the connection. -/
def withConnectionId (s : Settings) (connectionId : String) : Settings := { s with connectionId }

/-- Sets the name of the server. -/
def withServerAgent (s : Settings) (serverAgent : String) : Settings := { s with serverAgent }

/-- Sets the database for requests that name none. -/
def withDefaultDatabase (s : Settings) (defaultDatabase : String) : Settings :=
  { s with defaultDatabase }

/-- Sets the length of the queue of requests, to one at least. -/
def withRequestCapacity (s : Settings) (size : UInt64) : Settings :=
  { s with requestCapacity := max size 1 }

/-- Sets the length of the queue of responses, to one at least. -/
def withResponseCapacity (s : Settings) (size : UInt64) : Settings :=
  { s with responseCapacity := max size 1 }

end Settings
end QuerySession
