import QuerySession.Fault
import QuerySession.Value

/-!
# Responses

A request is answered by any number of records and then one summary: success with metadata,
failure, or a note that the request was ignored.
-/

namespace QuerySession

/-- One row of a result. -/
abbrev Record := List Value

/-- The metadata of a successful request. -/
abbrev Metadata := Dictionary Value

namespace Metadata

private def text? (m : Metadata) (key : String) : Option String := (m.get? key).bind Value.text?

/-- How the server calls itself. -/
def server? (m : Metadata) : Option String := text? m "server"

/-- The name of the connection. -/
def connectionId? (m : Metadata) : Option String := text? m "connection_id"

/-- The column names of a result. -/
def fields? (m : Metadata) : Option (List String) := (m.get? "fields").bind Value.texts?

/-- The number of a statement within its transaction. -/
def statement? (m : Metadata) : Option Int64 := (m.get? "qid").bind Value.integer?

/-- Rows are left; false where nothing is said. -/
def hasMore (m : Metadata) : Bool := ((m.get? "has_more").bind Value.boolean?).getD false

/-- The bookmark of a finished transaction. -/
def bookmark? (m : Metadata) : Option String := text? m "bookmark"

/-- The database that answered. -/
def database? (m : Metadata) : Option String := text? m "db"

end Metadata

/-- A message to a client. -/
inductive Response where
  | success (metadata : Metadata)
  | record (fields : Record)
  | failure (code message : String)
  | ignored
  deriving BEq

namespace Response

/-- The name of a response. -/
def name : Response → String
  | success _ => "SUCCESS"
  | record _ => "RECORD"
  | failure _ _ => "FAILURE"
  | ignored => "IGNORED"

def isSuccess : Response → Bool
  | success _ => true
  | _ => false

def isRecord : Response → Bool
  | record _ => true
  | _ => false

def isFailure : Response → Bool
  | failure _ _ => true
  | _ => false

def isIgnored : Response → Bool
  | ignored => true
  | _ => false

/-- The response that reports a status. -/
def ofStatus (status : Status) (message : String) : Response := failure status.code message

/-- The status of a failure, if its code is one of ours. -/
def status? : Response → Option Status
  | failure code _ => Status.ofCode? code
  | _ => none

/-- A failure on one line. -/
def failureText? : Response → Option String
  | failure code message => some (code ++ ": " ++ message)
  | _ => none

end Response

/-- The response that tells a client about a failure. -/
def Failure.toResponse (f : Failure) : Response := .ofStatus f.status f.message

end QuerySession
