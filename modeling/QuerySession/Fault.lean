import QuerySession.Status

/-!
# Faults and failures

A fault is the cause for which handling a request stops. A failure is what a client is told about
it: a status and a message. Every fault has a status, a text and a failure (`Failure.ofFault`);
the fatal ones end the connection.
-/

namespace QuerySession

/-- Why the handling of a request stopped. -/
inductive Fault where
  /-- The transaction was torn down earlier, behind the client's back. -/
  | transactionTerminated (status : Status)
  /-- Work was asked for while no processor is bound. -/
  | noProcessor
  /-- A processor reports that a statement or transaction failed. -/
  | statement (status : Status) (message : String)
  /-- The request is not allowed in the phase. -/
  | invalidRequest (request phase : String)
  /-- A RESET came without an interrupt to answer. -/
  | counterUnderflow
  /-- The connection is closed already. -/
  | connectionClosed
  /-- Anything else that ends the connection. -/
  | fatal (message : String)
  deriving DecidableEq, Repr

namespace Fault

/-- The connection cannot go on after a fatal fault. -/
def isFatal : Fault → Bool
  | counterUnderflow | connectionClosed | fatal _ => true
  | _ => false

/-- The status that is reported for a fault. -/
def status : Fault → Status
  | transactionTerminated status => status
  | statement status _ => status
  | noProcessor | invalidRequest _ _ => .requestInvalid
  | counterUnderflow | connectionClosed | fatal _ => .generalError

/-- A fault in words. -/
def text : Fault → String
  | transactionTerminated status =>
    "The transaction has been terminated (" ++ status.code ++
      "). Retry your operation in a new transaction"
  | noProcessor => "Unable to run statements: no statement processor is bound"
  | statement status message => status.code ++ ": " ++ message
  | invalidRequest request phase =>
    "Message " ++ request ++ " cannot be handled by a session in the " ++ phase ++ " state"
  | counterUnderflow => "Interrupt counter decremented below zero"
  | connectionClosed => "Connection closed"
  | fatal message => "Fatal error: " ++ message

end Fault

/-- A fault on its way to the client. -/
structure Failure where
  status : Status
  message : String
  fatal : Bool := false
  deriving DecidableEq, Repr

namespace Failure

/-- A processor's own message is passed on as it is; any other fault is put into words. -/
def ofFault (fault : Fault) : Failure where
  status := fault.status
  message := match fault with
    | .statement _ message => message
    | fault => fault.text
  fatal := fault.isFatal

/-- A failure on one line. -/
def text (f : Failure) : String := f.status.code ++ ": " ++ f.message

@[simp] theorem status_ofFault (fault : Fault) : (ofFault fault).status = fault.status := rfl

@[simp] theorem fatal_ofFault (fault : Fault) : (ofFault fault).fatal = fault.isFatal := rfl

end Failure
end QuerySession
