/-!
# Statuses

What a client is told about a failure, and the reason why a transaction was terminated. Every
status has a code of four parts, `Neo.<class>.<category>.<title>`, and is one of a fixed set.

* `Status.ofCode?_eq_some_iff`: a code is found exactly as the code of its status;
* `Status.ofName?_eq_some_iff`: likewise for names.
-/

namespace QuerySession

/-- The second part of a status code: who is to blame, and whether a retry may help. -/
inductive Status.Class where
  /-- The request was wrong and will fail again. -/
  | clientError
  /-- The condition may pass; the request may succeed later. -/
  | transientError
  /-- The server failed. -/
  | databaseError
  deriving DecidableEq, Repr

namespace Status.Class

/-- The class as it stands in a code. -/
def name : Class → String
  | clientError => "ClientError"
  | transientError => "TransientError"
  | databaseError => "DatabaseError"

/-- Every class. -/
def all : List Class := [clientError, transientError, databaseError]

/-- The class of a name. -/
def ofName? (name : String) : Option Class := all.find? (·.name == name)

end Status.Class

/-- A condition that is reported to a client. -/
inductive Status where
  /-- The request is malformed or out of order. -/
  | requestInvalid
  /-- A field of the request makes no sense. -/
  | requestInvalidFormat
  /-- The credentials were rejected. -/
  | authenticationFailed
  /-- The caller lacks permission. -/
  | unauthorized
  /-- The statement does not parse. -/
  | syntaxError
  /-- The statement parses but means nothing. -/
  | semanticError
  /-- The statement names a parameter that was not given. -/
  | parameterMissing
  /-- No transaction is open. -/
  | transactionNotFound
  /-- The named database does not exist. -/
  | databaseNotFound
  /-- The server failed in a way of its own. -/
  | generalError
  /-- The statement failed while it ran. -/
  | executionFailed
  /-- The transaction was terminated on request. -/
  | transactionTerminated
  /-- The transaction ran out of time. -/
  | transactionTimedOut
  /-- The transaction was rolled back to resolve a deadlock. -/
  | deadlockDetected
  /-- The database cannot be reached now. -/
  | databaseUnavailable
  deriving DecidableEq, Repr

namespace Status

/-- The full code. -/
def code : Status → String
  | requestInvalid => "Neo.ClientError.Request.Invalid"
  | requestInvalidFormat => "Neo.ClientError.Request.InvalidFormat"
  | authenticationFailed => "Neo.ClientError.Security.AuthenticationFailed"
  | unauthorized => "Neo.ClientError.Security.Unauthorized"
  | syntaxError => "Neo.ClientError.Statement.SyntaxError"
  | semanticError => "Neo.ClientError.Statement.SemanticError"
  | parameterMissing => "Neo.ClientError.Statement.ParameterMissing"
  | transactionNotFound => "Neo.ClientError.Transaction.TransactionNotFound"
  | databaseNotFound => "Neo.ClientError.Database.DatabaseNotFound"
  | generalError => "Neo.DatabaseError.General.UnknownError"
  | executionFailed => "Neo.DatabaseError.Statement.ExecutionFailed"
  | transactionTerminated => "Neo.TransientError.Transaction.Terminated"
  | transactionTimedOut => "Neo.TransientError.Transaction.TransactionTimedOut"
  | deadlockDetected => "Neo.TransientError.Transaction.DeadlockDetected"
  | databaseUnavailable => "Neo.TransientError.General.DatabaseUnavailable"

/-- The name under which a status is written down in data. -/
def name : Status → String
  | requestInvalid => "RequestInvalid"
  | requestInvalidFormat => "RequestInvalidFormat"
  | authenticationFailed => "AuthenticationFailed"
  | unauthorized => "Unauthorized"
  | syntaxError => "SyntaxError"
  | semanticError => "SemanticError"
  | parameterMissing => "ParameterMissing"
  | transactionNotFound => "TransactionNotFound"
  | databaseNotFound => "DatabaseNotFound"
  | generalError => "GeneralError"
  | executionFailed => "ExecutionFailed"
  | transactionTerminated => "TransactionTerminated"
  | transactionTimedOut => "TransactionTimedOut"
  | deadlockDetected => "DeadlockDetected"
  | databaseUnavailable => "DatabaseUnavailable"

/-- The class, which is also the second part of the code. -/
def classification : Status → Class
  | generalError | executionFailed => .databaseError
  | transactionTerminated | transactionTimedOut | deadlockDetected | databaseUnavailable =>
    .transientError
  | _ => .clientError

/-- The same request may succeed later. -/
def isTransient (s : Status) : Bool := s.classification = .transientError

/-- Every status. -/
def all : List Status :=
  [requestInvalid, requestInvalidFormat, authenticationFailed, unauthorized, syntaxError,
    semanticError, parameterMissing, transactionNotFound, databaseNotFound, generalError,
    executionFailed, transactionTerminated, transactionTimedOut, deadlockDetected,
    databaseUnavailable]

/-- The status of a code. -/
def ofCode? (code : String) : Option Status := all.find? (·.code == code)

/-- The status of a name. -/
def ofName? (name : String) : Option Status := all.find? (·.name == name)

theorem mem_all (s : Status) : s ∈ all := by cases s <;> decide

theorem ofCode?_code (s : Status) : ofCode? s.code = some s := by
  cases s <;> simp [ofCode?, all, code]

theorem ofName?_name (s : Status) : ofName? s.name = some s := by
  cases s <;> simp [ofName?, all, name]

/-- A code is found exactly as the code of its status. -/
theorem ofCode?_eq_some_iff {code : String} {s : Status} : ofCode? code = some s ↔ code = s.code :=
  ⟨fun h => (eq_of_beq (List.find?_some (p := fun t : Status => t.code == code) h)).symm,
    fun h => h ▸ ofCode?_code s⟩

/-- A name is found exactly as the name of its status. -/
theorem ofName?_eq_some_iff {name : String} {s : Status} : ofName? name = some s ↔ name = s.name :=
  ⟨fun h => (eq_of_beq (List.find?_some (p := fun t : Status => t.name == name) h)).symm,
    fun h => h ▸ ofName?_name s⟩

end Status
end QuerySession
