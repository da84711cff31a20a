import QuerySession.Journal
import QuerySession.Settings.Json
import QuerySession.Status.Json
import QuerySession.Worker
import QuerySession.Proofs.Precondition
import QuerySession.Proofs.Run
import QuerySession.Proofs.Handlers
import QuerySession.Proofs.Signals
import QuerySession.Proofs.History
import QuerySession.Proofs.Typestate
import QuerySession.Proofs.Invariant
import QuerySession.Proofs.CallHistory
import QuerySession.Proofs.Recovery
import QuerySession.Proofs.Greeting
import QuerySession.Proofs.Custody
import QuerySession.Proofs.Answers
import QuerySession.Proofs.Verdict
import QuerySession.Proofs.Agreement
import QuerySession.Proofs.Entries
import QuerySession.Proofs.Exchange
import QuerySession.Proofs.Notice
import QuerySession.Proofs.Loss
import QuerySession.Proofs.FastForward
import QuerySession.Proofs.Rows
import QuerySession.Proofs.Replies
import QuerySession.Proofs.Containment
import QuerySession.Proofs.Streaming
import QuerySession.Proofs.Waiting
import QuerySession.Proofs.Closing
import QuerySession.Proofs.Mirror
import QuerySession.Proofs.Sealed
import QuerySession.Proofs.Alike
import QuerySession.Proofs.Draining
import QuerySession.Proofs.Binding
import QuerySession.Proofs.Routing
import QuerySession.Proofs.Teardown
import QuerySession.Proofs.Bounds
import QuerySession.Proofs.Summaries
import QuerySession.Proofs.LostSummaries
import QuerySession.Proofs.Forwarding
import QuerySession.Proofs.Counting
import QuerySession.Proofs.Equality
import QuerySession.Proofs.Json
import QuerySession.Proofs.Settings
