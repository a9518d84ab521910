import Readiness.Session
import Readiness.Proofs.Action.Trace
import Readiness.Proofs.Condition.Polled
import Readiness.Proofs.Condition.Law
import Readiness.Proofs.Poll.Course
import Readiness.Proofs.Poll.Schedule
import Readiness.Proofs.Action.Ends
import Readiness.Proofs.Condition.Attempt
import Readiness.Proofs.Condition.Schedule
import Readiness.Proofs.Strategy.Tree
import Readiness.Proofs.Strategy.Sequence
import Readiness.Proofs.Strategy.Bound
import Readiness.Proofs.Strategy.Timeout
import Readiness.Proofs.Condition.Fatal
import Readiness.Proofs.Strategy.Chain
import Readiness.Proofs.Strategy.Refusal
import Readiness.Proofs.Poll.Delay
import Readiness.Proofs.Strategy.Shift
import Readiness.Proofs.Strategy.Patience
import Readiness.Proofs.Condition.Accounting
import Readiness.Proofs.Condition.LogMessage
import Readiness.Proofs.Session.Disguise
import Readiness.Proofs.Strategy.Wrapper
import Readiness.Proofs.Strategy.Nesting
import Readiness.Proofs.Http.Redaction
import Readiness.Proofs.Session.Credentials
import Readiness.Proofs.Network.Outcome
import Readiness.Proofs.Condition.Passes
import Readiness.Proofs.Poll.Enough
import Readiness.Proofs.Condition.PortSource
import Readiness.Proofs.Condition.Response
import Readiness.Proofs.Text.Packing
import Readiness.Proofs.Pattern.Literal
import Readiness.Proofs.Pattern.Count
import Readiness.Proofs.Condition.Cuts
import Readiness.Proofs.Condition.Failures
import Readiness.Proofs.Url.Liveness
import Readiness.Proofs.Condition.Authorization
import Readiness.Proofs.Condition.ProbePort
import Readiness.Proofs.Condition.WordCount
import Readiness.Proofs.Condition.SentFields
import Readiness.Proofs.Text.Blank
import Readiness.Proofs.Text.Count
import Readiness.Proofs.Strategy.Defaults
