import SkywalkingAgent.Application.Published
import SkywalkingAgent.Application.Received
import SkywalkingAgent.Common.WaitGroup
import SkywalkingAgent.Management.Manager
import SkywalkingAgent.Metrics.Delivery
import SkywalkingAgent.Metrics.Rate
import SkywalkingAgent.Metrics.Rounds
import SkywalkingAgent.Metrics.Totals
import SkywalkingAgent.Propagation.Agreement
import SkywalkingAgent.Reporter.Accounting
import SkywalkingAgent.Reporter.Stopping
import SkywalkingAgent.Reporter.Streams
import SkywalkingAgent.Reporter.Termination
import SkywalkingAgent.Reporter.Topics
import SkywalkingAgent.Trace.Ancestry
import SkywalkingAgent.Trace.Async
import SkywalkingAgent.Trace.Causality
import SkywalkingAgent.Trace.Closure
import SkywalkingAgent.Trace.Contention
import SkywalkingAgent.Trace.Links
import SkywalkingAgent.Trace.Positions
import SkywalkingAgent.Trace.Refusal
import SkywalkingAgent.Trace.SelfLinks
import SkywalkingAgent.Trace.Serialization
import SkywalkingAgent.Trace.Shape
import SkywalkingAgent.Trace.Snapshots
import SkywalkingAgent.Trace.Timing
import SkywalkingAgent.Trace.TraceIds
