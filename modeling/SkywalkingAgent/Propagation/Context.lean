/-!
# Propagation context

`PropagationContext` of `trace/propagation/context.rs`: what a decoded `sw8` header says.
-/

set_option autoImplicit false

namespace SkywalkingAgent.Propagation

/-- `PropagationContext`. -/
structure PropagationContext where
  doSample : Bool
  parentTraceId : String
  parentTraceSegmentId : String
  parentSpanId : Int
  parentService : String
  parentServiceInstance : String
  destinationEndpoint : String
  destinationAddress : String
  deriving DecidableEq, Repr

end SkywalkingAgent.Propagation
