import SkywalkingAgent.Logging.Record
import SkywalkingAgent.Reporter.Item

/-!
# The logger

`Logger` of `logging/logger.rs`.
-/

set_option autoImplicit false

namespace SkywalkingAgent.Logging

open SkywalkingAgent.Common SkywalkingAgent.Reporter

/-- `Logger`, without its reporter. -/
structure Logger where
  serviceName : String
  instanceName : String
  deriving DecidableEq, Repr

/-- `Logger::log`: what is passed to the reporter. -/
def Logger.log (clock : Clock) (self : Logger) (record : LogRecord) : CollectItem :=
  .log (record.convertToLogData clock self.serviceName self.instanceName)

end SkywalkingAgent.Logging
