import SkywalkingAgent.Proto

/-!
# Collect items

`CollectItem` of `reporter/mod.rs`, with the `management` feature on. The metric payloads of queued
items carry exact values.
-/

set_option autoImplicit false

namespace SkywalkingAgent.Reporter

open SkywalkingAgent.Proto

/-- An item on its way to the backend. -/
inductive CollectItem where
  | trace (item : SegmentObject)
  | log (item : LogData)
  | meter (item : MeterData Rat)
  | instance (item : InstanceProperties)
  | ping (item : InstancePingPkg)
  deriving DecidableEq, Repr

/-- The generated `encode_to_vec` of each message. -/
structure Encoders where
  segment : SegmentObject → List UInt8
  log : LogData → List UInt8
  meter : MeterData Rat → List UInt8
  instanceProperties : InstanceProperties → List UInt8
  ping : InstancePingPkg → List UInt8

/-- `CollectItem::encode_to_vec`. -/
def CollectItem.encodeToVec (encoders : Encoders) : CollectItem → List UInt8
  | .trace item => encoders.segment item
  | .log item => encoders.log item
  | .meter item => encoders.meter item
  | .instance item => encoders.instanceProperties item
  | .ping item => encoders.ping item

end SkywalkingAgent.Reporter
