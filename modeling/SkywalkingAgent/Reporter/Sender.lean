import Mathlib.Logic.Function.Basic
import SkywalkingAgent.Reporter.Item
import SkywalkingAgent.Reporter.Pipeline

/-!
# The sender of the gRPC worker

`InnerReportSender` of `reporter/grpc.rs`: the worker sorts the items into three bounded channels,
one for each kind of stream, and makes the management calls itself. A full channel rejects its item,
which goes to `err_handle`.
-/

set_option autoImplicit false

namespace SkywalkingAgent.Reporter

open SkywalkingAgent.Lib SkywalkingAgent.Proto

/-- The kinds of items that are streamed. -/
inductive Kind where
  | trace
  | log
  | meter
  deriving DecidableEq, Repr

/-- What the channel of a kind carries. -/
def Kind.Payload : Kind → Type
  | .trace => SegmentObject
  | .log => LogData
  | .meter => MeterData Rat

/-- The item with a payload. -/
def Kind.item : (k : Kind) → k.Payload → CollectItem
  | .trace, item => .trace item
  | .log, item => .log item
  | .meter, item => .meter item

/-- The payload of an item of a kind. -/
def Kind.payload? : (k : Kind) → CollectItem → Option k.Payload
  | .trace, .trace item => some item
  | .log, .log item => some item
  | .meter, .meter item => some item
  | _, _ => none

theorem Kind.payload?_eq_some_iff {k : Kind} {item : CollectItem} {x : k.Payload} :
    k.payload? item = some x ↔ item = k.item x := by
  constructor
  · intro h
    cases k <;> cases item <;> cases h <;> rfl
  · rintro rfl
    cases k <;> rfl

/-- `mpsc::error::TrySendError`, with the item that comes back. -/
inductive TrySendError where
  | full (item : CollectItem)
  | closed (item : CollectItem)
  deriving DecidableEq, Repr

/-- `InnerReportSender`; the senders are its fields `trace_sender`, `log_sender` and `meter_sender`,
and the logs are the calls of its two handles. -/
structure InnerReportSender (Status : Type) where
  sender : (k : Kind) → Channel k.Payload
  errHandled : List (String × TrySendError)
  statusHandled : List (String × Status)

/-- The capacity of the three channels. -/
def channelCapacity : Nat := 255

namespace InnerReportSender

variable {Status : Type}

/-- The fields that `GrpcReporter::reporting` builds. -/
def new : InnerReportSender Status := ⟨fun _ => .new (some channelCapacity), [], []⟩

/-- The branch of `report` for an item of a kind. -/
def trySend (k : Kind) (message : String) (item : k.Payload) (self : InnerReportSender Status) :
    InnerReportSender Status :=
  match (self.sender k).offer item with
  | .accepted channel => { self with sender := Function.update self.sender k channel }
  | .full => { self with errHandled := self.errHandled ++ [(message, .full (k.item item))] }
  | .closed => { self with errHandled := self.errHandled ++ [(message, .closed (k.item item))] }

/-- The branch of `report` for a management call, with the answer of the server. -/
def manage (message : String) (answer : Except Status Unit) (self : InnerReportSender Status) :
    InnerReportSender Status :=
  match answer with
  | .ok () => self
  | .error status => { self with statusHandled := self.statusHandled ++ [(message, status)] }

/-- `InnerReportSender::report`. -/
def report (answer : Except Status Unit) (item : CollectItem) (self : InnerReportSender Status) :
    InnerReportSender Status :=
  match item with
  | .trace item => self.trySend .trace "report trace segment failed" item
  | .log item => self.trySend .log "report log data failed" item
  | .meter item => self.trySend .meter "report meter data failed" item
  | .instance _ => self.manage "Report instance properties failed" answer
  | .ping _ => self.manage "Ping failed" answer

/-- The senders go with the worker. -/
def drop (self : InnerReportSender Status) : InnerReportSender Status :=
  { self with sender := fun k => (self.sender k).dropSender }

/-- The senders of the three channels as the sink of the worker. -/
def sink : Sink (InnerReportSender Status) CollectItem (Except Status Unit) := ⟨report, drop⟩

/-- The message for a rejected item of a kind. -/
def rejection : Kind → String
  | .trace => "report trace segment failed"
  | .log => "report log data failed"
  | .meter => "report meter data failed"

theorem report_item (answer : Except Status Unit) (k : Kind) (x : k.Payload)
    (self : InnerReportSender Status) :
    self.report answer (k.item x) = self.trySend k (rejection k) x := by
  cases k <;> rfl

theorem trySend_of_room {k : Kind} {message : String} {x : k.Payload}
    {self : InnerReportSender Status} (hreceiving : (self.sender k).receiving = true)
    (hroom : (self.sender k).hasRoom = true) :
    self.trySend k message x = { self with
      sender := Function.update self.sender k
        { self.sender k with buffer := (self.sender k).buffer ++ [x] } } := by
  rw [trySend, Channel.offer, if_pos hreceiving, if_pos hroom]

theorem trySend_of_full {k : Kind} {message : String} {x : k.Payload}
    {self : InnerReportSender Status} (hreceiving : (self.sender k).receiving = true)
    (hroom : (self.sender k).hasRoom = false) :
    self.trySend k message x = { self with
      errHandled := self.errHandled ++ [(message, .full (k.item x))] } := by
  rw [trySend, Channel.offer, if_pos hreceiving, if_neg (by simp [hroom])]

theorem trySend_of_closed {k : Kind} {message : String} {x : k.Payload}
    {self : InnerReportSender Status} (hclosed : (self.sender k).receiving = false) :
    self.trySend k message x = { self with
      errHandled := self.errHandled ++ [(message, .closed (k.item x))] } := by
  rw [trySend, Channel.offer, if_neg (by simp [hclosed])]

/-- An item is of a kind, or goes to the management client. -/
theorem exists_kind_or (Status : Type) (item : CollectItem) :
    (∃ (k : Kind) (x : k.Payload), item = k.item x) ∨
      ∀ (answer : Except Status Unit) (self : InnerReportSender Status),
        (self.report answer item).sender = self.sender ∧
          (self.report answer item).errHandled = self.errHandled := by
  cases item with
  | trace item => exact Or.inl ⟨.trace, item, rfl⟩
  | log item => exact Or.inl ⟨.log, item, rfl⟩
  | meter item => exact Or.inl ⟨.meter, item, rfl⟩
  | «instance» item => exact Or.inr fun answer self => by cases answer <;> exact ⟨rfl, rfl⟩
  | ping item => exact Or.inr fun answer self => by cases answer <;> exact ⟨rfl, rfl⟩

/-- What `report` does to the channel of a kind. -/
theorem sender_report (answer : Except Status Unit) (item : CollectItem)
    (self : InnerReportSender Status) (k : Kind) :
    (self.report answer item).sender k = self.sender k ∨
      ∃ x, item = k.item x ∧ (self.sender k).hasRoom = true ∧ (self.report answer item).sender k =
        { self.sender k with buffer := (self.sender k).buffer ++ [x] } := by
  rcases exists_kind_or Status item with ⟨k', x, rfl⟩ | hnone
  · rw [report_item]
    cases hreceiving : (self.sender k').receiving with
    | false =>
      rw [trySend_of_closed hreceiving]
      exact Or.inl rfl
    | true =>
      cases hroom : (self.sender k').hasRoom with
      | false =>
        rw [trySend_of_full hreceiving hroom]
        exact Or.inl rfl
      | true =>
        rw [trySend_of_room hreceiving hroom]
        -- the other two channels are not touched
        by_cases hk : k = k'
        · subst hk
          exact Or.inr ⟨x, rfl, hroom, Function.update_self _ _ _⟩
        · exact Or.inl (Function.update_of_ne hk _ _)
  · exact Or.inl (congrFun (hnone answer self).1 k)

end InnerReportSender

/-- `ReportSender::start`, with the reporters that feed it. -/
def ReportSender.start {Status : Type} :
    Pipeline (InnerReportSender Status) CollectItem →
      PipelineEvent CollectItem (Except Status Unit) →
      Option (Pipeline (InnerReportSender Status) CollectItem) :=
  Pipeline.step InnerReportSender.sink

end SkywalkingAgent.Reporter
