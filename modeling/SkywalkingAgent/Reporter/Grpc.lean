import SkywalkingAgent.Reporter.Closing

/-!
# The tasks of the gRPC reporter

`Reporting::spawn` of `reporter/grpc.rs` starts four tasks: the worker, and for each kind of stream
a task that reads the channel of the kind through the streams of a `ReceiveFrom` and passes them to
the client's `collect`. The join handle is ready when all four have ended. A `Line` is what belongs
to one kind: its channel, its task, and whether the worker still holds the sender; all three lines
obey the same rules.
-/

set_option autoImplicit false

namespace SkywalkingAgent.Reporter

open SkywalkingAgent.Lib SkywalkingAgent.Proto

/-! ## A receive reporter -/

/-- Where a receive reporter stands. -/
inductive ReceiveTask (α : Type) where
  /-- At the head of its loop, before `rf.stream()`. -/
  | idle
  /-- In `collect`, with what the stream has yielded and whether it has ended. -/
  | collecting (yielded : List α) (ended : Bool)
  /-- `start` has returned `Ok`. -/
  | returned
  deriving DecidableEq, Repr

/-- `TraceReceiveReporter`, `LogReceiveReporter` or `MeterReceiveReporter`, with its `ReceiveFrom`;
the receiver is the channel's end. -/
structure ReceiveReporter (α : Type) where
  isClosed : Bool
  /-- What the earlier streams have yielded. -/
  finished : List (List α)
  task : ReceiveTask α
  deriving DecidableEq, Repr

/-- The steps of a receive reporter. -/
inductive ReceiveEvent where
  /-- `rf.stream()` and the test of its result. -/
  | stream
  /-- The client polls the stream. -/
  | poll
  /-- Thirty seconds have passed without an item. -/
  | timeout
  /-- `collect` returns, with or without an error, and drops the stream. -/
  | collected
  deriving DecidableEq, Repr

namespace ReceiveReporter

variable {α : Type}

/-- The task before its first stream. -/
def new : ReceiveReporter α := ⟨false, [], .idle⟩

/-- What the current stream has yielded. -/
def current (self : ReceiveReporter α) : List α :=
  match self.task with
  | .collecting yielded _ => yielded
  | _ => []

/-- What all streams have yielded. -/
def yielded (self : ReceiveReporter α) : List α := self.finished.flatten ++ self.current

/-- The task has returned. -/
def isReturned (self : ReceiveReporter α) : Bool :=
  match self.task with
  | .returned => true
  | _ => false

/-- One step of `start`, on the channel of its kind. -/
def step (channel : Channel α) (self : ReceiveReporter α) (e : ReceiveEvent) :
    Option (ReceiveReporter α × Channel α) :=
  match e, self.task with
  | .stream, .idle =>
      if self.isClosed then some ({ self with task := .returned }, channel.dropReceiver)
      else some ({ self with task := .collecting [] false }, channel)
  | .poll, .collecting yielded false =>
      match channel.take with
      | .item item rest => some ({ self with task := .collecting (yielded ++ [item]) false }, rest)
      | .empty => none
      | .disconnected =>
          some ({ self with isClosed := true, task := .collecting yielded true }, channel)
  | .timeout, .collecting yielded false =>
      match channel.take with
      | .empty => some ({ self with task := .collecting yielded true }, channel)
      | _ => none
  | .collected, .collecting yielded _ =>
      some ({ self with finished := self.finished ++ [yielded], task := .idle }, channel)
  | _, _ => none

end ReceiveReporter

/-! ## The line of a kind -/

/-- What an item of a kind passes on its way to the client. -/
structure Line (α : Type) where
  channel : Channel α
  receiver : ReceiveReporter α
  /-- Whether the worker has dropped the sender. -/
  abandoned : Bool

namespace Line

variable {α : Type} {l l' : Line α}

/-- What can happen to a line. -/
inductive Step (l : Line α) : Line α → Prop where
  | keep : Step l l
  | accept (item : α) (room : l.channel.hasRoom = true) (held : l.abandoned = false) :
      Step l { l with channel := { l.channel with buffer := l.channel.buffer ++ [item] } }
  | abandon (held : l.abandoned = false) :
      Step l { l with channel := l.channel.dropSender, abandoned := true }
  | receive (e : ReceiveEvent) (receiver : ReceiveReporter α) (channel : Channel α)
      (step : l.receiver.step l.channel e = some (receiver, channel)) :
      Step l { l with receiver := receiver, channel := channel }

/-- What has come through, and what is still in the channel. -/
def flow (l : Line α) : List α := l.receiver.yielded ++ l.channel.buffer

/-- The receiver has seen the end of the channel only when the worker is gone and the channel is
drained; it is there until then. -/
structure Sound (n : Nat) (l : Line α) : Prop where
  capacity : l.channel.capacity = some n
  room : l.channel.buffer.length ≤ n
  senders : l.channel.senders = if l.abandoned then 0 else 1
  closed : l.receiver.isClosed = true → l.abandoned = true ∧ l.channel.buffer = []
  receiving : l.channel.receiving = !l.receiver.isReturned
  returned : l.receiver.isReturned = true → l.receiver.isClosed = true

theorem sound_new (n : Nat) : Sound n (⟨.new (some n), .new, false⟩ : Line α) where
  capacity := rfl
  room := Nat.zero_le _
  senders := rfl
  closed h := by cases h
  receiving := rfl
  returned h := by cases h

/-- What a step of a receive reporter does: it yields the first item of its channel, or none. -/
inductive Received (l : Line α) : ReceiveReporter α → Channel α → Prop where
  | yielded (item : α) (rest : List α) (receiver : ReceiveReporter α)
      (buffer : l.channel.buffer = item :: rest) (closed : receiver.isClosed = l.receiver.isClosed)
      (before : l.receiver.isReturned = false) (after : receiver.isReturned = false)
      (yielded : receiver.yielded = l.receiver.yielded ++ [item]) :
      Received l receiver { l.channel with buffer := rest }
  | same (receiver : ReceiveReporter α)
      (closed : receiver.isClosed = true →
        l.receiver.isClosed = true ∨ (l.channel.buffer = [] ∧ l.channel.senders = 0))
      (before : l.receiver.isReturned = false) (after : receiver.isReturned = false)
      (yielded : receiver.yielded = l.receiver.yielded) : Received l receiver l.channel
  | returned (closed : l.receiver.isClosed = true) (receiver : ReceiveReporter α)
      (after : receiver.isReturned = true) (closed' : receiver.isClosed = true)
      (yielded : receiver.yielded = l.receiver.yielded) :
      Received l receiver l.channel.dropReceiver

theorem received_of_step {e : ReceiveEvent} {receiver : ReceiveReporter α} {channel : Channel α}
    (h : l.receiver.step l.channel e = some (receiver, channel)) : Received l receiver channel := by
  unfold ReceiveReporter.step at h
  split at h
  · next htask =>
    split at h
    · next hclosed =>
      obtain ⟨rfl, rfl⟩ := Prod.mk.inj (Option.some.inj h)
      exact .returned hclosed _ rfl hclosed
        (by simp [ReceiveReporter.yielded, ReceiveReporter.current, htask])
    · next hclosed =>
      obtain ⟨rfl, rfl⟩ := Prod.mk.inj (Option.some.inj h)
      exact .same _ Or.inl (by simp [ReceiveReporter.isReturned, htask]) rfl
        (by simp [ReceiveReporter.yielded, ReceiveReporter.current, htask])
  · next yielded htask =>
    split at h
    · next item rest htake =>
      obtain ⟨buffer, hbuffer, rfl⟩ := Channel.take_eq_item_iff.1 htake
      obtain ⟨rfl, rfl⟩ := Prod.mk.inj (Option.some.inj h)
      exact .yielded item buffer _ hbuffer rfl (by simp [ReceiveReporter.isReturned, htask]) rfl
        (by simp [ReceiveReporter.yielded, ReceiveReporter.current, htask])
    · cases h
    · next htake =>
      obtain ⟨rfl, rfl⟩ := Prod.mk.inj (Option.some.inj h)
      exact .same _ (fun _ => Or.inr (Channel.take_eq_disconnected_iff.1 htake))
        (by simp [ReceiveReporter.isReturned, htask]) rfl
        (by simp [ReceiveReporter.yielded, ReceiveReporter.current, htask])
  · next yielded htask =>
    split at h
    · obtain ⟨rfl, rfl⟩ := Prod.mk.inj (Option.some.inj h)
      exact .same _ Or.inl (by simp [ReceiveReporter.isReturned, htask]) rfl
        (by simp [ReceiveReporter.yielded, ReceiveReporter.current, htask])
    · cases h
  · next yielded ended htask =>
    obtain ⟨rfl, rfl⟩ := Prod.mk.inj (Option.some.inj h)
    exact .same _ Or.inl (by simp [ReceiveReporter.isReturned, htask]) rfl
      (by simp [ReceiveReporter.yielded, ReceiveReporter.current, htask])
  · cases h

theorem Sound.hasRoom_iff {n : Nat} (hl : l.Sound n) :
    l.channel.hasRoom = true ↔ l.channel.buffer.length < n := by
  simp [Channel.hasRoom, hl.capacity]

/-- A step of the receiver. The flag is set on a channel that is empty and has lost its sender, and
neither changes any more. -/
theorem Sound.received {n : Nat} (hl : l.Sound n) {receiver : ReceiveReporter α}
    {channel : Channel α} (h : Received l receiver channel) :
    Sound n { l with receiver := receiver, channel := channel } := by
  cases h with
  | yielded item rest receiver hbuffer hclosed hbefore hafter =>
    -- there was an item, so the end has not been seen
    have hopen : receiver.isClosed = true → False := by
      intro h
      rw [hclosed] at h
      have hempty := (hl.closed h).2
      rw [hbuffer] at hempty
      cases hempty
    have hroom := hl.room
    rw [hbuffer, List.length_cons] at hroom
    exact { capacity := hl.capacity
            room := Nat.le_of_succ_le hroom
            senders := hl.senders
            closed := fun h => absurd h hopen
            receiving := by rw [hafter, ← hbefore]; exact hl.receiving
            returned := fun h => by rw [hafter] at h; cases h }
  | same receiver hclosed hbefore hafter =>
    refine { capacity := hl.capacity
             room := hl.room
             senders := hl.senders
             closed := fun h => ?_
             receiving := by rw [hafter, ← hbefore]; exact hl.receiving
             returned := fun h => by rw [hafter] at h; cases h }
    rcases hclosed h with hbefore | ⟨hbuffer, hsenders⟩
    · exact hl.closed hbefore
    -- the poll saw the end: the one sender of the channel is gone
    · refine ⟨?_, hbuffer⟩
      have hcount := hl.senders
      rw [hsenders] at hcount
      cases habandoned : l.abandoned with
      | true => rfl
      | false =>
        rw [habandoned] at hcount
        cases hcount
  | returned hclosed receiver hafter hclosed' =>
    exact { capacity := hl.capacity
            room := Nat.zero_le _
            senders := hl.senders
            closed := fun _ => ⟨(hl.closed hclosed).1, rfl⟩
            receiving := by rw [hafter]; rfl
            returned := fun _ => hclosed' }

theorem Sound.step {n : Nat} (hl : l.Sound n) (h : l.Step l') : l'.Sound n := by
  cases h with
  | keep => exact hl
  | accept item hroom hheld =>
    have hlt := hl.hasRoom_iff.1 hroom
    refine { hl with room := ?_, closed := fun hclosed => ?_ }
    · rw [List.length_append, List.length_singleton]
      omega
    -- the worker is there, so the flag is not set
    · have habandoned := (hl.closed hclosed).1
      rw [hheld] at habandoned
      cases habandoned
  | abandon hheld =>
    have hone := hl.senders
    rw [hheld] at hone
    refine { hl with senders := ?_, closed := fun hclosed => ⟨rfl, (hl.closed hclosed).2⟩ }
    simp [Channel.dropSender, hone]
  | receive e receiver channel hstep => exact hl.received (received_of_step hstep)

/-- Nothing is lost on a line, and nothing overtakes. -/
theorem Sound.flow_grows {n : Nat} (hl : l.Sound n) (h : l.Step l') : l.flow <+: l'.flow := by
  cases h with
  | keep => exact List.prefix_rfl
  | accept item =>
    show l.flow <+: l.receiver.yielded ++ (l.channel.buffer ++ [item])
    rw [← List.append_assoc]
    exact List.prefix_append _ _
  | abandon => exact List.prefix_rfl
  | receive e receiver channel hstep =>
    cases received_of_step hstep with
    | yielded item rest receiver hbuffer _ _ _ hyielded =>
      simp [flow, hbuffer, hyielded]
    | same receiver _ _ _ hyielded =>
      simp [flow, hyielded]
    | returned hclosed receiver _ _ hyielded =>
      simp [flow, hyielded, Channel.dropReceiver, (hl.closed hclosed).2]

/-- A task that has returned has passed on everything. -/
theorem Sound.flow_of_returned {n : Nat} (hl : l.Sound n) (h : l.receiver.isReturned = true) :
    l.flow = l.receiver.yielded := by
  rw [flow, (hl.closed (hl.returned h)).2, List.append_nil]

/-- The worker finds the receiver there. -/
theorem Sound.receiving_of_held {n : Nat} (hl : l.Sound n) (h : l.abandoned = false) :
    l.channel.receiving = true := by
  rw [hl.receiving]
  cases hreturned : l.receiver.isReturned with
  | false => rfl
  | true =>
    have habandoned := (hl.closed (hl.returned hreturned)).1
    rw [h] at habandoned
    cases habandoned

end Line

/-! ## The four tasks -/

/-- What `GrpcReporter::reporting` builds, spawned, with the reporters that feed it. -/
structure Reporting (Status : Type) where
  pipeline : Pipeline (InnerReportSender Status) CollectItem
  receiver : (k : Kind) → ReceiveReporter k.Payload

/-- The steps of the pipeline, and those of the receive reporter of each kind. -/
inductive ReportingEvent (Status : Type) where
  | pipeline (e : PipelineEvent CollectItem (Except Status Unit))
  | receive (k : Kind) (e : ReceiveEvent)

namespace Reporting

variable {Status : Type}

/-- The reporter just spawned. -/
def new (capacity : Option Nat) : Reporting Status := ⟨.new capacity .new, fun _ => .new⟩

/-- The channel of a kind. -/
def channel (self : Reporting Status) (k : Kind) : Channel k.Payload :=
  self.pipeline.worker.sink.sender k

/-- The channel of a kind is changed; its sender is in the sink of the worker. -/
def setChannel (self : Reporting Status) (k : Kind) (channel : Channel k.Payload) :
    Reporting Status :=
  let worker := self.pipeline.worker
  let sink := { worker.sink with sender := Function.update worker.sink.sender k channel }
  { self with pipeline := { self.pipeline with worker := { worker with sink := sink } } }

/-- The receive reporter of a kind is changed. -/
def setReceiver (self : Reporting Status) (k : Kind) (receiver : ReceiveReporter k.Payload) :
    Reporting Status :=
  { self with receiver := Function.update self.receiver k receiver }

/-- One step of one of the tasks or of a reporter. -/
def step (self : Reporting Status) (e : ReportingEvent Status) : Option (Reporting Status) :=
  match e with
  | .pipeline e => (ReportSender.start self.pipeline e).map fun pipeline =>
      { self with pipeline := pipeline }
  | .receive k e => ((self.receiver k).step (self.channel k) e).map fun next =>
      (self.setReceiver k next.1).setChannel k next.2

/-- The run of a list of steps. -/
abbrev run : Reporting Status → List (ReportingEvent Status) → Option (Reporting Status) :=
  Execution.run step

/-- `ReportingJoinHandle`: the result of the worker, when all tasks have ended; those of the receive
reporters are always `Ok`. -/
def joined (self : Reporting Status) : Option (Except (Error TryRecvError) Unit) :=
  if (self.receiver .trace).isReturned && (self.receiver .log).isReturned &&
      (self.receiver .meter).isReturned then
    self.pipeline.worker.result
  else none

/-- The line of a kind. -/
def line (self : Reporting Status) (k : Kind) : Line k.Payload :=
  ⟨self.channel k, self.receiver k, self.pipeline.worker.work.isDropped⟩

variable {s s' : Reporting Status} {e : ReportingEvent Status}
  {es : List (ReportingEvent Status)}

/-- A step of the pipeline that leaves the sender of the kind and the worker where they are. -/
theorem line_keep (k : Kind) {p : Pipeline (InnerReportSender Status) CollectItem}
    (hsender : p.worker.sink.sender k = s.channel k)
    (hdropped : p.worker.work.isDropped = s.pipeline.worker.work.isDropped) :
    (s.line k).Step (line { s with pipeline := p } k) := by
  have hline : line { s with pipeline := p } k = s.line k := by
    simp [line, Reporting.channel, hsender, hdropped]
  rw [hline]
  exact .keep

/-- The worker holds its senders while it reports. -/
theorem not_abandoned {loop : Loop} {item : CollectItem}
    (hwork : s.pipeline.worker.work = .received loop item) (k : Kind) :
    (s.line k).abandoned = false := by
  show s.pipeline.worker.work.isDropped = false
  rw [hwork]
  rfl

/-- The worker passes an item to the sink: its own line may take it, the others stay. -/
theorem line_report (k : Kind) {answer : Except Status Unit} {loop : Loop} {item : CollectItem}
    (hwork : s.pipeline.worker.work = .received loop item) :
    (s.line k).Step (line { s with pipeline := { s.pipeline with
      worker := { s.pipeline.worker with
        work := .reporting loop
        sink := s.pipeline.worker.sink.report answer item
        handed := s.pipeline.worker.handed ++ [item] } } } k) := by
  have hheld := not_abandoned hwork k
  rcases InnerReportSender.sender_report answer item s.pipeline.worker.sink k with
    hsame | ⟨x, rfl, hroom, haccept⟩
  · exact line_keep k hsame (by rw [hwork]; rfl)
  · have hline : line { s with pipeline := { s.pipeline with
        worker := { s.pipeline.worker with
          work := .reporting loop
          sink := s.pipeline.worker.sink.report answer (k.item x)
          handed := s.pipeline.worker.handed ++ [k.item x] } } } k =
        { s.line k with
          channel := { s.channel k with buffer := (s.channel k).buffer ++ [x] } } := by
      simp [line, Reporting.channel, haccept, hwork, WorkFut.isDropped]
    rw [hline]
    exact .accept x hroom hheld

/-- The tasks interleave, and on the line of each kind that is one of its steps. -/
theorem step_line (k : Kind) (h : s.step e = some s') : (s.line k).Step (s'.line k) := by
  cases e with
  | receive k' e =>
    obtain ⟨⟨receiver, channel⟩, hstep, rfl⟩ := Option.map_eq_some_iff.1 h
    -- a step of the receiver of one kind
    by_cases hk : k = k'
    · subst hk
      have hline : ((s.setReceiver k receiver).setChannel k channel).line k =
          { s.line k with receiver := receiver, channel := channel } := by
        simp [line, setReceiver, setChannel, Reporting.channel]
      rw [hline]
      exact .receive e receiver channel hstep
    · have hline : ((s.setReceiver k' receiver).setChannel k' channel).line k = s.line k := by
        simp [line, setReceiver, setChannel, Reporting.channel, Function.update_of_ne hk]
      rw [hline]
      exact .keep
  | pipeline e =>
    obtain ⟨p, hp, rfl⟩ := Option.map_eq_some_iff.1 h
    cases Pipeline.step_effect hp with
    | cloneReporter => exact line_keep k rfl rfl
    | dropReporter => exact line_keep k rfl rfl
    | report item => exact line_keep k rfl rfl
    | accepted => exact line_keep k rfl rfl
    | failed => exact line_keep k rfl rfl
    | panicked => exact line_keep k rfl rfl
    | took loop hwork => exact line_keep k rfl (by rw [hwork]; rfl)
    | foundEmpty hwork => exact line_keep k rfl (by rw [hwork]; rfl)
    | ended hwork => exact line_keep k rfl (by rw [hwork]; rfl)
    | disconnected hwork => exact line_keep k rfl (by rw [hwork]; rfl)
    | worker e w hown hstay =>
      have hdropped := hown.isDropped hstay
      cases hown with
      | report answer loop item hwork => exact line_report k hwork
      | dropLocals => exact absurd rfl hstay
      | _ => exact line_keep k rfl hdropped
    | dropLocals w hown =>
      cases hown with
      | dropLocals result hwork =>
        have hheld : (s.line k).abandoned = false := by
          show s.pipeline.worker.work.isDropped = false
          rw [hwork]
          rfl
        exact .abandon hheld

/-- Every line is sound. -/
theorem step_sound (hs : ∀ k, (s.line k).Sound channelCapacity) (h : s.step e = some s') :
    ∀ k, (s'.line k).Sound channelCapacity :=
  fun k => (hs k).step (step_line k h)

theorem run_sound (hs : ∀ k, (s.line k).Sound channelCapacity) (hrun : run s es = some s') :
    ∀ k, (s'.line k).Sound channelCapacity :=
  Execution.run_invariant (I := fun t => ∀ k, (t.line k).Sound channelCapacity) hs
    (fun _ _ _ h hstep => step_sound h hstep) hrun

theorem sound_new (capacity : Option Nat) (k : Kind) :
    ((new capacity : Reporting Status).line k).Sound channelCapacity :=
  Line.sound_new channelCapacity

/-- What is on a line comes through in order. -/
theorem run_flow (hs : ∀ k, (s.line k).Sound channelCapacity) (hrun : run s es = some s')
    (k : Kind) : (s.line k).flow <+: (s'.line k).flow :=
  (Execution.run_invariant
    (I := fun t => (∀ k, (t.line k).Sound channelCapacity) ∧ (s.line k).flow <+: (t.line k).flow)
    ⟨hs, List.prefix_rfl⟩
    (fun _ _ _ h hstep =>
      ⟨step_sound h.1 hstep, h.2.trans ((h.1 k).flow_grows (step_line k hstep))⟩) hrun).2

/-! ## The worker among the tasks -/

/-- The steps of the reporters and of the worker. -/
def pipelineEvents (es : List (ReportingEvent Status)) :
    List (PipelineEvent CollectItem (Except Status Unit)) :=
  es.filterMap fun e =>
    match e with
    | .pipeline e => some e
    | .receive _ _ => none

/-- But for the sink, the receive reporters leave the pipeline alone. -/
theorem run_forget (hrun : run s es = some s') :
    Pipeline.run Worker.noSink s.pipeline.forget (pipelineEvents es) = some s'.pipeline.forget := by
  have hsim : ∃ p, Pipeline.run Worker.noSink s.pipeline.forget (pipelineEvents es) = some p ∧
      p = s'.pipeline.forget := by
    unfold pipelineEvents
    refine Execution.run_simulation (R := fun (s : Reporting Status) p => p = s.pipeline.forget)
      _ ?_ rfl hrun
    rintro e - s s' p rfl hstep
    cases e with
    | pipeline e =>
      obtain ⟨p, hp, rfl⟩ := Option.map_eq_some_iff.1 hstep
      exact ⟨_, Execution.run_cons_iff.2 ⟨_, Pipeline.step_forget hp, rfl⟩, rfl⟩
    | receive k e =>
      -- a step of the sink alone
      obtain ⟨next, -, rfl⟩ := Option.map_eq_some_iff.1 hstep
      exact ⟨_, rfl, rfl⟩
  obtain ⟨p, hp, rfl⟩ := hsim
  exact hp

/-- A step passes an item to the sink, or lets no buffer grow. -/
theorem step_report_or (h : s.step e = some s') :
    (∃ answer loop item, e = .pipeline (.worker (.report answer)) ∧
      s.pipeline.worker.work = .received loop item ∧
      s'.pipeline.worker.handed = s.pipeline.worker.handed ++ [item] ∧
      s'.pipeline.worker.sink = s.pipeline.worker.sink.report answer item ∧
      s'.receiver = s.receiver) ∨
    (s'.pipeline.worker.handed = s.pipeline.worker.handed ∧
      (∀ k, (s'.channel k).buffer.length ≤ (s.channel k).buffer.length) ∧
      s'.pipeline.worker.sink.errHandled = s.pipeline.worker.sink.errHandled ∧
      ∀ answer, e ≠ .pipeline (.worker (.report answer))) := by
  cases e with
  | receive k' e =>
    obtain ⟨⟨receiver, channel⟩, hstep, rfl⟩ := Option.map_eq_some_iff.1 h
    refine Or.inr ⟨rfl, fun k => ?_, rfl, nofun⟩
    have hle : channel.buffer.length ≤ (s.channel k').buffer.length := by
      cases Line.received_of_step (l := s.line k') hstep with
      | yielded item rest _ hbuffer =>
        have hbuffer : (s.channel k').buffer = item :: rest := hbuffer
        rw [hbuffer]
        exact Nat.le_succ _
      | same => exact Nat.le_refl _
      | returned => exact Nat.zero_le _
    by_cases hk : k = k'
    · subst hk
      simpa [setReceiver, setChannel, Reporting.channel] using hle
    · simp [setReceiver, setChannel, Reporting.channel, Function.update_of_ne hk]
  | pipeline e =>
    obtain ⟨p, hp, rfl⟩ := Option.map_eq_some_iff.1 h
    cases Pipeline.step_effect hp with
    | worker e w hown hstay =>
      cases hown with
      | report answer loop item hwork =>
        exact Or.inl ⟨answer, loop, item, rfl, hwork, rfl, rfl, rfl⟩
      | dropLocals => exact absurd rfl hstay
      | _ => exact Or.inr ⟨rfl, fun k => Nat.le_refl _, rfl, nofun⟩
    | dropLocals w hown =>
      cases hown
      exact Or.inr ⟨rfl, fun k => Nat.le_refl _, rfl, nofun⟩
    | _ => exact Or.inr ⟨rfl, fun k => Nat.le_refl _, rfl, nofun⟩

/-! ## The flush -/

/-- The payloads of a kind among the items. -/
def payloads (k : Kind) (items : List CollectItem) : List k.Payload := items.filterMap k.payload?

theorem payloads_cons_item (k : Kind) (x : k.Payload) (items : List CollectItem) :
    payloads k (k.item x :: items) = x :: payloads k items := by
  simp [payloads, Kind.payload?_eq_some_iff.2 rfl]

theorem length_payloads_le_cons (k : Kind) (item : CollectItem) (items : List CollectItem) :
    (payloads k items).length ≤ (payloads k (item :: items)).length := by
  unfold payloads
  cases hitem : k.payload? item with
  | none => simp [hitem]
  | some x => simp [hitem]

/-- The channel of the kind has room for what of the queued items is still to come. -/
def Fits (k : Kind) (queued : List CollectItem) (s : Reporting Status) : Prop :=
  (s.channel k).buffer.length +
    (payloads k (queued.drop s.pipeline.worker.handed.length)).length ≤ channelCapacity

theorem step_fits {k : Kind} {queued : List CollectItem}
    (hs : ∀ k, (s.line k).Sound channelCapacity) (hfits : Fits k queued s)
    (hnext : ∀ loop item, s.pipeline.worker.work = .received loop item →
      s.pipeline.worker.handed.length < queued.length →
        queued[s.pipeline.worker.handed.length]? = some item)
    (h : s.step e = some s') : Fits k queued s' := by
  unfold Fits at hfits ⊢
  rcases step_report_or h with
    ⟨answer, loop, item, -, hwork, hhanded, hsink, -⟩ | ⟨hhanded, hle, -, -⟩
  · rw [hhanded, List.length_append, List.length_singleton]
    by_cases hlt : s.pipeline.worker.handed.length < queued.length
    · -- the item leaves the queued ones, and at most it enters its channel
      rw [List.drop_eq_getElem_cons hlt,
        (List.getElem_eq_iff hlt).2 (hnext loop item hwork hlt)] at hfits
      have hsender : s'.channel k = (s.pipeline.worker.sink.report answer item).sender k := by
        rw [← hsink]
        rfl
      have hmono := length_payloads_le_cons k item
        (queued.drop (s.pipeline.worker.handed.length + 1))
      rcases InnerReportSender.sender_report answer item s.pipeline.worker.sink k with
        hsame | ⟨x, rfl, -, haccept⟩
      · have hchannel : s'.channel k = s.channel k := hsender.trans hsame
        rw [hchannel]
        omega
      · rw [payloads_cons_item, List.length_cons] at hfits
        have hlen : (s'.channel k).buffer.length = (s.channel k).buffer.length + 1 := by
          rw [hsender, haccept]
          exact List.length_append
        omega
    -- nothing of the queue is to come, and the capacity bounds the buffer
    · have hroom : (s'.channel k).buffer.length ≤ channelCapacity := (step_sound hs h k).room
      rw [List.drop_eq_nil_of_le (by omega)]
      simpa [payloads] using hroom
  · have hlek := hle k
    rw [hhanded]
    omega

theorem run_fits {k : Kind} {queued : List CollectItem} (hs : ∀ k, (s.line k).Sound channelCapacity)
    (hconserved : s.pipeline.forget.Conserved) (hqueued : queued <+: s.pipeline.enqueued)
    (hfits : Fits k queued s) (hrun : run s es = some s') : Fits k queued s' := by
  refine (Execution.run_invariant (I := fun t => (∀ k, (t.line k).Sound channelCapacity) ∧
    t.pipeline.forget.Conserved ∧ queued <+: t.pipeline.enqueued ∧ Fits k queued t)
    ⟨hs, hconserved, hqueued, hfits⟩ ?_ hrun).2.2.2
  rintro a b e ⟨ha, hcons, hprefixed, hfit⟩ hstep
  have hforget := run_forget (Execution.run_cons_iff.2 ⟨b, hstep, Execution.run_nil b⟩)
  have hgrow := Pipeline.enqueued_prefix_run hforget
  refine ⟨step_sound ha hstep, Pipeline.run_conserved hcons hforget, hprefixed.trans hgrow,
    step_fits ha hfit ?_ hstep⟩
  intro loop item hwork hlt
  -- the item in hand is the next of the queue, as long as it is one of them
  obtain ⟨rest, hrest⟩ := hprefixed
  have hitem : a.pipeline.enqueued[a.pipeline.worker.handed.length]? = some item :=
    hcons.getElem?_received hwork
  rw [← hrest, List.getElem?_append_left hlt] at hitem
  exact hitem

/-- The calls of `err_handle` by the worker. -/
def errHandled (self : Reporting Status) : List (String × TrySendError) :=
  self.pipeline.worker.sink.errHandled

/-- Between `a` and `b` the item has entered its channel; by `s` a stream of its kind has yielded
it, after all that was before it on its line. -/
def Delivered (a b s : Reporting Status) (k : Kind) (x : k.Payload) : Prop :=
  b.errHandled = a.errHandled ∧
    (a.receiver k).yielded ++ (a.channel k).buffer ++ [x] <+: (s.receiver k).yielded

/-- Between `a` and `b` the item has been given back with one call of `err_handle`. -/
def Rejected (a b : Reporting Status) (k : Kind) (x : k.Payload) : Prop :=
  b.errHandled = a.errHandled ++ [(InnerReportSender.rejection k, .full (k.item x))] ∧
    b.channel k = a.channel k

/-- All tasks have returned. -/
theorem joined_eq_ok {r : Except (Error TryRecvError) Unit} (h : s.joined = some r) :
    s.pipeline.worker.result = some r ∧ ∀ k, (s.receiver k).isReturned = true := by
  unfold joined at h
  split at h
  · next hall =>
    simp only [Bool.and_eq_true] at hall
    refine ⟨h, fun k => ?_⟩
    cases k with
    | trace => exact hall.1.1
    | log => exact hall.1.2
    | meter => exact hall.2
  · cases h

/-- The call of the sink for an item of a kind, by the room in its channel. -/
theorem delivered_or_rejected {a b s : Reporting Status} {answer : Except Status Unit} {k : Kind}
    {x : k.Payload} (ha : ∀ k, (a.line k).Sound channelCapacity)
    (hheld : (a.line k).abandoned = false) (hb : ∀ k, (b.line k).Sound channelCapacity)
    (hsink : b.pipeline.worker.sink = a.pipeline.worker.sink.report answer (k.item x))
    (hreceiver : b.receiver = a.receiver)
    (hrun : run b es = some s) (hreturned : (s.receiver k).isReturned = true) :
    if (a.channel k).buffer.length < channelCapacity then Delivered a b s k x
    else Rejected a b k x := by
  have hreceiving := (ha k).receiving_of_held hheld
  have hroom := (ha k).hasRoom_iff
  rw [InnerReportSender.report_item] at hsink
  split
  · next hlt =>
    rw [InnerReportSender.trySend_of_room hreceiving (hroom.2 hlt)] at hsink
    refine ⟨by rw [errHandled, hsink]; rfl, ?_⟩
    have hflow : (b.line k).flow =
        (a.receiver k).yielded ++ (a.channel k).buffer ++ [x] := by
      simp [Line.flow, line, Reporting.channel, hsink, hreceiver]
    rw [← hflow]
    have hrest := run_flow hb hrun k
    rw [(run_sound hb hrun k).flow_of_returned hreturned] at hrest
    exact hrest
  · next hlt =>
    have hfull : (a.channel k).hasRoom = false := by
      rw [← Bool.not_eq_true]
      exact fun h => hlt (hroom.1 h)
    rw [InnerReportSender.trySend_of_full hreceiving hfull] at hsink
    exact ⟨by rw [errHandled, hsink]; rfl, by rw [Reporting.channel, hsink]; rfl⟩

/-- What the worker has when it sets the flag: everything that entered the channel is in the queue
or handed over, and setting the flag changes none of it. -/
theorem at_storeClosing {capacity : Option Nat} {pre : List (ReportingEvent Status)}
    (hpre : run (new capacity) pre = some s) {p : Pipeline (InnerReportSender Status) CollectItem}
    (hp : ReportSender.start s.pipeline (.worker .storeClosing) = some p) :
    s.pipeline.enqueued = s.pipeline.worker.handed ++ s.pipeline.queue.buffer ∧
      p.worker.handed = s.pipeline.worker.handed ∧ p.worker.sink = s.pipeline.worker.sink ∧
      p.enqueued = s.pipeline.enqueued := by
  cases Pipeline.step_effect hp with
  | worker e w hown =>
    cases hown with
    | storeClosing hclosing =>
      have hconserved := Pipeline.run_conserved (Pipeline.conserved_new capacity ())
        (run_forget hpre)
      have halive : s.pipeline.queue.receiving = true := by
        rw [show s.pipeline.queue.receiving = !s.pipeline.worker.work.isDropped from
          hconserved.receiving, hclosing]
        rfl
      -- between two reports the worker has nothing in hand
      have htaken : s.pipeline.forget.worker.taken = s.pipeline.worker.handed := by
        simp [Worker.taken, Worker.inHand, Pipeline.forget, Worker.forget, hclosing]
      refine ⟨?_, rfl, rfl, rfl⟩
      rw [← htaken]
      exact hconserved.queued halive

/-- Two prefixes of one list, where one ends inside the other. -/
theorem eq_append_take_of_prefix {α : Type} {l₁ l₂ l taken : List α} {n : Nat}
    (hl : l₁ ++ l₂ <+: l) (htaken : taken <+: l) (hlen : taken.length = l₁.length + n)
    (hn : n ≤ l₂.length) : taken = l₁ ++ l₂.take n := by
  have htake : l₁ ++ l₂.take n <+: l :=
    ((List.prefix_append_right_inj _).2 (List.take_prefix _ _)).trans hl
  have hlen' : (l₁ ++ l₂.take n).length = taken.length := by
    rw [hlen, List.length_append, List.length_take, Nat.min_eq_left hn]
  exact (List.prefix_of_prefix_length_le htaken htake (Nat.le_of_eq hlen'.symm)).eq_of_length
    hlen'.symm

/-- When the join handle resolves to `Ok`, every item that was in the queue when `is_closing` was
set has been passed to the sink by the flush, in order. An item of a kind entered its channel and
was yielded by a stream of its kind exactly when the channel had room at that moment; else it was
rejected with one call of `err_handle`. If the items of the kind in its channel and in the queue
were no more than the capacity when `is_closing` was set, there was room. -/
theorem flush_delivers_iff_room {capacity : Option Nat} {pre post : List (ReportingEvent Status)}
    {s₁ s : Reporting Status}
    (hrun : run (new capacity) (pre ++ .pipeline (.worker .storeClosing) :: post) = some s)
    (hpre : run (new capacity) pre = some s₁) (hjoin : s.joined = some (.ok ())) {i : Nat}
    {item : CollectItem} (hitem : s₁.pipeline.queue.buffer[i]? = some item) :
    ∃ mid answer rest a b, post = mid ++ .pipeline (.worker (.report answer)) :: rest ∧
      run (new capacity) (pre ++ .pipeline (.worker .storeClosing) :: mid) = some a ∧
      a.step (.pipeline (.worker (.report answer))) = some b ∧
      b.pipeline.worker.handed =
        s₁.pipeline.worker.handed ++ s₁.pipeline.queue.buffer.take (i + 1) ∧
      ∀ k x, item = k.item x →
        (if (a.channel k).buffer.length < channelCapacity then Delivered a b s k x
          else Rejected a b k x) ∧
        ((s₁.channel k).buffer.length + (payloads k s₁.pipeline.queue.buffer).length ≤
          channelCapacity → (a.channel k).buffer.length < channelCapacity) := by
  obtain ⟨hresult, hreturned⟩ := joined_eq_ok hjoin
  obtain ⟨hwork, -⟩ := Worker.result_eq_ok_iff.1 hresult
  obtain ⟨s₁', hpre', hrest⟩ := Execution.run_append_iff.1 hrun
  obtain rfl : s₁ = s₁' := Option.some.inj (hpre.symm.trans hpre')
  obtain ⟨s₂, hstore, hpost⟩ := Execution.run_cons_iff.1 hrest
  obtain ⟨p, hp, rfl⟩ := Option.map_eq_some_iff.1 hstore
  -- what the worker had when it set the flag, and has handed over in the end
  obtain ⟨hqueued, hhanded, hsink, henqueued⟩ := at_storeClosing hpre hp
  have hconserved := Pipeline.run_conserved (Pipeline.conserved_new capacity ()) (run_forget hpre)
  have hover : s.pipeline.forget.worker.work.result? = some (.ok ()) := by
    rw [show s.pipeline.forget.worker.work = _ from hwork]
    rfl
  have hall := Pipeline.handed_of_storeClosing hconserved (Pipeline.step_forget hp)
    (run_forget hpost) hover
  change s₁.pipeline.enqueued <+: s.pipeline.worker.handed at hall
  -- the step that hands over the item
  have hi := (List.getElem?_eq_some_iff.1 hitem).1
  obtain ⟨mid, e, rest, a, b, rfl, hmid, ha, hstep, hb, hlast⟩ := Execution.run_crossing
    (f := fun t : Reporting Status => t.pipeline.worker.handed.length)
    (n := s₁.pipeline.worker.handed.length + i) (fun a b e hab => by
      rcases step_report_or hab with ⟨_, _, _, -, -, h, -⟩ | ⟨h, -⟩ <;> simp [h]) hpost
    (by rw [show _ = s₁.pipeline.worker.handed.length from congrArg List.length hhanded]; omega)
    (by
      have hlen := hall.length_le
      rw [hqueued, List.length_append] at hlen
      omega)
  change a.pipeline.worker.handed.length = _ at ha
  change b.pipeline.worker.handed.length = _ at hb
  have hrunA : run (new capacity) (pre ++ .pipeline (.worker .storeClosing) :: mid) = some a :=
    Execution.run_append_iff.2 ⟨s₁, hpre, Execution.run_cons_iff.2 ⟨_, hstore, hmid⟩⟩
  have hsoundA := run_sound (sound_new capacity) hrunA
  have hconservedA :=
    Pipeline.run_conserved (Pipeline.conserved_new capacity ()) (run_forget hrunA)
  have hprefixA : s₁.pipeline.enqueued <+: a.pipeline.enqueued := by
    have h := Pipeline.enqueued_prefix_run (run_forget hmid)
    rw [show (Pipeline.forget p).enqueued = _ from henqueued] at h
    exact h
  rcases step_report_or hstep with
    ⟨answer, loop, item', rfl, hworkA, hhandedB, hsinkB, hreceiverB⟩ | ⟨hsame, -⟩
  · have hn : s₁.pipeline.worker.handed.length + i < s₁.pipeline.enqueued.length := by
      rw [hqueued, List.length_append]
      omega
    have hget : s₁.pipeline.enqueued[s₁.pipeline.worker.handed.length + i]? = some item := by
      rw [hqueued, List.getElem?_append_right (Nat.le_add_right _ _), Nat.add_sub_cancel_left,
        hitem]
    -- the item in hand is the item of the queue
    obtain rfl : item' = item := by
      have h : a.pipeline.enqueued[a.pipeline.worker.handed.length]? = some item' :=
        hconservedA.getElem?_received hworkA
      obtain ⟨tail, htail⟩ := hprefixA
      rw [ha, ← htail, List.getElem?_append_left hn, hget] at h
      exact (Option.some.inj h).symm
    have hbuffer : b.pipeline.worker.handed =
        s₁.pipeline.worker.handed ++ s₁.pipeline.queue.buffer.take (i + 1) := by
      have htaken : b.pipeline.worker.handed <+: a.pipeline.enqueued := by
        have h := hconservedA.taken
        rw [Worker.taken, Worker.inHand, show a.pipeline.forget.worker.work = _ from hworkA] at h
        rw [hhandedB]
        exact h
      exact eq_append_take_of_prefix (hqueued ▸ hprefixA) htaken hb hi
    refine ⟨mid, answer, rest, a, b, rfl, hrunA, hstep, hbuffer, ?_⟩
    rintro k x rfl
    have hheld : (a.line k).abandoned = false := not_abandoned hworkA k
    refine ⟨delivered_or_rejected hsoundA hheld (step_sound hsoundA hstep) hsinkB hreceiverB hlast
      (hreturned k), fun hroom => ?_⟩
    -- what fitted when the flag was set still fits, and the item is among what is to come
    have hfits : Fits k s₁.pipeline.enqueued { pipeline := p, receiver := s₁.receiver } := by
      show (p.worker.sink.sender k).buffer.length +
        (payloads k (s₁.pipeline.enqueued.drop p.worker.handed.length)).length ≤ _
      rw [hsink, hhanded, hqueued, List.drop_left]
      exact hroom
    have hstart : s₁.pipeline.enqueued <+: p.enqueued := henqueued ▸ List.prefix_rfl
    have hk := run_fits (step_sound (run_sound (sound_new capacity) hpre) hstore)
      (hconserved.step (Pipeline.step_forget hp)) hstart hfits hmid
    rw [Fits, ha, List.drop_eq_getElem_cons hn, (List.getElem_eq_iff hn).2 hget, payloads_cons_item,
      List.length_cons] at hk
    omega
  -- no other step hands anything over
  · rw [hsame] at hb
    omega

/-- A segment without spans. -/
def sampleSegment : SegmentObject := ⟨"trace", "segment", [], "service", "instance", false⟩

/-- `n` segments are reported, and a shutdown signal arrives before the worker takes one. -/
def queueing (n : Nat) : List (ReportingEvent String) :=
  List.replicate n (.pipeline (.report (.trace sampleSegment))) ++
    (List.range n).map (fun call => .pipeline (.produce call)) ++
    [.pipeline (.worker .signal), .pipeline (.worker .recvShutdown)]

/-- The worker flushes `n` items and ends. -/
def flushing (n : Nat) : List (ReportingEvent String) :=
  (List.replicate n [.pipeline (.ask .flush), .pipeline (.worker (.report (.ok ()))),
    .pipeline (.worker .reported)]).flatten ++
    [.pipeline (.ask .flush), .pipeline (.worker .dropLocals)]

/-- A stream yields `n` items and sees the end of its channel, and its task returns. -/
def draining (k : Kind) (n : Nat) : List (ReportingEvent String) :=
  .receive k .stream :: List.replicate (n + 1) (.receive k .poll) ++
    [.receive k .collected, .receive k .stream]

/-- The three streams drain their channels, of which the first one has `n` items. -/
def drainingAll (n : Nat) : List (ReportingEvent String) :=
  draining .trace n ++ draining .log 0 ++ draining .meter 0

theorem flush_delivers_iff_room_one :
    ∃ s a b, run (new none) (queueing 1 ++ .pipeline (.worker .storeClosing) ::
        (flushing 1 ++ drainingAll 1)) = some s ∧ s.joined = some (.ok ()) ∧
      Delivered a b s .trace sampleSegment := by
  obtain ⟨s₁, hpre, hqueue⟩ : ∃ s₁, run (new none) (queueing 1) = some s₁ ∧
      s₁.pipeline.queue.buffer = [.trace sampleSegment] ∧ ∀ k, (s₁.channel k).buffer = [] :=
    ⟨_, rfl, rfl, fun k => by cases k <;> rfl⟩
  obtain ⟨s, hrun, hjoin⟩ : ∃ s, run (new none) (queueing 1 ++ .pipeline (.worker .storeClosing) ::
      (flushing 1 ++ drainingAll 1)) = some s ∧ s.joined = some (.ok ()) := ⟨_, rfl, rfl⟩
  obtain ⟨mid, answer, rest, a, b, -, -, -, -, hkind⟩ :=
    flush_delivers_iff_room hrun hpre hjoin (i := 0) (by rw [hqueue.1]; rfl)
  obtain ⟨hroom, hfits⟩ := hkind .trace sampleSegment rfl
  have hlt := hfits (by rw [hqueue.1, hqueue.2 .trace]; decide)
  rw [if_pos hlt] at hroom
  exact ⟨s, a, b, hrun, hjoin, hroom⟩

/-- One segment more than a channel holds, flushed while no stream is polled: the last one is
rejected, and the join handle resolves to `Ok` all the same. -/
theorem flush_rejects_overflow :
    ∃ s₁ s, run (new none) (queueing 256) = some s₁ ∧ s₁.pipeline.queue.buffer.length = 256 ∧
      run s₁ (.pipeline (.worker .storeClosing) :: (flushing 256 ++ drainingAll 255)) = some s ∧
      s.joined = some (.ok ()) ∧ (s.receiver .trace).yielded.length = 255 ∧
      s.errHandled = [("report trace segment failed", .full (.trace sampleSegment))] := by
  have hall : (run (new none) (queueing 256)).any fun s₁ =>
      decide (s₁.pipeline.queue.buffer.length = 256) &&
        (run s₁ (.pipeline (.worker .storeClosing) :: (flushing 256 ++ drainingAll 255))).any
          fun s => decide (s.joined = some (.ok ()) ∧ (s.receiver .trace).yielded.length = 255 ∧
            s.errHandled =
              [("report trace segment failed", .full (.trace sampleSegment))]) := by
    decide +kernel
  obtain ⟨s₁, hpre, hrest⟩ := (Option.any_eq_true _ _).1 hall
  obtain ⟨hlen, hrest⟩ := Bool.and_eq_true_iff.1 hrest
  obtain ⟨s, hrun, hend⟩ := (Option.any_eq_true _ _).1 hrest
  exact ⟨s₁, s, hpre, of_decide_eq_true hlen, hrun, of_decide_eq_true hend⟩

end Reporting

end SkywalkingAgent.Reporter
