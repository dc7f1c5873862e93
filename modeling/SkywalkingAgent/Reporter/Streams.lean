import SkywalkingAgent.Reporter.Grpc

/-!
# What the streams of a kind yield

A `ReceiveFrom` hands its receiver to one short-lived stream after another: a stream ends when
nothing comes for thirty seconds, when `collect` returns, or at the end of the channel.
`Reporting.streams_conserve` follows the items of each kind from the calls of
`InnerReportSender::report` to these streams, at every moment of every run.
-/

set_option autoImplicit false

namespace SkywalkingAgent.Reporter

open SkywalkingAgent.Lib SkywalkingAgent.Proto

/-! ## Attempts to send -/

/-- The items that were taken, of the items offered with their answers. -/
def taken {α : Type} (offers : List (α × Bool)) : List α :=
  (offers.filter fun offer => offer.2).map Prod.fst

/-- The items that came back. -/
def refused {α : Type} (offers : List (α × Bool)) : List α :=
  (offers.filter fun offer => !offer.2).map Prod.fst

theorem taken_append {α : Type} (offers more : List (α × Bool)) :
    taken (offers ++ more) = taken offers ++ taken more := by
  simp [taken]

theorem refused_append {α : Type} (offers more : List (α × Bool)) :
    refused (offers ++ more) = refused offers ++ refused more := by
  simp [refused]

/-- The item that comes back with the error. -/
def TrySendError.item : TrySendError → CollectItem
  | .full item => item
  | .closed item => item

theorem Kind.payload?_item (k : Kind) (x : k.Payload) : k.payload? (k.item x) = some x :=
  Kind.payload?_eq_some_iff.2 rfl

/-- What `report` passes to `err_handle`. -/
theorem InnerReportSender.errHandled_report {Status : Type} (answer : Except Status Unit)
    (item : CollectItem) (self : InnerReportSender Status) :
    (self.report answer item).errHandled = self.errHandled ∨
      ∃ (k : Kind) (x : k.Payload) (err : TrySendError), item = k.item x ∧ err.item = item ∧
        ((self.sender k).receiving = true → err = .full item) ∧
        (self.report answer item).errHandled = self.errHandled ++ [(rejection k, err)] := by
  rcases exists_kind_or Status item with ⟨k, x, rfl⟩ | hnone
  · rw [report_item]
    cases hreceiving : (self.sender k).receiving with
    | false =>
      rw [trySend_of_closed hreceiving]
      refine Or.inr ⟨k, x, _, rfl, rfl, fun htrue => ?_, rfl⟩
      rw [hreceiving] at htrue
      cases htrue
    | true =>
      cases hroom : (self.sender k).hasRoom with
      | false =>
        rw [trySend_of_full hreceiving hroom]
        exact Or.inr ⟨k, x, _, rfl, rfl, fun _ => rfl, rfl⟩
      | true =>
        rw [trySend_of_room hreceiving hroom]
        exact Or.inl rfl
  · exact Or.inl (hnone answer self).2

namespace Reporting

variable {Status : Type} {s s' : Reporting Status} {e : ReportingEvent Status}
  {es : List (ReportingEvent Status)} {k : Kind}

/-- The payload of the kind that a step offers to the channel of the kind, and whether the channel
takes it. -/
def sent (k : Kind) (self : Reporting Status) (e : ReportingEvent Status) :
    Option (k.Payload × Bool) :=
  match e, self.pipeline.worker.work with
  | .pipeline (.worker (.report _)), .received _ item =>
      (k.payload? item).map fun x =>
        match (self.channel k).offer x with
        | .accepted _ => (x, true)
        | _ => (x, false)
  | _, _ => none

/-- The attempts to send a payload of the kind in a run from the start. -/
def sends (capacity : Option Nat) (k : Kind) (es : List (ReportingEvent Status)) :
    List (k.Payload × Bool) :=
  Execution.outputs step (sent k) (new capacity) es

/-- The payloads of the kind that came back to `err_handle`. -/
def handled (k : Kind) (self : Reporting Status) : List k.Payload :=
  self.errHandled.filterMap fun call => k.payload? call.2.item

/-- The worker that holds an item finds the receivers there. -/
theorem receiving_of_received {loop : Loop} {item : CollectItem}
    (hl : (s.line k).Sound channelCapacity)
    (hwork : s.pipeline.worker.work = .received loop item) : (s.channel k).receiving = true := by
  have hheld : (s.line k).abandoned = false := by
    show s.pipeline.worker.work.isDropped = false
    rw [hwork]
    rfl
  exact hl.receiving_of_held hheld

/-- A step of a worker that holds an item of the kind. -/
theorem sent_report {answer : Except Status Unit} {loop : Loop} {x : k.Payload}
    (hwork : s.pipeline.worker.work = .received loop (k.item x))
    (hreceiving : (s.channel k).receiving = true) :
    sent k s (.pipeline (.worker (.report answer))) = some (x, (s.channel k).hasRoom) := by
  simp only [sent, hwork, Kind.payload?_item, Option.map_some, Channel.offer, if_pos hreceiving]
  cases (s.channel k).hasRoom <;> rfl

/-- An item of another kind, or of none. -/
theorem sent_report_other {answer : Except Status Unit} {loop : Loop} {item : CollectItem}
    (hwork : s.pipeline.worker.work = .received loop item) (hitem : k.payload? item = none) :
    sent k s (.pipeline (.worker (.report answer))) = none := by
  simp only [sent, hwork, hitem, Option.map_none]

theorem sent_of_ne (hne : ∀ answer, e ≠ .pipeline (.worker (.report answer))) :
    sent k s e = none := by
  unfold sent
  split
  · exact absurd rfl (hne _)
  · rfl

/-! ## One step -/

/-- A step that lets no buffer grow moves items along the line, or does not touch it. -/
theorem Line.Sound.flow_eq {α : Type} {n : Nat} {l l' : Line α} (hl : l.Sound n)
    (h : l.Step l') (hle : l'.channel.buffer.length ≤ l.channel.buffer.length) :
    l'.flow = l.flow := by
  cases h with
  | keep => rfl
  | accept item =>
    -- the only step of the line that puts an item in lets the buffer grow
    rw [List.length_append, List.length_singleton] at hle
    omega
  | abandon => rfl
  | receive e receiver channel hstep =>
    cases Line.received_of_step hstep with
    -- the item goes from the front of the buffer to the end of the current stream
    | yielded item rest receiver hbuffer _ _ _ hyielded =>
      simp [Line.flow, hbuffer, hyielded]
    | same receiver _ _ _ hyielded =>
      simp [Line.flow, hyielded]
    | returned hclosed receiver _ _ hyielded =>
      -- the receiver goes with an empty buffer
      simp [Line.flow, hyielded, Channel.dropReceiver, (hl.closed hclosed).2]

/-- What one step does to the items of a kind. -/
structure Moved (k : Kind) (s s' : Reporting Status) (offers : List (k.Payload × Bool)) :
    Prop where
  handed : payloads k s'.pipeline.worker.handed =
    payloads k s.pipeline.worker.handed ++ offers.map Prod.fst
  flow : (s'.line k).flow = (s.line k).flow ++ taken offers
  handled : s'.handled k = s.handled k ++ refused offers

/-- The worker passes on an item of the kind. -/
theorem moved_of_item {answer : Except Status Unit} {loop : Loop} {x : k.Payload}
    (hl : (s.line k).Sound channelCapacity)
    (hwork : s.pipeline.worker.work = .received loop (k.item x))
    (hhanded : s'.pipeline.worker.handed = s.pipeline.worker.handed ++ [k.item x])
    (hsink : s'.pipeline.worker.sink = s.pipeline.worker.sink.report answer (k.item x))
    (hreceiver : s'.receiver = s.receiver) : Moved k s s' [(x, (s.channel k).hasRoom)] := by
  have hreceiving := receiving_of_received hl hwork
  have hpayloads : payloads k s'.pipeline.worker.handed =
      payloads k s.pipeline.worker.handed ++ [x] := by
    simp [payloads, hhanded, Kind.payload?_item]
  rw [InnerReportSender.report_item] at hsink
  cases hroom : (s.channel k).hasRoom with
  | true =>
    -- taken: the buffer of the kind is longer by `x`, and `err_handle` is not called
    rw [InnerReportSender.trySend_of_room hreceiving hroom] at hsink
    refine ⟨hpayloads, ?_, ?_⟩
    · simp [Line.flow, line, Reporting.channel, hsink, hreceiver, taken]
    · simp [handled, errHandled, hsink, refused]
  | false =>
    -- full: the channel is as it was, and `err_handle` is called with `x`
    rw [InnerReportSender.trySend_of_full hreceiving hroom] at hsink
    refine ⟨hpayloads, ?_, ?_⟩
    · simp [Line.flow, line, Reporting.channel, hsink, hreceiver, taken]
    · simp [handled, errHandled, hsink, refused, TrySendError.item, Kind.payload?_item]

/-- The worker passes on an item that is not of the kind. -/
theorem moved_of_other {answer : Except Status Unit} {item : CollectItem}
    (hitem : k.payload? item = none)
    (hhanded : s'.pipeline.worker.handed = s.pipeline.worker.handed ++ [item])
    (hsink : s'.pipeline.worker.sink = s.pipeline.worker.sink.report answer item)
    (hreceiver : s'.receiver = s.receiver) : Moved k s s' [] := by
  have hchannel : s'.channel k = s.channel k := by
    have hsender : s'.channel k = (s.pipeline.worker.sink.report answer item).sender k := by
      rw [← hsink]
      rfl
    rcases InnerReportSender.sender_report answer item s.pipeline.worker.sink k with
      hsame | ⟨x, rfl, -⟩
    · exact hsender.trans hsame
    · rw [Kind.payload?_item] at hitem
      cases hitem
  -- a rejected item is of its own kind, so the calls for `k` are the same
  have hhandled : s'.handled k = s.handled k := by
    rcases InnerReportSender.errHandled_report answer item s.pipeline.worker.sink with
      hsame | ⟨k', x, err, -, hback, -, hcall⟩
    · simp [handled, errHandled, hsink, hsame]
    · simp [handled, errHandled, hsink, hcall, hback, hitem]
  refine ⟨?_, ?_, ?_⟩
  · simp [payloads, hhanded, hitem]
  · simp [Line.flow, line, hchannel, hreceiver, taken]
  · simp [hhandled, refused]

/-- An item of the kind that the worker passes on is taken by the channel or comes back to
`err_handle`; the other steps only move items along the line. -/
theorem step_moved (hs : ∀ k, (s.line k).Sound channelCapacity) (h : s.step e = some s')
    (k : Kind) : Moved k s s' (sent k s e).toList := by
  rcases step_report_or h with
    ⟨answer, loop, item, rfl, hwork, hhanded, hsink, hreceiver⟩ | ⟨hhanded, hle, herr, hne⟩
  · cases hitem : k.payload? item with
    | none =>
      rw [sent_report_other hwork hitem]
      exact moved_of_other hitem hhanded hsink hreceiver
    | some x =>
      obtain rfl := Kind.payload?_eq_some_iff.1 hitem
      rw [sent_report hwork (receiving_of_received (hs k) hwork)]
      exact moved_of_item (hs k) hwork hhanded hsink hreceiver
  · rw [sent_of_ne hne]
    have hflow := Line.Sound.flow_eq (hs k) (step_line k h) (hle k)
    exact ⟨by simp [hhanded], by simp [hflow, taken], by simp [handled, errHandled, herr, refused]⟩

/-! ## Runs -/

/-- The items of a kind after the events `es`. -/
structure Conserves (capacity : Option Nat) (k : Kind) (es : List (ReportingEvent Status))
    (s : Reporting Status) : Prop where
  /-- The worker has passed on the items that were offered, in order. -/
  handed : payloads k s.pipeline.worker.handed = (sends capacity k es).map Prod.fst
  /-- What the channel took is what the streams have yielded, and behind it what it still holds. -/
  taken : taken (sends capacity k es) =
    (s.receiver k).finished.flatten ++ (s.receiver k).current ++ (s.channel k).buffer
  /-- `err_handle` was called once for each of the others. -/
  refused : refused (sends capacity k es) = s.handled k
  /-- The task returns when the worker is gone and everything was yielded. -/
  returned : (s.receiver k).isReturned = true →
    s.pipeline.worker.work.isDropped = true ∧
      (s.receiver k).yielded = Reporter.taken (sends capacity k es)

/-- A call of `err_handle` gives back an item that the channel of its kind had no room for. -/
def IsRejection (call : String × TrySendError) : Prop :=
  ∃ (k : Kind) (x : k.Payload), call = (InnerReportSender.rejection k, .full (k.item x))

theorem step_rejections (hs : ∀ k, (s.line k).Sound channelCapacity) (h : s.step e = some s')
    (hcalls : ∀ call ∈ s.errHandled, IsRejection call) :
    ∀ call ∈ s'.errHandled, IsRejection call := by
  rcases step_report_or h with ⟨answer, loop, item, -, hwork, -, hsink, -⟩ | ⟨-, -, herr, -⟩
  · rcases InnerReportSender.errHandled_report answer item s.pipeline.worker.sink with
      hsame | ⟨k, x, err, rfl, -, hfull, hcall⟩
    · rw [errHandled, hsink, hsame]
      exact hcalls
    -- the receivers are there, so the channel can only be full
    · obtain rfl := hfull (receiving_of_received (hs k) hwork)
      rw [errHandled, hsink, hcall]
      intro call hmem
      rcases List.mem_append.1 hmem with hold | hnew
      · exact hcalls call hold
      · exact ⟨k, x, List.mem_singleton.1 hnew⟩
  · rw [errHandled, herr]
    exact hcalls

/-- The run lemma: the attempts to send account for what was passed on, taken and given back. -/
theorem run_moved {capacity : Option Nat} (hrun : run (new capacity) es = some s) (k : Kind) :
    payloads k s.pipeline.worker.handed = (sends capacity k es).map Prod.fst ∧
      (s.line k).flow = taken (sends capacity k es) ∧
      s.handled k = refused (sends capacity k es) := by
  induction es using List.reverseRecOn generalizing s with
  | nil =>
    obtain rfl := Option.some.inj hrun
    exact ⟨rfl, rfl, rfl⟩
  | append_singleton es e ih =>
    obtain ⟨m, hm, hstep⟩ := Execution.run_concat_iff.1 hrun
    obtain ⟨hhanded, hflow, hhandled⟩ := ih hm
    have hmoved := step_moved (run_sound (sound_new capacity) hm) hstep k
    have hsends : sends capacity k (es ++ [e]) = sends capacity k es ++ (sent k m e).toList :=
      Execution.outputs_concat hm hstep
    rw [hsends, List.map_append, taken_append, refused_append, ← hhanded, ← hflow, ← hhandled]
    exact ⟨hmoved.handed, hmoved.flow, hmoved.handled⟩

/-- At every moment of every run, for each kind: the items that the worker has passed on were taken
by the channel of their kind or came back with one call of `err_handle` each; what the successive
streams have yielded, and behind it what is in the channel, is what the channel took, in order; and
a task that has returned has yielded all of it, and the worker is gone. -/
theorem streams_conserve {capacity : Option Nat} (hrun : run (new capacity) es = some s) :
    (∀ call ∈ s.errHandled, IsRejection call) ∧ ∀ k, Conserves capacity k es s := by
  have hsound := run_sound (sound_new capacity) hrun
  constructor
  · have hcalls := Execution.run_invariant
      (I := fun t : Reporting Status => (∀ k, (t.line k).Sound channelCapacity) ∧
        ∀ call ∈ t.errHandled, IsRejection call)
      ⟨sound_new capacity, fun call hcall => absurd hcall List.not_mem_nil⟩
      (fun _ _ _ h hstep => ⟨step_sound h.1 hstep, step_rejections h.1 hstep h.2⟩) hrun
    exact hcalls.2
  · intro k
    obtain ⟨hhanded, hflow, hhandled⟩ := run_moved hrun k
    refine ⟨hhanded, hflow.symm, hhandled.symm, fun hreturned => ⟨?_, ?_⟩⟩
    · exact ((hsound k).closed ((hsound k).returned hreturned)).1
    · rw [← hflow]
      exact ((hsound k).flow_of_returned hreturned).symm

/-- A reporter reports a segment, and the worker passes it on. -/
def passing (call : Nat) (segment : SegmentObject) : List (ReportingEvent String) :=
  [.pipeline (.report (.trace segment)), .pipeline (.produce call), .pipeline (.ask .consume),
    .pipeline (.worker (.report (.ok ()))), .pipeline (.worker .reported)]

/-- A second segment comes while no stream is there, after the first stream has timed out. -/
def restarting : List (ReportingEvent String) :=
  passing 0 sampleSegment ++
    [.receive .trace .stream, .receive .trace .poll, .receive .trace .timeout,
      .receive .trace .collected] ++
    passing 1 { sampleSegment with traceSegmentId := "next" } ++
    [.receive .trace .stream, .receive .trace .poll]

theorem streams_conserve_restarting :
    ∃ s, run (new none) restarting = some s ∧
      (s.receiver .trace).finished = [[sampleSegment]] ∧
      (s.receiver .trace).current = [{ sampleSegment with traceSegmentId := "next" }] ∧
      ∀ k, Conserves none k restarting s := by
  obtain ⟨s, hrun, hfinished, hcurrent⟩ : ∃ s, run (new none) restarting = some s ∧
      (s.receiver .trace).finished = [[sampleSegment]] ∧
      (s.receiver .trace).current = [{ sampleSegment with traceSegmentId := "next" }] :=
    ⟨_, rfl, rfl, rfl⟩
  exact ⟨s, hrun, hfinished, hcurrent, (streams_conserve hrun).2⟩

end Reporting

end SkywalkingAgent.Reporter
