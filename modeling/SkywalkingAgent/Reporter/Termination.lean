import SkywalkingAgent.Reporter.Grpc

/-!
# The tasks come to their end

Once a shutdown signal has arrived, or no reporter is left, the worker is never stuck before its
end, and the steps that are left for it are bounded by what is queued and what is still produced
(`Pipeline.stopping_terminates`). After it has set `is_closing` nothing new is produced but by the
calls of `report` that had read the flag before, so the bound then holds whatever the reporters do.
A receive reporter is never stuck either after the worker has gone; what it may need more steps for
is a `collect` that returns before the end of its stream (`Reporting.draining_terminates`).
-/

set_option autoImplicit false

namespace SkywalkingAgent.Reporter

open SkywalkingAgent.Lib

/-! ## The worker -/

/-- The steps that are left for `work_fut` with `n` items in the queue: three for each item, and
those from the place where it stands to its end. -/
def WorkFut.remaining {α ε : Type} (n : Nat) : WorkFut α ε → Nat
  | .received .consume _ => 3 * n + 6
  | .reporting .consume => 3 * n + 5
  | .polling .consume => 3 * n + 4
  | .closing => 3 * n + 3
  | .received .flush _ => 3 * n + 4
  | .reporting .flush => 3 * n + 3
  | .polling .flush => 3 * n + 2
  | .returning _ => 1
  | .dropped _ => 0

theorem WorkFut.remaining_le {α ε : Type} (n : Nat) (work : WorkFut α ε) :
    work.remaining n ≤ 3 * n + 6 ∧ (work.isFlushing = true → work.remaining n ≤ 3 * n + 4) := by
  cases work with
  | polling loop => cases loop <;> simp [remaining, isFlushing]
  | received loop item => cases loop <;> simp [remaining, isFlushing]
  | reporting loop => cases loop <;> simp [remaining, isFlushing]
  | closing => simp [remaining, isFlushing]
  | returning result => exact ⟨by simp [remaining], fun _ => by simp [remaining]⟩
  | dropped result => exact ⟨by simp [remaining], fun _ => by simp [remaining]⟩

/-- The queue grows by one item. -/
theorem WorkFut.remaining_succ {α ε : Type} (n : Nat) (work : WorkFut α ε) :
    work.remaining (n + 1) ≤ work.remaining n + 3 := by
  cases work with
  | polling loop => cases loop <;> simp only [remaining] <;> omega
  | received loop item => cases loop <;> simp only [remaining] <;> omega
  | reporting loop => cases loop <;> simp only [remaining] <;> omega
  | closing => simp only [remaining]; omega
  | returning result => simp [remaining]
  | dropped result => simp [remaining]

/-- The steps of `work_fut`; the signal comes from outside. -/
def PipelineEvent.isWork {α ω : Type} : PipelineEvent α ω → Bool
  | .ask _ => true
  | .worker .signal => false
  | .worker _ => true
  | _ => false

namespace Pipeline

variable {σ α ω : Type} {sink : Sink σ α ω} {s s' t : Pipeline σ α} {e : PipelineEvent α ω}
  {es fs : List (PipelineEvent α ω)}

/-- The steps that are left for the worker with the queue as it is. -/
def remaining (self : Pipeline σ α) : Nat := self.worker.work.remaining self.queue.buffer.length

/-- The calls of `report` that have read the flag and not yet produced. -/
def inFlight (self : Pipeline σ α) : Nat := self.calls.countP fun call => call.status = .checked

/-- A call that was in flight is over. -/
theorem countP_set_checked {calls : List (ReportCall α)} {call : Nat} {item : α}
    {status : CallStatus} (hcall : calls[call]? = some ⟨item, .checked⟩)
    (hstatus : status ≠ .checked) :
    (calls.countP fun c => c.status = .checked) =
      ((calls.set call ⟨item, status⟩).countP fun c => c.status = .checked) + 1 := by
  obtain ⟨hlt, hget⟩ := List.getElem?_eq_some_iff.1 hcall
  have hpos : 0 < calls.countP fun c => c.status = .checked := by
    apply List.countP_pos_iff.2
    exact ⟨⟨item, .checked⟩, List.mem_of_getElem? hcall, by simp⟩
  rw [List.countP_set hlt, hget]
  simp [hstatus]
  omega

/-- A step of the worker lowers what is left for it; an item that is produced adds three. -/
theorem step_remaining (h : s.step sink e = some s') :
    s'.remaining + (if e.isWork then 1 else 0) ≤
      s.remaining + (if e.isProduce then 3 else 0) := by
  cases step_effect h with
  | cloneReporter => simp [remaining, PipelineEvent.isWork, PipelineEvent.isProduce,
      Channel.cloneSender]
  | dropReporter => simp [remaining, PipelineEvent.isWork, PipelineEvent.isProduce,
      Channel.dropSender]
  | report item => simp [remaining, PipelineEvent.isWork, PipelineEvent.isProduce, report]
  | accepted call item hcall hreceiving =>
    simpa [remaining, PipelineEvent.isWork, PipelineEvent.isProduce] using
      s.worker.work.remaining_succ s.queue.buffer.length
  | failed call item hcall hclosed =>
    simp [remaining, PipelineEvent.isWork, PipelineEvent.isProduce]
  | panicked call item hcall hbounded =>
    simp [remaining, PipelineEvent.isWork, PipelineEvent.isProduce]
  | took loop hwork item rest hbuffer =>
    simp only [remaining, hwork, hbuffer, PipelineEvent.isWork, PipelineEvent.isProduce,
      List.length_cons]
    cases loop <;> simp only [WorkFut.remaining] <;> simp <;> omega
  | foundEmpty hwork hbuffer hsenders =>
    simp [remaining, hwork, hbuffer, PipelineEvent.isWork, PipelineEvent.isProduce,
      WorkFut.remaining]
  | ended hwork hbuffer hsenders =>
    simp [remaining, hwork, hbuffer, PipelineEvent.isWork, PipelineEvent.isProduce,
      WorkFut.remaining]
  | disconnected hwork hbuffer hsenders =>
    simp [remaining, hwork, hbuffer, PipelineEvent.isWork, PipelineEvent.isProduce,
      WorkFut.remaining]
  | worker e w hown hstay =>
    cases hown with
    | recvShutdown hwork hsent =>
      simp [remaining, hwork, PipelineEvent.isWork, PipelineEvent.isProduce, WorkFut.remaining]
    | report answer loop item hwork =>
      simp only [remaining, hwork, PipelineEvent.isWork, PipelineEvent.isProduce]
      cases loop <;> simp [WorkFut.remaining]
    | reported loop hwork =>
      simp only [remaining, hwork, PipelineEvent.isWork, PipelineEvent.isProduce]
      cases loop <;> simp [WorkFut.remaining]
    | storeClosing hwork =>
      simp [remaining, hwork, PipelineEvent.isWork, PipelineEvent.isProduce, WorkFut.remaining]
    | dropLocals => exact absurd rfl hstay
    | signal => simp [remaining, PipelineEvent.isWork, PipelineEvent.isProduce]
  | dropLocals w hown =>
    cases hown with
    | dropLocals result hwork =>
      simp [remaining, hwork, PipelineEvent.isWork, PipelineEvent.isProduce, WorkFut.remaining]

/-- The flag stays set. -/
theorem step_isClosing (h : s.step sink e = some s') (hclosing : s.worker.isClosing = true) :
    s'.worker.isClosing = true := by
  cases step_effect h with
  | worker e w hown hstay =>
    cases hown with
    | storeClosing hwork => rfl
    | _ => exact hclosing
  | dropLocals w hown =>
    cases hown
    exact hclosing
  | _ => exact hclosing

/-- Once the flag is set no call comes in flight any more, and one that produces is over. -/
theorem step_inFlight (h : s.step sink e = some s') (hclosing : s.worker.isClosing = true) :
    s'.inFlight + (if e.isProduce then 1 else 0) ≤ s.inFlight := by
  cases step_effect h with
  | report item =>
    simp [inFlight, report, hclosing, PipelineEvent.isProduce]
  | accepted call item hcall hreceiving =>
    exact Nat.le_of_eq (countP_set_checked hcall (by simp)).symm
  | failed call item hcall hclosed =>
    exact Nat.le_of_eq (countP_set_checked hcall (by simp)).symm
  -- a call that panics is over as well, and produces nothing
  | panicked call item hcall hbounded =>
    exact Nat.le_of_succ_le (Nat.le_of_eq (countP_set_checked hcall (by simp)).symm)
  | worker e w hown hstay => exact Nat.le_refl _
  | dropLocals w hown => exact Nat.le_refl _
  | _ => exact Nat.le_refl _

/-- Once the flag is set the steps of the worker are paid for by the queue and the calls in
flight. -/
theorem step_settling (h : s.step sink e = some s') (hclosing : s.worker.isClosing = true) :
    s'.remaining + 3 * s'.inFlight + (if e.isWork then 1 else 0) ≤
      s.remaining + 3 * s.inFlight := by
  have hremaining := step_remaining h
  have hflight := step_inFlight h hclosing
  cases hproduce : e.isProduce with
  | true =>
    simp only [hproduce, if_true] at hremaining hflight
    omega
  | false =>
    simp only [hproduce, Bool.false_eq_true, if_false] at hremaining hflight
    omega

/-- While `work_fut` has not ended one of its steps is possible, unless it waits for an item. -/
theorem exists_work (answer : ω) (hdropped : s.worker.work.isDropped = false)
    (hinput : s.worker.work = .polling .consume →
      s.worker.shutdown = .sent ∨ s.queue.senders = 0) :
    ∃ e : PipelineEvent α ω, e.isWork = true ∧ (s.step sink e).isSome := by
  cases hwork : s.worker.work with
  | polling loop =>
    cases loop with
    | consume =>
      rcases hinput hwork with hsent | hsenders
      · exact ⟨.worker .recvShutdown, rfl, by simp [step, Worker.own, hwork, hsent]⟩
      · refine ⟨.ask .consume, rfl, ?_⟩
        cases hbuffer : s.queue.buffer with
        | nil => simp [step, ask, consume, Channel.take, hbuffer, hsenders, Worker.answer, hwork]
        | cons item rest =>
          simp [step, ask, consume, Channel.take, hbuffer, Worker.answer, hwork]
    | flush => exact ⟨.ask .flush, rfl, by simp [step, ask, Worker.answer, hwork]⟩
  | received loop item =>
    exact ⟨.worker (.report answer), rfl, by simp [step, Worker.own, hwork]⟩
  | reporting loop => exact ⟨.worker .reported, rfl, by simp [step, Worker.own, hwork]⟩
  | closing => exact ⟨.worker .storeClosing, rfl, by simp [step, Worker.own, hwork]⟩
  | returning result => exact ⟨.worker .dropLocals, rfl, by simp [step, Worker.own, hwork]⟩
  | dropped result =>
    rw [hwork] at hdropped
    cases hdropped

/-- The end of the input is final. -/
theorem run_senders (hsenders : s.queue.senders = 0) (hrun : run sink s es = some s') :
    s'.queue.senders = 0 := by
  refine Execution.run_invariant (I := fun t => t.queue.senders = 0) hsenders ?_ hrun
  intro a b e ha hstep
  cases step_effect hstep with
  | cloneReporter hne => exact absurd ha hne
  | dropReporter hne => exact absurd ha hne
  | _ => exact ha

/-- From every state of a run in which a shutdown signal has arrived or no reporter is left, the
worker takes no more than the steps that the queue leaves it and three for each item produced
meanwhile; once it has set `is_closing`, no more than three for each item in the queue and for each
call of `report` in flight, and four, whatever the reporters do. Where it can take no more steps, it
has ended. -/
theorem stopping_terminates (sink : Sink σ α ω) (capacity : Option Nat) (sink₀ : σ) (answer : ω)
    (hrun : run sink (new capacity sink₀) es = some s)
    (hstop : s.worker.shutdown = .sent ∨ s.queue.senders = 0)
    (hrest : run sink s fs = some t) :
    fs.countP PipelineEvent.isWork ≤
        3 * s.queue.buffer.length + 6 + 3 * fs.countP PipelineEvent.isProduce ∧
      (s.worker.isClosing = true →
        fs.countP PipelineEvent.isWork ≤ 3 * (s.queue.buffer.length + s.inFlight) + 4) ∧
      ((∀ e : PipelineEvent α ω, e.isWork = true → t.step sink e = none) →
        t.worker.work.isDropped = true ∧
          (s.worker.shutdown = .sent → t.worker.result.isSome)) := by
  have hphased : s.Phased := run_phased (phased_new capacity sink₀) hrun
  refine ⟨?_, ?_, ?_⟩
  · have hcount := Execution.run_countP_le (I := fun _ => True) (p := PipelineEvent.isWork)
      (q := PipelineEvent.isProduce) (k := 3)
      (fun a b e _ hstep => ⟨trivial, step_remaining hstep⟩) trivial hrest
    have hle := (s.worker.work.remaining_le s.queue.buffer.length).1
    simp only [remaining] at hcount
    omega
  · intro hclosing
    have hcount := Execution.run_countP_le_start
      (I := fun a : Pipeline σ α => a.worker.isClosing = true)
      (m := fun a => a.remaining + 3 * a.inFlight) (p := PipelineEvent.isWork)
      (fun a b e ha hstep => ⟨step_isClosing hstep ha, step_settling hstep ha⟩) hclosing hrest
    have hle := (s.worker.work.remaining_le s.queue.buffer.length).2
      (hphased.isClosing.symm.trans hclosing)
    simp only [remaining] at hcount
    omega
  · intro hstuck
    have hstop' : t.worker.shutdown = .sent ∨ t.queue.senders = 0 :=
      hstop.imp (fun h => run_sent h hrest) (fun h => run_senders h hrest)
    have hdropped : t.worker.work.isDropped = true := by
      by_contra hnot
      have hstep : ∃ e : PipelineEvent α ω, e.isWork = true ∧ (t.step sink e).isSome :=
        exists_work answer (Bool.eq_false_iff.2 hnot) fun _ => hstop'
      obtain ⟨e, hwork, hsome⟩ := hstep
      rw [hstuck e hwork] at hsome
      cases hsome
    refine ⟨hdropped, fun hsent => ?_⟩
    have hsent' := run_sent hsent hrest
    cases hwork : t.worker.work with
    | dropped result =>
      cases result with
      | ok u => simp [Worker.result, hwork, hsent']
      | error err => simp [Worker.result, hwork]
    | _ =>
      rw [hwork] at hdropped
      cases hdropped

/-- A shutdown signal with one item queued and one call in flight. -/
def stoppingRun : List (PipelineEvent CollectItem (Except String Unit)) :=
  [.report (sampleItem 0), .produce 0, .report (sampleItem 1), .worker .signal,
    .worker .recvShutdown, .worker .storeClosing]

/-- The flush takes the item, and the call in flight produces its own. -/
def stoppingRest : List (PipelineEvent CollectItem (Except String Unit)) :=
  [.ask .flush, .produce 1, .worker (.report (.ok ()))]

theorem stopping_terminates_grpc :
    ∃ s t, run InnerReportSender.sink (new none .new) stoppingRun = some s ∧
      s.worker.isClosing = true ∧
      run InnerReportSender.sink s stoppingRest = some t ∧
      stoppingRest.countP PipelineEvent.isWork ≤
        3 * (s.queue.buffer.length + s.inFlight) + 4 := by
  have hrun : ∃ s, run InnerReportSender.sink (new none .new) stoppingRun = some s ∧
      s.worker.shutdown = .sent ∧ s.worker.isClosing = true ∧
      ∃ t, run InnerReportSender.sink s stoppingRest = some t := ⟨_, rfl, rfl, rfl, _, rfl⟩
  obtain ⟨s, hrun, hsent, hclosing, t, hrest⟩ := hrun
  exact ⟨s, t, hrun, hclosing, hrest, (stopping_terminates InnerReportSender.sink none .new
    (Except.ok ()) hrun (Or.inl hsent) hrest).2.1 hclosing⟩

end Pipeline

/-! ## The receive reporters -/

theorem ReceiveReporter.polled_of_isClosed {α : Type} {self receiver : ReceiveReporter α}
    {channel channel' : Channel α} {e : ReceiveEvent}
    (h : self.step channel e = some (receiver, channel')) (hopen : self.isClosed = false)
    (hclosed : receiver.isClosed = true) : e = .poll ∧ channel.take = .disconnected := by
  unfold ReceiveReporter.step at h
  split at h
  · simp only [hopen, Bool.false_eq_true, if_false, Option.some.injEq, Prod.mk.injEq] at h
    obtain ⟨rfl, -⟩ := h
    simp at hclosed
  · split at h
    · obtain ⟨rfl, -⟩ := Prod.mk.inj (Option.some.inj h)
      simp [hopen] at hclosed
    · cases h
    · next htake => exact ⟨rfl, htake⟩
  · split at h
    · obtain ⟨rfl, -⟩ := Prod.mk.inj (Option.some.inj h)
      simp [hopen] at hclosed
    · cases h
  · obtain ⟨rfl, -⟩ := Prod.mk.inj (Option.some.inj h)
    simp [hopen] at hclosed
  · cases h

namespace Line

variable {α : Type} {l : Line α} {n : Nat}

/-- The steps that are left for the receive reporter of a line that the worker has left, if every
`collect` goes on to the end of its stream: two for each end, one for each item, and one for the
end of the channel. -/
def remaining (l : Line α) : Nat :=
  match l.receiver.task with
  | .idle => if l.receiver.isClosed then 1 else l.channel.buffer.length + 4
  | .collecting _ false => l.channel.buffer.length + 3
  | .collecting _ true => if l.receiver.isClosed then 2 else l.channel.buffer.length + 5
  | .returned => 0

theorem remaining_le (l : Line α) : l.remaining ≤ l.channel.buffer.length + 5 := by
  unfold remaining
  split
  · split <;> omega
  · omega
  · split <;> omega
  · omega

/-- A `collect` that ends before its stream costs two more steps; every other step counts down. -/
theorem Sound.remaining_step (hl : l.Sound n) (habandoned : l.abandoned = true) {e : ReceiveEvent}
    {receiver : ReceiveReporter α} {channel : Channel α}
    (h : l.receiver.step l.channel e = some (receiver, channel)) :
    remaining { l with receiver := receiver, channel := channel } + 1 ≤
      l.remaining + if e = .collected then 2 else 0 := by
  have hsenders : l.channel.senders = 0 := by simpa [habandoned] using hl.senders
  cases htask : l.receiver.task with
  | idle =>
    cases e with
    | stream =>
      cases hclosed : l.receiver.isClosed with
      | true =>
        simp only [ReceiveReporter.step, htask, hclosed, if_true, Option.some.injEq,
          Prod.mk.injEq] at h
        obtain ⟨rfl, rfl⟩ := h
        simp [remaining, htask, hclosed]
      | false =>
        simp only [ReceiveReporter.step, htask, hclosed, Bool.false_eq_true, if_false,
          Option.some.injEq, Prod.mk.injEq] at h
        obtain ⟨rfl, rfl⟩ := h
        simp [remaining, htask, hclosed]
    | poll => simp [ReceiveReporter.step, htask] at h
    | timeout => simp [ReceiveReporter.step, htask] at h
    | collected => simp [ReceiveReporter.step, htask] at h
  | collecting yielded ended =>
    cases e with
    | stream => simp [ReceiveReporter.step, htask] at h
    | poll =>
      cases ended with
      | true => simp [ReceiveReporter.step, htask] at h
      | false =>
        cases hbuffer : l.channel.buffer with
        | nil =>
          simp only [ReceiveReporter.step, htask, Channel.take, hbuffer, hsenders, if_true,
            Option.some.injEq, Prod.mk.injEq] at h
          obtain ⟨rfl, rfl⟩ := h
          simp [remaining, htask]
        | cons item rest =>
          simp only [ReceiveReporter.step, htask, Channel.take, hbuffer, Option.some.injEq,
            Prod.mk.injEq] at h
          obtain ⟨rfl, rfl⟩ := h
          simp [remaining, htask, hbuffer]
    | timeout =>
      -- the channel is never empty and connected without its sender
      cases ended with
      | true => simp [ReceiveReporter.step, htask] at h
      | false =>
        cases hbuffer : l.channel.buffer with
        | nil => simp [ReceiveReporter.step, htask, Channel.take, hbuffer, hsenders] at h
        | cons item rest => simp [ReceiveReporter.step, htask, Channel.take, hbuffer] at h
    | collected =>
      simp only [ReceiveReporter.step, htask, Option.some.injEq, Prod.mk.injEq] at h
      obtain ⟨rfl, rfl⟩ := h
      cases ended with
      | true =>
        simp only [remaining, htask]
        split <;> simp
      | false =>
        simp only [remaining, htask]
        split
        · simp
        · simp
  | returned =>
    cases e <;> simp [ReceiveReporter.step, htask] at h

/-- Until it has returned, the receive reporter has a step. -/
theorem Sound.exists_receive (hl : l.Sound n) (habandoned : l.abandoned = true)
    (hreturned : l.receiver.isReturned = false) :
    ∃ e, (l.receiver.step l.channel e).isSome := by
  have hsenders : l.channel.senders = 0 := by simpa [habandoned] using hl.senders
  cases htask : l.receiver.task with
  | idle =>
    refine ⟨.stream, ?_⟩
    cases hclosed : l.receiver.isClosed <;> simp [ReceiveReporter.step, htask, hclosed]
  | collecting yielded ended =>
    cases ended with
    | true => exact ⟨.collected, by simp [ReceiveReporter.step, htask]⟩
    | false =>
      refine ⟨.poll, ?_⟩
      cases hbuffer : l.channel.buffer with
      | nil => simp [ReceiveReporter.step, htask, Channel.take, hbuffer, hsenders]
      | cons item rest => simp [ReceiveReporter.step, htask, Channel.take, hbuffer]
  | returned => simp [ReceiveReporter.isReturned, htask] at hreturned

end Line

namespace ReportingEvent

variable {Status : Type}

/-- A step of the receive reporter of the kind. -/
def isReceive (k : Kind) : ReportingEvent Status → Bool
  | .receive k' _ => decide (k' = k)
  | .pipeline _ => false

/-- The end of a `collect` of the kind. -/
def isCollected (k : Kind) : ReportingEvent Status → Bool
  | .receive k' .collected => decide (k' = k)
  | _ => false

end ReportingEvent

namespace Reporting

variable {Status : Type} {s s' t : Reporting Status} {e : ReportingEvent Status}
  {es fs : List (ReportingEvent Status)}

/-- After the worker has gone a line changes by the steps of its receive reporter only. -/
theorem step_line_of_dropped (hdropped : s.pipeline.worker.work.isDropped = true)
    (h : s.step e = some s') (k : Kind) :
    s'.pipeline.worker.work.isDropped = true ∧
      ((∃ e' receiver channel, e = .receive k e' ∧
          (s.receiver k).step (s.channel k) e' = some (receiver, channel) ∧
          s'.line k = { s.line k with receiver := receiver, channel := channel }) ∨
        e.isReceive k = false ∧ e.isCollected k = false ∧ s'.line k = s.line k) := by
  cases e with
  | receive k' e =>
    obtain ⟨⟨receiver, channel⟩, hstep, rfl⟩ := Option.map_eq_some_iff.1 h
    refine ⟨hdropped, ?_⟩
    by_cases hk : k' = k
    · subst hk
      exact Or.inl ⟨e, receiver, channel, rfl, hstep, by
        simp [line, setReceiver, setChannel, Reporting.channel]⟩
    · refine Or.inr ⟨by simp [ReportingEvent.isReceive, hk], ?_, ?_⟩
      · cases e <;> simp [ReportingEvent.isCollected, hk]
      · simp [line, setReceiver, setChannel, Reporting.channel, Function.update_of_ne (Ne.symm hk)]
  | pipeline e =>
    obtain ⟨p, hp, rfl⟩ := Option.map_eq_some_iff.1 h
    have hworker : p.worker.sink = s.pipeline.worker.sink ∧ p.worker.work.isDropped = true := by
      cases Pipeline.step_effect hp with
      | took loop hwork => simp [hwork, WorkFut.isDropped] at hdropped
      | foundEmpty hwork => simp [hwork, WorkFut.isDropped] at hdropped
      | ended hwork => simp [hwork, WorkFut.isDropped] at hdropped
      | disconnected hwork => simp [hwork, WorkFut.isDropped] at hdropped
      | worker e w hown hstay =>
        cases hown with
        | recvShutdown hwork => simp [hwork, WorkFut.isDropped] at hdropped
        | report answer loop item hwork => simp [hwork, WorkFut.isDropped] at hdropped
        | reported loop hwork => simp [hwork, WorkFut.isDropped] at hdropped
        | storeClosing hwork => simp [hwork, WorkFut.isDropped] at hdropped
        | dropLocals => exact absurd rfl hstay
        | signal => exact ⟨rfl, hdropped⟩
      | dropLocals w hown =>
        cases hown with
        | dropLocals result hwork => simp [hwork, WorkFut.isDropped] at hdropped
      | _ => exact ⟨rfl, hdropped⟩
    refine ⟨hworker.2, Or.inr ⟨rfl, rfl, ?_⟩⟩
    simp only [line, Reporting.channel, hworker.1, hworker.2, hdropped]

/-- From every state of a run in which the worker has gone, the receive reporter of a kind takes no
more steps than one for each item in its channel, five, and two for each `collect` that returns
meanwhile. Where no receive reporter can take a step, the join handle has the result of the worker.
-/
theorem draining_terminates {capacity : Option Nat} (hrun : run (new capacity) es = some s)
    (hdropped : s.pipeline.worker.work.isDropped = true) (hrest : run s fs = some t) :
    (∀ k, fs.countP (ReportingEvent.isReceive k) ≤ (s.channel k).buffer.length + 5 +
        2 * fs.countP (ReportingEvent.isCollected k)) ∧
      ((∀ k e, t.step (.receive k e) = none) → t.joined = t.pipeline.worker.result) := by
  have hsound := run_sound (fun k => sound_new capacity k) hrun
  have hinv : ∀ k, (∀ k, (t.line k).Sound channelCapacity) ∧
      t.pipeline.worker.work.isDropped = true ∧
      (t.line k).remaining + fs.countP (ReportingEvent.isReceive k) ≤
        (s.line k).remaining + 2 * fs.countP (ReportingEvent.isCollected k) := by
    intro k
    refine Execution.run_history
      (I := fun gs (u : Reporting Status) => (∀ k, (u.line k).Sound channelCapacity) ∧
        u.pipeline.worker.work.isDropped = true ∧
        (u.line k).remaining + gs.countP (ReportingEvent.isReceive k) ≤
          (s.line k).remaining + 2 * gs.countP (ReportingEvent.isCollected k))
      ⟨hsound, hdropped, by simp⟩ ?_ hrest
    rintro gs a b e ⟨hs, hgone, hle⟩ hstep
    obtain ⟨hgone', hline⟩ := step_line_of_dropped hgone hstep k
    refine ⟨step_sound hs hstep, hgone', ?_⟩
    rw [List.countP_append, List.countP_append, List.countP_singleton, List.countP_singleton]
    rcases hline with ⟨e', receiver, channel, rfl, hreceive, hline⟩ | ⟨hnot, hnot', hline⟩
    · have hstep' := (hs k).remaining_step hgone hreceive
      rw [hline]
      cases e' <;>
        simp only [ReportingEvent.isReceive, ReportingEvent.isCollected, decide_true, if_true,
          reduceCtorEq, if_false, Bool.false_eq_true] at hstep' ⊢ <;> omega
    · rw [hline, hnot, hnot']
      simpa using hle
  refine ⟨fun k => ?_, fun hstuck => ?_⟩
  · have hle := (hinv k).2.2
    have hstart := (s.line k).remaining_le
    simp only [line] at hstart hle
    omega
  · have hreturned : ∀ k, (t.receiver k).isReturned = true := by
      intro k
      by_contra hnot
      obtain ⟨e, he⟩ := ((hinv k).1 k).exists_receive (hinv k).2.1 (Bool.eq_false_iff.2 hnot)
      have hnone := hstuck k e
      rw [step, Option.map_eq_none_iff] at hnone
      rw [show (t.line k).receiver.step (t.line k).channel e = none from hnone] at he
      cases he
    simp [joined, hreturned]

/-- One segment is flushed, and the worker is gone. -/
def flushedRun : List (ReportingEvent String) :=
  queueing 1 ++ .pipeline (.worker .storeClosing) :: flushing 1

theorem draining_terminates_one :
    ∃ s t, run (new none) flushedRun = some s ∧ (s.channel .trace).buffer.length = 1 ∧
      run s (drainingAll 1) = some t ∧
      (drainingAll 1).countP (ReportingEvent.isReceive .trace) ≤ (s.channel .trace).buffer.length +
        5 + 2 * (drainingAll 1).countP (ReportingEvent.isCollected .trace) := by
  have hrun : ∃ s, run (new none) flushedRun = some s ∧ (s.channel .trace).buffer.length = 1 ∧
      s.pipeline.worker.work.isDropped = true ∧ ∃ t, run s (drainingAll 1) = some t :=
    ⟨_, rfl, rfl, rfl, _, rfl⟩
  obtain ⟨s, hrun, hlength, hdropped, t, hrest⟩ := hrun
  exact ⟨s, t, hrun, hlength, hrest, (draining_terminates hrun hdropped hrest).1 .trace⟩

/-- The flag of a receive reporter is set by a poll that finds the channel drained and without its
sender. -/
theorem polled_of_isClosed {k : Kind} (h : s.step e = some s')
    (hopen : (s.receiver k).isClosed = false) (hclosed : (s'.receiver k).isClosed = true) :
    e = .receive k .poll ∧ (s.channel k).take = .disconnected := by
  cases e with
  | pipeline e =>
    obtain ⟨p, -, rfl⟩ := Option.map_eq_some_iff.1 h
    exact absurd hclosed (by simp [hopen])
  | receive k' e =>
    obtain ⟨⟨receiver, channel⟩, hstep, rfl⟩ := Option.map_eq_some_iff.1 h
    by_cases hk : k' = k
    · subst hk
      have hreceiver : receiver.isClosed = true := by
        simpa [setReceiver, setChannel] using hclosed
      obtain ⟨rfl, htake⟩ := ReceiveReporter.polled_of_isClosed hstep hopen hreceiver
      exact ⟨rfl, htake⟩
    · simp [setReceiver, setChannel, Function.update_of_ne (Ne.symm hk), hopen] at hclosed

/-- One round of a receive reporter whose `collect` returns before it polls the stream. -/
def refusedRound (k : Kind) : List (ReportingEvent Status) :=
  [.receive k .stream, .receive k .collected]

theorem run_refusedRounds {k : Kind} (hidle : (s.receiver k).task = .idle)
    (hopen : (s.receiver k).isClosed = false) (n : Nat) :
    ∃ t, run s (List.replicate n (refusedRound k)).flatten = some t ∧
      (t.receiver k).task = .idle := by
  induction n generalizing s with
  | zero => exact ⟨s, rfl, hidle⟩
  | succ n ih =>
    have hround : run s (refusedRound k) = some ((s.setReceiver k ⟨false,
        (s.receiver k).finished ++ [[]], .idle⟩).setChannel k (s.channel k)) := by
      simp [refusedRound, run, Execution.run, step, ReceiveReporter.step, hidle, hopen,
        setReceiver, setChannel, channel]
    obtain ⟨t, ht, htask⟩ := ih (s := (s.setReceiver k ⟨false, (s.receiver k).finished ++ [[]],
      .idle⟩).setChannel k (s.channel k)) (by simp [setReceiver, setChannel])
      (by simp [setReceiver, setChannel])
    refine ⟨t, ?_, htask⟩
    rw [List.replicate_succ, List.flatten_cons]
    exact Execution.run_append_iff.2 ⟨_, hround, ht⟩

/-- The join handle is ready only after each kind has had a stream that was polled once the worker
had gone and everything in the channel was yielded. A receive reporter whose `collect` keeps
returning before that goes round as often as it likes without an end. -/
theorem joined_polled {capacity : Option Nat} (hrun : run (new capacity) es = some s) :
    (∀ r, s.joined = some r → ∀ k, ∃ pre post a, es = pre ++ .receive k .poll :: post ∧
        run (new capacity) pre = some a ∧ a.pipeline.worker.work.isDropped = true ∧
        (a.channel k).buffer = []) ∧
      ∀ k, (s.receiver k).task = .idle → (s.receiver k).isClosed = false → ∀ n, ∃ t,
        run s (List.replicate n (refusedRound k)).flatten = some t ∧ t.joined = none := by
  refine ⟨fun r hjoin k => ?_, fun k hidle hopen n => ?_⟩
  · have hreturned := (joined_eq_ok hjoin).2 k
    have hclosed := (run_sound (fun k => sound_new capacity k) hrun k).returned hreturned
    obtain ⟨pre, e, post, a, b, rfl, hpre, hopen, hstep, hset, -⟩ :=
      Execution.run_raises (p := fun u : Reporting Status => (u.receiver k).isClosed) hrun rfl
        hclosed
    obtain ⟨rfl, htake⟩ := polled_of_isClosed hstep hopen hset
    have hsound := run_sound (fun k => sound_new capacity k) hpre k
    obtain ⟨hbuffer, hsenders⟩ := Channel.take_eq_disconnected_iff.1 htake
    refine ⟨pre, post, a, rfl, hpre, ?_, hbuffer⟩
    by_contra hheld
    have hone := hsound.senders
    rw [show (a.line k).abandoned = false from Bool.eq_false_iff.2 hheld] at hone
    rw [show (a.line k).channel.senders = 0 from hsenders] at hone
    cases hone
  · obtain ⟨t, ht, htask⟩ := run_refusedRounds hidle hopen n
    refine ⟨t, ht, ?_⟩
    cases hjoin : t.joined with
    | none => rfl
    | some r =>
      have hreturned := (joined_eq_ok hjoin).2 k
      rw [ReceiveReporter.isReturned, htask] at hreturned
      cases hreturned

theorem joined_polled_flushed :
    (∃ pre post a, flushedRun ++ drainingAll 1 = pre ++ .receive .trace .poll :: post ∧
      run (new none) pre = some a ∧ a.pipeline.worker.work.isDropped = true ∧
      (a.channel .trace).buffer = []) ∧
    ∃ s, run (new none) flushedRun = some s ∧
      ∃ t, run s (List.replicate 3 (refusedRound .log)).flatten = some t ∧ t.joined = none := by
  have hjoined : ∃ s, run (new none) (flushedRun ++ drainingAll 1) = some s ∧
      s.joined = some (.ok ()) := ⟨_, rfl, rfl⟩
  have hidle : ∃ s, run (new none) flushedRun = some s ∧ (s.receiver .log).task = .idle ∧
      (s.receiver .log).isClosed = false := ⟨_, rfl, rfl, rfl⟩
  obtain ⟨s, hrun, hjoin⟩ := hjoined
  obtain ⟨s', hrun', htask, hopen⟩ := hidle
  exact ⟨(joined_polled hrun).1 _ hjoin .trace, s', hrun',
    (joined_polled hrun').2 .log htask hopen 3⟩

end Reporting

end SkywalkingAgent.Reporter
