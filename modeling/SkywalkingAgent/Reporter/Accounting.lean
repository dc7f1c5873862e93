import SkywalkingAgent.Reporter.Streams
import Mathlib.Data.List.Perm.Basic

/-!
# Where the items are

At every moment each item that was passed to `report` is in one place: with a call that was refused,
that waits, that has failed or that has panicked, accepted and not taken by the worker, in its
hands, or where the sink has put it (`Pipeline.calls_accounted`, and `Reporting.items_accounted` for
the streams of the gRPC reporter). Two calls of which one is over before the other begins go through
in this order.
-/

set_option autoImplicit false

namespace SkywalkingAgent.Reporter

open SkywalkingAgent.Lib SkywalkingAgent.Proto

/-! ## The calls by their status -/

/-- The channel has taken the item. -/
def CallStatus.isAccepted : CallStatus → Bool
  | .accepted _ => true
  | _ => false

section Calls

variable {α : Type}

/-- The items of the calls whose status satisfies `p`. -/
def itemsOf (p : CallStatus → Bool) (calls : List (ReportCall α)) : List α :=
  (calls.filter fun call => p call.status).map fun call => call.item

variable {p : CallStatus → Bool} {calls : List (ReportCall α)}

theorem itemsOf_concat (call : ReportCall α) :
    itemsOf p (calls ++ [call]) = itemsOf p calls ++ if p call.status then [call.item] else [] := by
  rw [itemsOf, itemsOf, List.filter_append, List.map_append]
  cases hp : p call.status with
  | true => simp [hp]
  | false => simp [hp]

/-- A call gets another status. -/
theorem itemsOf_set {call : Nat} {item : α} (status : CallStatus)
    (hcall : calls[call]? = some ⟨item, .checked⟩) :
    (itemsOf p (calls.set call ⟨item, status⟩) ++ if p .checked then [item] else []).Perm
      (itemsOf p calls ++ if p status then [item] else []) := by
  obtain ⟨hlt, hget⟩ := List.getElem?_eq_some_iff.1 hcall
  have hset := ((List.set_perm_cons_eraseIdx hlt ⟨item, status⟩).filter
    fun call => p call.status).map fun call => call.item
  have hself := ((List.getElem_cons_eraseIdx_perm hlt).filter
    fun call => p call.status).map fun call => call.item
  rw [hget] at hself
  -- both are the other calls, with the item where its status counts
  have hsplit : ∀ st : CallStatus,
      (((⟨item, st⟩ :: calls.eraseIdx call).filter fun call => p call.status).map
        fun call => call.item) =
      (if p st then [item] else []) ++ itemsOf p (calls.eraseIdx call) := by
    intro st
    cases hp : p st with
    | true => simp [itemsOf, hp]
    | false => simp [itemsOf, hp]
  rw [hsplit] at hset hself
  refine (hset.append_right _).trans ?_
  refine List.Perm.trans ?_ (hself.append_right _)
  rw [List.append_assoc, List.append_assoc]
  exact (List.perm_append_comm.append_left _).trans
    ((List.perm_append_comm_assoc _ _ _).trans (List.perm_append_comm.append_left _).symm)

theorem itemsOf_cons (call : ReportCall α) :
    itemsOf p (call :: calls) = (if p call.status then [call.item] else []) ++ itemsOf p calls := by
  cases hp : p call.status with
  | true => simp [itemsOf, hp]
  | false => simp [itemsOf, hp]

/-- The new status counts as the old one did. -/
theorem itemsOf_set_of_eq {call : Nat} {item : α} {status status' : CallStatus}
    (hcall : calls[call]? = some ⟨item, status⟩) (hsame : p status' = p status) :
    itemsOf p (calls.set call ⟨item, status'⟩) = itemsOf p calls := by
  induction calls generalizing call with
  | nil => rfl
  | cons c calls ih =>
    cases call with
    | zero =>
      obtain rfl := Option.some.inj hcall
      simp [itemsOf_cons, hsame]
    | succ call => simp [itemsOf_cons, ih hcall]

/-- Each call has one status. -/
theorem calls_perm (calls : List (ReportCall α)) :
    (calls.map fun call => call.item).Perm (itemsOf (fun status => status = .refused) calls ++
      (itemsOf (fun status => status = .checked) calls ++
      (itemsOf (fun status => status = .failed) calls ++
      (itemsOf (fun status => status = .panicked) calls ++
      itemsOf CallStatus.isAccepted calls)))) := by
  induction calls with
  | nil => exact List.Perm.nil
  | cons call calls ih =>
    obtain ⟨item, status⟩ := call
    simp only [List.map_cons, itemsOf_cons]
    cases status with
    | refused => exact ih.cons item
    | checked => exact (ih.cons item).trans List.perm_middle.symm
    | failed =>
      refine (ih.cons item).trans (List.perm_middle.symm.trans ?_)
      exact List.perm_middle.symm.append_left _
    | panicked =>
      refine (ih.cons item).trans (List.perm_middle.symm.trans ?_)
      refine (List.perm_middle.symm.trans ?_).append_left _
      exact List.perm_middle.symm.append_left _
    | accepted position =>
      refine (ih.cons item).trans (List.perm_middle.symm.trans ?_)
      refine (List.perm_middle.symm.trans ?_).append_left _
      refine (List.perm_middle.symm.trans ?_).append_left _
      exact List.perm_middle.symm.append_left _

end Calls

namespace Pipeline

variable {σ α ω : Type} {sink : Sink σ α ω} {s s' : Pipeline σ α} {e : PipelineEvent α ω}
  {es : List (PipelineEvent α ω)}

/-! ## Accepted items -/

/-- The accepted items are those that were enqueued. -/
def Enrolled (s : Pipeline σ α) : Prop :=
  (itemsOf CallStatus.isAccepted s.calls).Perm s.enqueued

theorem Enrolled.step (hs : s.Enrolled) (h : s.step sink e = some s') : s'.Enrolled := by
  cases step_effect h with
  | report item =>
    have hsame : itemsOf CallStatus.isAccepted (s.report item).calls =
        itemsOf CallStatus.isAccepted s.calls := by
      rw [report, itemsOf_concat]
      cases s.worker.isClosing <;> simp [CallStatus.isAccepted]
    exact (List.Perm.of_eq hsame).trans hs
  | accepted call item hcall hreceiving =>
    have hset := itemsOf_set (p := CallStatus.isAccepted) (.accepted s.enqueued.length) hcall
    simp only [CallStatus.isAccepted, Bool.false_eq_true, if_false, if_true,
      List.append_nil] at hset
    exact hset.trans (hs.append_right [item])
  | failed call item hcall hclosed =>
    have hset := itemsOf_set (p := CallStatus.isAccepted) .failed hcall
    simp only [CallStatus.isAccepted, Bool.false_eq_true, if_false, List.append_nil] at hset
    exact hset.trans hs
  | panicked call item hcall hbounded =>
    have hset := itemsOf_set (p := CallStatus.isAccepted) .panicked hcall
    simp only [CallStatus.isAccepted, Bool.false_eq_true, if_false, List.append_nil] at hset
    exact hset.trans hs
  | worker e w hown hstay => exact hs
  | dropLocals w hown => exact hs
  | _ => exact hs

theorem run_enrolled (hs : s.Enrolled) (hrun : run sink s es = some s') : s'.Enrolled :=
  Execution.run_invariant hs (fun _ _ _ h hstep => h.step hstep) hrun

/-- A call is accepted once, at the end of the queue. -/
theorem step_accepted (h : s.step sink e = some s') {c n : Nat} {item : α} :
    (s.calls[c]? = some ⟨item, .accepted n⟩ → s'.calls[c]? = some ⟨item, .accepted n⟩) ∧
      (s'.calls[c]? = some ⟨item, .accepted n⟩ →
        s.calls[c]? = some ⟨item, .accepted n⟩ ∨ s.enqueued.length ≤ n) := by
  cases step_effect h with
  | report x =>
    have hnew : ∀ n, (if s.worker.isClosing then CallStatus.refused else .checked) ≠
        .accepted n := by
      intro n
      cases s.worker.isClosing <;> simp
    exact ⟨(getElem?_concat_accepted hnew).2, fun h => Or.inl ((getElem?_concat_accepted hnew).1 h)⟩
  | accepted call x hcall hreceiving =>
    refine ⟨fun h => (getElem?_set_accepted hcall).2 (Or.inr h), fun h => ?_⟩
    rcases (getElem?_set_accepted hcall).1 h with ⟨-, -, hstatus⟩ | hold
    · exact Or.inr (Nat.le_of_eq (CallStatus.accepted.inj hstatus))
    · exact Or.inl hold
  | failed call x hcall hclosed =>
    refine ⟨fun h => (getElem?_set_accepted hcall).2 (Or.inr h), fun h => ?_⟩
    rcases (getElem?_set_accepted hcall).1 h with ⟨-, -, hstatus⟩ | hold
    · cases hstatus
    · exact Or.inl hold
  | panicked call x hcall hbounded =>
    refine ⟨fun h => (getElem?_set_accepted hcall).2 (Or.inr h), fun h => ?_⟩
    rcases (getElem?_set_accepted hcall).1 h with ⟨-, -, hstatus⟩ | hold
    · cases hstatus
    · exact Or.inl hold
  | worker e w hown hstay => exact ⟨id, Or.inl⟩
  | dropLocals w hown => exact ⟨id, Or.inl⟩
  | _ => exact ⟨id, Or.inl⟩

/-- What is accepted during a run comes behind what was enqueued before it. -/
theorem run_accepted (hrun : run sink s es = some s') {c n : Nat} {item : α} :
    (s.calls[c]? = some ⟨item, .accepted n⟩ → s'.calls[c]? = some ⟨item, .accepted n⟩) ∧
      (s'.calls[c]? = some ⟨item, .accepted n⟩ →
        s.calls[c]? = some ⟨item, .accepted n⟩ ∨ s.enqueued.length ≤ n) := by
  have hinv : s.enqueued.length ≤ s'.enqueued.length ∧
      (s.calls[c]? = some ⟨item, .accepted n⟩ → s'.calls[c]? = some ⟨item, .accepted n⟩) ∧
      (s'.calls[c]? = some ⟨item, .accepted n⟩ →
        s.calls[c]? = some ⟨item, .accepted n⟩ ∨ s.enqueued.length ≤ n) := by
    refine Execution.run_invariant (I := fun t : Pipeline σ α =>
      s.enqueued.length ≤ t.enqueued.length ∧
        (s.calls[c]? = some ⟨item, .accepted n⟩ → t.calls[c]? = some ⟨item, .accepted n⟩) ∧
        (t.calls[c]? = some ⟨item, .accepted n⟩ →
          s.calls[c]? = some ⟨item, .accepted n⟩ ∨ s.enqueued.length ≤ n))
      ⟨Nat.le_refl _, id, Or.inl⟩ ?_ hrun
    rintro a b e ⟨hle, hkeep, hback⟩ hstep
    obtain ⟨hkeep', hback'⟩ := step_accepted hstep
    refine ⟨Nat.le_trans hle (enqueued_prefix_step hstep).length_le, fun h => hkeep' (hkeep h),
      fun h => ?_⟩
    rcases hback' h with hold | hnew
    · exact hback hold
    · exact Or.inr (Nat.le_trans hle hnew)
  exact hinv.2

/-! ## Every call -/

/-- The items that were enqueued and that the worker has not taken. -/
def untaken (s : Pipeline σ α) : List α := s.enqueued.drop s.worker.taken.length

theorem Conserved.enqueued_eq (hs : s.Conserved) :
    s.enqueued = s.worker.handed ++ (s.worker.inHand ++ s.untaken) := by
  obtain ⟨rest, hrest⟩ := hs.taken
  rw [untaken, ← hrest, List.drop_left, ← List.append_assoc]
  rfl

/-- The items of the calls, with those that were accepted as far as they have come. -/
theorem run_calls_perm {capacity : Option Nat} {sink₀ : σ}
    (hrun : run sink (new capacity sink₀) es = some s) :
    (s.calls.map fun call => call.item).Perm (itemsOf (fun status => status = .refused) s.calls ++
      (itemsOf (fun status => status = .checked) s.calls ++
      (itemsOf (fun status => status = .failed) s.calls ++
      (itemsOf (fun status => status = .panicked) s.calls ++
        (s.worker.handed ++ (s.worker.inHand ++ s.untaken)))))) := by
  have henrolled : s.Enrolled := run_enrolled (s := new capacity sink₀) List.Perm.nil hrun
  refine (calls_perm s.calls).trans ?_
  rw [← (run_conserved (conserved_new capacity sink₀) hrun).enqueued_eq]
  exact (((henrolled.append_left _).append_left _).append_left _).append_left _

/-- A call that begins after another one was accepted is accepted behind it. -/
theorem position_lt {s₀ s₁ : Pipeline σ α} (hs₀ : s₀.Indexed) {pre post : List (PipelineEvent α ω)}
    (hpre : run sink s₀ pre = some s₁) (hpost : run sink s₁ post = some s) {c₁ c₂ n₁ n₂ : Nat}
    {x₁ x₂ : α} (hfirst : s₁.calls[c₁]? = some ⟨x₁, .accepted n₁⟩) (hlater : s₁.calls.length ≤ c₂)
    (hsecond : s.calls[c₂]? = some ⟨x₂, .accepted n₂⟩) : n₁ < n₂ := by
  have hposition := (run_indexed hs₀ hpre).position c₁ x₁ n₁ hfirst
  have hlt : n₁ < s₁.enqueued.length := (List.getElem?_eq_some_iff.1 hposition).1
  rcases (run_accepted hpost).2 hsecond with hold | hnew
  · rw [List.getElem?_eq_none hlater] at hold
    cases hold
  · exact Nat.lt_of_lt_of_le hlt hnew

/-- At every moment of every run the items passed to `report` are those that were refused because
the reporter was closing, those that wait for their call to go on, those that failed, those whose
`produce` has panicked, and those that the worker has passed to the sink, has in its hands, or has
not taken; while its receiver lives the last ones are what the channel holds, and afterwards they
are lost. If a call had been accepted before another one began, it stays before it in the queue. -/
theorem calls_accounted (sink : Sink σ α ω) (capacity : Option Nat) (sink₀ : σ)
    (hrun : run sink (new capacity sink₀) es = some s) :
    (s.calls.map fun call => call.item).Perm (itemsOf (fun status => status = .refused) s.calls ++
      (itemsOf (fun status => status = .checked) s.calls ++
      (itemsOf (fun status => status = .failed) s.calls ++
      (itemsOf (fun status => status = .panicked) s.calls ++
        (s.worker.handed ++ (s.worker.inHand ++ s.untaken)))))) ∧
    (s.worker.work.isDropped = false → s.untaken = s.queue.buffer) ∧
    ∀ (pre post : List (PipelineEvent α ω)) (s₁ : Pipeline σ α), es = pre ++ post →
      run sink (new capacity sink₀) pre = some s₁ →
      ∀ (c₁ c₂ : Nat) (x₁ x₂ : α) (n₁ n₂ : Nat),
        s₁.calls[c₁]? = some ⟨x₁, .accepted n₁⟩ → s₁.calls.length ≤ c₂ →
        s.calls[c₂]? = some ⟨x₂, .accepted n₂⟩ →
        s.calls[c₁]? = some ⟨x₁, .accepted n₁⟩ ∧ n₁ < n₂ ∧ s.enqueued[n₁]? = some x₁ ∧
          s.enqueued[n₂]? = some x₂ := by
  have hconserved := run_conserved (conserved_new capacity sink₀) hrun
  have hindexed := run_indexed (indexed_new capacity sink₀) hrun
  refine ⟨run_calls_perm hrun, fun halive => ?_, ?_⟩
  · have hqueued := hconserved.queued (by rw [hconserved.receiving, halive]; rfl)
    rw [untaken, hqueued, List.drop_left]
  · rintro pre post s₁ rfl hpre c₁ c₂ x₁ x₂ n₁ n₂ hfirst hlater hsecond
    obtain ⟨s₁', hs₁', hpost⟩ := Execution.run_append_iff.1 hrun
    obtain rfl := Option.some.inj (hpre.symm.trans hs₁')
    have hkept := (run_accepted hpost).1 hfirst
    exact ⟨hkept, position_lt (indexed_new capacity sink₀) hpre hpost hfirst hlater hsecond,
      hindexed.position c₁ x₁ n₁ hkept, hindexed.position c₂ x₂ n₂ hsecond⟩

/-- One call is accepted and taken before a second one begins, and a third one is refused. -/
def accountedBefore : List (PipelineEvent CollectItem (Except String Unit)) :=
  [.report (sampleItem 0), .produce 0, .ask .consume]

/-- The rest of the run, in which the worker sets `is_closing`. -/
def accountedAfter : List (PipelineEvent CollectItem (Except String Unit)) :=
  [.report (sampleItem 1), .produce 1, .worker (.report (.ok ())), .worker .reported,
    .worker .signal, .worker .recvShutdown, .worker .storeClosing, .report (sampleItem 2)]

theorem calls_accounted_three :
    ∃ s, run InnerReportSender.sink grpcStart (accountedBefore ++ accountedAfter) = some s ∧
      itemsOf (fun status => status = .refused) s.calls = [sampleItem 2] ∧
      s.worker.handed = [sampleItem 0] ∧ s.untaken = s.queue.buffer ∧
      s.enqueued[0]? = some (sampleItem 0) ∧ s.enqueued[1]? = some (sampleItem 1) := by
  have hrun : run InnerReportSender.sink grpcStart (accountedBefore ++ accountedAfter) = some _ :=
    rfl
  obtain ⟨-, hqueued, horder⟩ := calls_accounted InnerReportSender.sink none .new hrun
  obtain ⟨-, -, hfirst, hsecond⟩ := horder accountedBefore accountedAfter _ rfl rfl 0 1
    (sampleItem 0) (sampleItem 1) 0 1 rfl (by decide) rfl
  exact ⟨_, rfl, rfl, rfl, hqueued rfl, hfirst, hsecond⟩

end Pipeline

namespace Reporting

variable {Status : Type} {s : Reporting Status} {es : List (ReportingEvent Status)}

/-! ## The streams of the gRPC reporter -/

theorem payloads_append (k : Kind) (items more : List CollectItem) :
    payloads k (items ++ more) = payloads k items ++ payloads k more :=
  List.filterMap_append

/-- The offers that the channel took and those that it refused. -/
theorem offers_perm {α : Type} (offers : List (α × Bool)) :
    (offers.map Prod.fst).Perm (taken offers ++ refused offers) := by
  have hsplit := (List.filter_append_perm (fun offer : α × Bool => offer.2) offers).map Prod.fst
  rw [List.map_append] at hsplit
  exact hsplit.symm

theorem taken_sublist {α : Type} (offers : List (α × Bool)) :
    (taken offers).Sublist (offers.map Prod.fst) :=
  List.filter_sublist.map Prod.fst

/-- Where the payloads of a kind can be: with a call of `report` that was refused, that waits, that
has failed or that has panicked; yielded by a stream or in the channel; with `err_handle`; in the
hands of the worker; or accepted and not taken, which is in the queue while it has its receiver. -/
def places (k : Kind) (s : Reporting Status) : List k.Payload :=
  payloads k (itemsOf (fun status => status = .refused) s.pipeline.calls) ++
  (payloads k (itemsOf (fun status => status = .checked) s.pipeline.calls) ++
  (payloads k (itemsOf (fun status => status = .failed) s.pipeline.calls) ++
  (payloads k (itemsOf (fun status => status = .panicked) s.pipeline.calls) ++
  (((s.receiver k).yielded ++ (s.channel k).buffer) ++ s.handled k ++
    (payloads k s.pipeline.worker.inHand ++ payloads k s.pipeline.untaken)))))

theorem run_places {capacity : Option Nat} (hrun : run (new capacity) es = some s) (k : Kind) :
    (payloads k (s.pipeline.calls.map fun call => call.item)).Perm (s.places k) := by
  have hforget : Pipeline.run Worker.noSink (Pipeline.new capacity ()) (pipelineEvents es) =
      some s.pipeline.forget := run_forget hrun
  obtain ⟨hhanded, hflow, hhandled⟩ := run_moved hrun k
  have hflow' : (s.receiver k).yielded ++ (s.channel k).buffer = taken (sends capacity k es) :=
    hflow
  have hperm := (Pipeline.run_calls_perm hforget).filterMap k.payload?
  simp only [List.filterMap_append] at hperm
  refine hperm.trans (List.Perm.append_left _ (List.Perm.append_left _ (List.Perm.append_left _
    (List.Perm.append_left _ (List.Perm.append_right _ ?_)))))
  rw [hflow', hhandled]
  exact (List.Perm.of_eq hhanded).trans (offers_perm _)

/-- What the worker has passed on was enqueued first. -/
theorem run_handed_enqueued {capacity : Option Nat} (hrun : run (new capacity) es = some s) :
    s.pipeline.worker.handed <+: s.pipeline.enqueued := by
  have hforget : Pipeline.run Worker.noSink (Pipeline.new capacity ()) (pipelineEvents es) =
      some s.pipeline.forget := run_forget hrun
  have hconserved := Pipeline.run_conserved (Pipeline.conserved_new capacity ()) hforget
  exact ⟨_, hconserved.enqueued_eq.symm⟩

/-- The streams and the channels keep the order of the queue. -/
theorem run_line_sublist {capacity : Option Nat} (hrun : run (new capacity) es = some s)
    (k : Kind) :
    ((s.receiver k).yielded ++ (s.channel k).buffer).Sublist (payloads k s.pipeline.enqueued) := by
  obtain ⟨hhanded, hflow, -⟩ := run_moved hrun k
  have hflow' : (s.receiver k).yielded ++ (s.channel k).buffer = taken (sends capacity k es) :=
    hflow
  rw [hflow']
  refine (taken_sublist _).trans ?_
  rw [← hhanded]
  exact (run_handed_enqueued hrun).sublist.filterMap k.payload?

/-- At every moment of every run of the gRPC reporter and for each kind, the payloads passed to
`report` are those of the calls that were refused, that wait, that failed and that panicked; those
that were given back to `err_handle`; those that the streams have yielded and that are in the
channel; and those that the worker has in its hands or that were accepted and it has not taken. What
the streams have yielded, followed by what is in the channel, is in the order in which the queue
accepted it. -/
theorem items_accounted {capacity : Option Nat} (hrun : run (new capacity) es = some s)
    (k : Kind) :
    (payloads k (s.pipeline.calls.map fun call => call.item)).Perm
      (payloads k (itemsOf (fun status => status = .refused) s.pipeline.calls) ++
      (payloads k (itemsOf (fun status => status = .checked) s.pipeline.calls) ++
      (payloads k (itemsOf (fun status => status = .failed) s.pipeline.calls) ++
      (payloads k (itemsOf (fun status => status = .panicked) s.pipeline.calls) ++
      (((s.receiver k).yielded ++ (s.channel k).buffer) ++ s.handled k ++
        (payloads k s.pipeline.worker.inHand ++ payloads k s.pipeline.untaken)))))) ∧
    ((s.receiver k).yielded ++ (s.channel k).buffer).Sublist (payloads k s.pipeline.enqueued) :=
  ⟨run_places hrun k, run_line_sublist hrun k⟩

/-- A stream that yields one segment, and a second segment that waits in the channel. -/
theorem items_accounted_restarting :
    ∃ s, run (new none) restarting = some s ∧
      ((s.receiver .trace).yielded ++ (s.channel .trace).buffer).Sublist
        (payloads .trace s.pipeline.enqueued) := by
  have hrun : ∃ s, run (new none) restarting = some s := ⟨_, rfl⟩
  obtain ⟨s, hrun⟩ := hrun
  exact ⟨s, hrun, (items_accounted hrun .trace).2⟩

end Reporting

/-! ## The records of the Kafka reporter -/

namespace KafkaProducer

variable {KafkaError : Type}

/-- The record that `produce` sends for an item. -/
def recordOf (encodeToVec : CollectItem → List UInt8) (nameSpace : Option String)
    (item : CollectItem) : FutureRecord :=
  let (topic, key) := (new nameSpace : KafkaProducer Unit).address item
  ⟨topic, encodeToVec item, key⟩

/-- The error that the client answers with. -/
def error? (e : PipelineEvent CollectItem (Except KafkaError Unit)) : Option KafkaError :=
  match e with
  | .worker (.report (.error err)) => some err
  | _ => none

theorem address_eq {self : KafkaProducer KafkaError} {nameSpace : Option String}
    (hnames : self.topicNames = .new nameSpace) (item : CollectItem) :
    self.address item = (new nameSpace : KafkaProducer Unit).address item := by
  cases item <;> simp [address, hnames, new]

/-- What a producer has after the events `es`: a record for each item that it was passed, and a call
of `err_handle` for each error of the client. -/
structure Sent (encodeToVec : CollectItem → List UInt8) (nameSpace : Option String)
    (es : List (PipelineEvent CollectItem (Except KafkaError Unit)))
    (s : Pipeline (KafkaProducer KafkaError) CollectItem) : Prop where
  names : s.worker.sink.topicNames = .new nameSpace
  records : s.worker.sink.records = s.worker.handed.map (recordOf encodeToVec nameSpace)
  errors : s.worker.sink.errHandled =
    (es.filterMap error?).map fun err => ("Collect data to kafka failed", err)

variable {encodeToVec : CollectItem → List UInt8} {nameSpace : Option String}
  {s s' : Pipeline (KafkaProducer KafkaError) CollectItem}
  {e : PipelineEvent CollectItem (Except KafkaError Unit)}
  {es : List (PipelineEvent CollectItem (Except KafkaError Unit))}

/-- A step that passes nothing on. -/
theorem Sent.keep (hs : Sent encodeToVec nameSpace es s)
    (hsink : s'.worker.sink = s.worker.sink) (hhanded : s'.worker.handed = s.worker.handed)
    (herror : error? e = none) : Sent encodeToVec nameSpace (es ++ [e]) s' where
  names := by rw [hsink, hs.names]
  records := by rw [hsink, hhanded, hs.records]
  errors := by simp [hsink, hs.errors, herror]

theorem Sent.step (hs : Sent encodeToVec nameSpace es s)
    (h : KafkaReporting.spawn encodeToVec s e = some s') :
    Sent encodeToVec nameSpace (es ++ [e]) s' := by
  cases Pipeline.step_effect h with
  | worker e w hown hstay =>
    cases hown with
    | report answer loop item hwork =>
      have haddress := address_eq hs.names item
      cases answer with
      | ok u =>
        refine ⟨hs.names, ?_, ?_⟩
        · simp [sink, produce, recordOf, hs.records, haddress]
        · simp [sink, produce, hs.errors, error?]
      | error err =>
        refine ⟨hs.names, ?_, ?_⟩
        · simp [sink, produce, recordOf, hs.records, haddress]
        · simp [sink, produce, hs.errors, error?]
    | _ => exact hs.keep rfl rfl rfl
  | dropLocals w hown =>
    cases hown
    exact hs.keep rfl rfl rfl
  | _ => exact hs.keep rfl rfl rfl

theorem run_sent_records {capacity : Option Nat}
    (hrun : Execution.run (KafkaReporting.spawn encodeToVec) (.new capacity (.new nameSpace)) es =
      some s) : Sent encodeToVec nameSpace es s :=
  Execution.run_history (I := fun es s => Sent encodeToVec nameSpace es s) ⟨rfl, rfl, rfl⟩
    (fun _ _ _ _ h hstep => h.step hstep) hrun

/-- At every moment of every run of the Kafka reporter, whatever the client answers, one record was
sent for each item that the worker has passed on, and `err_handle` was called once for each error.
The records with one topic and key are those of the first accepted items with this topic and key, in
the order in which they were accepted. -/
theorem records_in_order {capacity : Option Nat}
    (hrun : Execution.run (KafkaReporting.spawn encodeToVec) (.new capacity (.new nameSpace)) es =
      some s) (topic key : String) :
    s.worker.sink.records.length = s.worker.handed.length ∧
      s.worker.sink.errHandled.length = (es.filterMap error?).length ∧
      s.worker.sink.records.filter (fun record => record.topic = topic ∧ record.key = key) <+:
        (s.enqueued.filter fun item =>
          (new nameSpace : KafkaProducer Unit).address item = (topic, key)).map fun item =>
            ⟨topic, encodeToVec item, key⟩ := by
  have hsent := run_sent_records hrun
  have hhanded : s.worker.handed <+: s.enqueued :=
    ⟨_, ((Pipeline.run_conserved (Pipeline.conserved_new capacity _) hrun).enqueued_eq).symm⟩
  refine ⟨by rw [hsent.records, List.length_map], by rw [hsent.errors, List.length_map], ?_⟩
  have hfilter : s.worker.sink.records.filter (fun record => record.topic = topic ∧
      record.key = key) = (s.worker.handed.filter fun item =>
        (new nameSpace : KafkaProducer Unit).address item = (topic, key)).map
          (recordOf encodeToVec nameSpace) := by
    rw [hsent.records, List.filter_map]
    refine congrArg _ (List.filter_congr fun item _ => ?_)
    rw [Bool.eq_iff_iff]
    simp only [Function.comp, decide_eq_true_eq, Prod.ext_iff]
    rfl
  rw [hfilter]
  have hrecord : ∀ item ∈ s.worker.handed.filter (fun item =>
      (new nameSpace : KafkaProducer Unit).address item = (topic, key)),
      recordOf encodeToVec nameSpace item = ⟨topic, encodeToVec item, key⟩ := by
    intro item hitem
    have haddress := of_decide_eq_true (List.mem_filter.1 hitem).2
    simp [recordOf, haddress]
  rw [List.map_congr_left hrecord]
  exact (hhanded.filter _).map _

/-- Two segments with the same key, the second one not yet passed on, and an answer that is an
error. -/
def recordsRun : List (PipelineEvent CollectItem (Except String Unit)) :=
  [.report (.trace Reporting.sampleSegment), .produce 0, .report (.trace Reporting.sampleSegment),
    .produce 1, .ask .consume, .worker (.report (.error "timeout"))]

theorem records_in_order_two :
    ∃ s, Execution.run (KafkaReporting.spawn fun _ => [1]) kafkaStart recordsRun = some s ∧
      s.enqueued.length = 2 ∧ s.worker.sink.records =
        [⟨"skywalking-segments", [1], "segment"⟩] ∧ s.worker.sink.errHandled.length = 1 := by
  have hrun : ∃ s, Execution.run (KafkaReporting.spawn fun _ => [1]) kafkaStart recordsRun =
      some s ∧ s.enqueued.length = 2 ∧ s.worker.sink.records =
        [⟨"skywalking-segments", [1], "segment"⟩] := ⟨_, rfl, rfl, rfl⟩
  obtain ⟨s, hrun, hlength, hrecords⟩ := hrun
  exact ⟨s, hrun, hlength, hrecords,
    (records_in_order hrun "skywalking-segments" "segment").2.1⟩

end KafkaProducer

end SkywalkingAgent.Reporter
