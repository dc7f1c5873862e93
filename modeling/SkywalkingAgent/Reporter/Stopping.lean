import SkywalkingAgent.Reporter.Closing

/-!
# When the worker stops

`CollectItemConsume` and `CollectItemProduce` are traits of the user: `consume`, `try_consume` and
`produce` may answer anything. `Tandem` is a reporter in the foreground and its worker in the
background, with all these answers left open and with any sink, so both for `ReportSender::start`
and for `KafkaReporting::spawn`. A worker that stops has set `is_closing`, unless an error of
`consume` made it return from the first loop (`Tandem.stopped_closes_iff`).
-/

set_option autoImplicit false

namespace SkywalkingAgent.Reporter

open SkywalkingAgent.Lib

/-- How far a call of `report` is. -/
inductive PassStatus (η : Type) where
  | checked
  | refused
  /-- The item was passed to the producer; an error of it goes to `err_handle`. -/
  | passed (answer : Except η Unit)
  deriving DecidableEq, Repr

/-- A call of `report` with its item. -/
structure Pass (α η : Type) where
  item : α
  status : PassStatus η
  deriving DecidableEq, Repr

/-- A reporter with its calls, and the worker. -/
structure Tandem (σ α ε η : Type) where
  worker : Worker σ α ε
  /-- The calls of `report`, in the order in which they read the flag. -/
  calls : List (Pass α η)

/-- The steps of the two, with the answers of the producer and of the consumer. -/
inductive TandemEvent (α ε η ω : Type) where
  /-- A call of `report` reads the flag. -/
  | report (item : α)
  /-- The call passes its item to the producer, which answers. -/
  | produce (call : Nat) (answer : Except η Unit)
  /-- The consumer answers the worker. -/
  | answer (loop : Loop) (result : ConsumeResult α ε)
  | worker (e : WorkerEvent ω)
  deriving Repr

namespace Tandem

variable {σ α ε η ω : Type}

/-- No call yet, and a worker that has just started. -/
def new (sink : σ) : Tandem σ α ε η := ⟨.new sink, []⟩

/-- `report` of a reporter, up to the flag. -/
def report (self : Tandem σ α ε η) (item : α) : Tandem σ α ε η :=
  { self with
    calls := self.calls ++ [⟨item, if self.worker.isClosing then .refused else .checked⟩] }

/-- The rest of a call of `report`. -/
def produce (self : Tandem σ α ε η) (call : Nat) (answer : Except η Unit) :
    Option (Tandem σ α ε η) :=
  match self.calls[call]? with
  | some ⟨item, .checked⟩ => some { self with calls := self.calls.set call ⟨item, .passed answer⟩ }
  | _ => none

/-- One step of the two. -/
def step (sink : Sink σ α ω) (self : Tandem σ α ε η) (e : TandemEvent α ε η ω) :
    Option (Tandem σ α ε η) :=
  match e with
  | .report item => some (self.report item)
  | .produce call answer => self.produce call answer
  | .answer loop result =>
      (self.worker.answer loop result).map fun worker => { self with worker := worker }
  | .worker e => (self.worker.own sink e).map fun worker => { self with worker := worker }

/-- The run of a list of steps. -/
abbrev run (sink : Sink σ α ω) :
    Tandem σ α ε η → List (TandemEvent α ε η ω) → Option (Tandem σ α ε η) :=
  Execution.run (step sink)

/-! ## What the flag says -/

/-- No `consume` has answered an error. -/
def Clean (es : List (TandemEvent α ε η ω)) : Prop :=
  ∀ err : ε, TandemEvent.answer Loop.consume (Except.error err) ∉ es

variable {sink : Sink σ α ω} {s s' : Tandem σ α ε η} {e : TandemEvent α ε η ω}
  {es : List (TandemEvent α ε η ω)}

theorem clean_concat_iff :
    Clean (es ++ [e]) ↔ Clean es ∧ ∀ err : ε, e ≠ .answer .consume (.error err) := by
  simp only [Clean, List.mem_append, List.mem_singleton, not_or, ne_eq, forall_and, eq_comm]

/-- The flag of the worker after the events `es`; once `consume` has answered an error, only the
result is left. -/
structure Flagged (es : List (TandemEvent α ε η ω)) (w : Worker σ α ε) : Prop where
  isClosing : w.isClosing = true ↔ w.work.isFlushing = true ∧ Clean es
  ended : ¬Clean es → w.work.result?.isSome

theorem flagged_new (sink₀ : σ) :
    Flagged ([] : List (TandemEvent α ε η ω)) (Worker.new sink₀ : Worker σ α ε) where
  isClosing := by simp [Worker.new, WorkFut.isFlushing]
  ended h := absurd (fun _ => List.not_mem_nil) h

variable {w w' : Worker σ α ε}

/-- Before the result nothing has gone wrong. -/
theorem Flagged.clean (h : Flagged es w) (hwork : w.work.result? = none) : Clean es := by
  by_contra hclean
  have hended := h.ended hclean
  rw [hwork] at hended
  cases hended

/-- An answer of the consumer: an error of `consume` skips the store. -/
theorem Flagged.answer (h : Flagged es w) {loop : Loop} {result : ConsumeResult α ε}
    (he : e = .answer loop result) (hanswer : w.answer loop result = some w') :
    Flagged (es ++ [e]) w' := by
  obtain ⟨hwork, rfl⟩ := Worker.answer_eq_some_iff.1 hanswer
  have hclean : Clean es := h.clean (by rw [hwork]; rfl)
  have hclosing := h.isClosing
  rw [hwork] at hclosing
  by_cases herror : ∃ err, loop = .consume ∧ result = .error err
  · obtain ⟨err, rfl, rfl⟩ := herror
    have hdirty : ¬Clean (es ++ [e]) := fun hc => (clean_concat_iff.1 hc).2 err he
    refine ⟨?_, fun _ => rfl⟩
    -- the flag was not set in the first loop, and will not be
    rw [iff_false_right fun hc => hdirty hc.2]
    intro hset
    cases (hclosing.1 hset).1
  · have hclean' : Clean (es ++ [e]) := by
      refine clean_concat_iff.2 ⟨hclean, fun err heq => herror ⟨err, ?_⟩⟩
      rw [he] at heq
      exact TandemEvent.answer.inj heq
    refine ⟨?_, fun hdirty => absurd hclean' hdirty⟩
    rw [and_iff_left hclean']
    rw [and_iff_left hclean] at hclosing
    show w.isClosing = true ↔ (Worker.afterAnswer loop result).isFlushing = true
    cases loop with
    | consume =>
      cases result with
      | error err => exact absurd ⟨err, rfl, rfl⟩ herror
      | ok item => cases item <;> exact hclosing
    | flush =>
      cases result with
      | error err => exact hclosing
      | ok item => cases item <;> exact hclosing

/-- A step of the task itself. -/
theorem Flagged.own (h : Flagged es w) {event : WorkerEvent ω}
    (hclean : Clean (es ++ [e]) ↔ Clean es) (hown : Worker.OwnEffect sink w event w') :
    Flagged (es ++ [e]) w' := by
  have hclosing := h.isClosing
  have hended := h.ended
  rw [← hclean] at hclosing hended
  cases hown with
  | recvShutdown hwork =>
    rw [hwork] at hclosing hended
    exact ⟨hclosing, hended⟩
  | report answer loop item hwork =>
    rw [hwork] at hclosing hended
    cases loop <;> exact ⟨hclosing, hended⟩
  | reported loop hwork =>
    rw [hwork] at hclosing hended
    cases loop <;> exact ⟨hclosing, hended⟩
  | storeClosing hwork =>
    rw [hwork] at hended
    exact ⟨iff_of_true rfl ⟨rfl, hclean.2 (h.clean (by rw [hwork]; rfl))⟩, hended⟩
  | dropLocals result hwork =>
    rw [hwork] at hclosing hended
    exact ⟨hclosing, hended⟩
  | signal => exact ⟨hclosing, hended⟩

theorem Flagged.step (h : Flagged es s.worker) (hstep : s.step sink e = some s') :
    Flagged (es ++ [e]) s'.worker := by
  have hkept : (∀ loop result, e ≠ .answer loop result) → (Clean (es ++ [e]) ↔ Clean es) := by
    intro he
    rw [clean_concat_iff, and_iff_left fun err => he _ _]
  cases e with
  | report item =>
    obtain rfl := Option.some.inj hstep
    have hclean := hkept (by simp)
    exact ⟨by rw [hclean]; exact h.isClosing, by rw [hclean]; exact h.ended⟩
  | produce call answer =>
    have hclean := hkept (by simp)
    simp only [Tandem.step, produce] at hstep
    split at hstep
    · obtain rfl := Option.some.inj hstep
      exact ⟨by rw [hclean]; exact h.isClosing, by rw [hclean]; exact h.ended⟩
    · cases hstep
  | answer loop result =>
    obtain ⟨w, hw, rfl⟩ := Option.map_eq_some_iff.1 hstep
    exact h.answer rfl hw
  | worker event =>
    obtain ⟨w, hw, rfl⟩ := Option.map_eq_some_iff.1 hstep
    exact h.own (hkept (by simp)) (Worker.own_effect hw)

theorem run_flagged {sink₀ : σ} (hrun : run sink (new sink₀) es = some s) :
    Flagged es s.worker :=
  Execution.run_history (I := fun es (s : Tandem σ α ε η) => Flagged es s.worker)
    (flagged_new sink₀) (fun _ _ _ _ h hstep => h.step hstep) hrun

/-! ## Calls after the store -/

/-- The flag is set, and the calls from number `n` on were refused. -/
structure RefusesFrom (n : Nat) (s : Tandem σ α ε η) : Prop where
  isClosing : s.worker.isClosing = true
  count : n ≤ s.calls.length
  refused : ∀ call c, n ≤ call → s.calls[call]? = some c → c.status = .refused

theorem refusesFrom_of_isClosing (h : s.worker.isClosing = true) :
    RefusesFrom s.calls.length s where
  isClosing := h
  count := Nat.le_refl _
  refused call c hcall hc := by
    rw [List.getElem?_eq_none hcall] at hc
    cases hc

theorem own_isClosing {event : WorkerEvent ω} (hown : Worker.OwnEffect sink w event w')
    (h : w.isClosing = true) : w'.isClosing = true := by
  cases hown with
  | storeClosing => rfl
  | recvShutdown => exact h
  | report => exact h
  | reported => exact h
  | dropLocals => exact h
  | signal => exact h

theorem RefusesFrom.step {n : Nat} (h : RefusesFrom n s) (hstep : s.step sink e = some s') :
    RefusesFrom n s' := by
  cases e with
  | report item =>
    obtain rfl := Option.some.inj hstep
    refine ⟨h.isClosing, Nat.le_trans h.count (by simp [report]), ?_⟩
    intro call c hcall hc
    simp only [report, h.isClosing, if_true] at hc
    rcases Nat.lt_or_ge call s.calls.length with hlt | hge
    · rw [List.getElem?_append_left hlt] at hc
      exact h.refused call c hcall hc
    -- the new call has read the flag
    · rw [List.getElem?_append_right hge, List.getElem?_singleton] at hc
      split at hc
      · obtain rfl := Option.some.inj hc
        rfl
      · cases hc
  | produce call answer =>
    simp only [Tandem.step, produce] at hstep
    split at hstep
    · next item hchecked =>
      obtain rfl := Option.some.inj hstep
      refine ⟨h.isClosing, by simpa using h.count, ?_⟩
      intro j c hj hc
      -- a call that goes on is not one of the refused ones
      have hne : call ≠ j := by
        rintro rfl
        cases h.refused call _ hj hchecked
      rw [List.getElem?_set_ne hne] at hc
      exact h.refused j c hj hc
    · cases hstep
  | answer loop result =>
    obtain ⟨w, hw, rfl⟩ := Option.map_eq_some_iff.1 hstep
    obtain ⟨-, rfl⟩ := Worker.answer_eq_some_iff.1 hw
    exact ⟨h.isClosing, h.count, h.refused⟩
  | worker event =>
    obtain ⟨w, hw, rfl⟩ := Option.map_eq_some_iff.1 hstep
    exact ⟨own_isClosing (Worker.own_effect hw) h.isClosing, h.count, h.refused⟩

theorem RefusesFrom.run {n : Nat} (h : RefusesFrom n s) (hrun : run sink s es = some s') :
    RefusesFrom n s' :=
  Execution.run_invariant h (fun _ _ _ h hstep => h.step hstep) hrun

/-! ## Stopped workers -/

/-- The reporter is closed: the flag is set, and no call of `report` that starts from now on passes
its item to the producer. -/
structure Closed (sink : Sink σ α ω) (s : Tandem σ α ε η) : Prop where
  isClosing : s.worker.isClosing = true
  refuses : ∀ (fs : List (TandemEvent α ε η ω)) (t : Tandem σ α ε η), run sink s fs = some t →
    ∀ call c, s.calls.length ≤ call → t.calls[call]? = some c → ∀ answer, c.status ≠ .passed answer

theorem closed_iff : Closed sink s ↔ s.worker.isClosing = true := by
  constructor
  · intro h
    exact h.isClosing
  · intro h
    refine ⟨h, fun fs t hrun call c hcall hc answer hpassed => ?_⟩
    rw [((refusesFrom_of_isClosing h).run hrun).refused call c hcall hc] at hpassed
    cases hpassed

theorem isFlushing_of_result {r : Except (Error ε) Unit} (h : w.result = some r) :
    w.work.isFlushing = true := by
  obtain ⟨r', hwork, -⟩ := Worker.work_of_result h
  rw [hwork]
  rfl

/-- Whatever the consumer and the producer answer and whenever the shutdown signal comes: a worker
that has ended, well or with an error, has closed the reporter exactly if no `consume` answered an
error. -/
theorem stopped_closes_iff {sink₀ : σ} (hrun : run sink (new sink₀) es = some s)
    (hresult : s.worker.result.isSome) : Closed sink s ↔ Clean es := by
  obtain ⟨r, hr⟩ := Option.isSome_iff_exists.1 hresult
  rw [closed_iff, (run_flagged hrun).isClosing, and_iff_right (isFlushing_of_result hr)]

/-- The consumer fails in the first loop. -/
def failingRun : List (TandemEvent CollectItem String String (Except String Unit)) :=
  [.answer .consume (.error "broken"), .worker .dropLocals]

/-- The input ends, and the consumer fails in the flush. -/
def flushFailingRun : List (TandemEvent CollectItem String String (Except String Unit)) :=
  [.answer .consume (.ok none), .worker .storeClosing, .answer .flush (.error "broken"),
    .worker .dropLocals]

/-- An error of the flush comes after the store, in either worker. -/
theorem stopped_closes_after_flush :
    (∃ s : Tandem (InnerReportSender String) CollectItem String String,
      run InnerReportSender.sink (new .new) flushFailingRun = some s ∧
        s.worker.result = some (.error (.consumer "broken")) ∧
        Closed InnerReportSender.sink s) ∧
    ∃ s : Tandem (KafkaProducer String) CollectItem String String,
      run (KafkaProducer.sink fun _ => []) (new (.new none)) flushFailingRun = some s ∧
        s.worker.result = some (.error (.consumer "broken")) ∧
        Closed (KafkaProducer.sink fun _ => []) s := by
  have hclean : Clean flushFailingRun := by
    intro err hmem
    simp [flushFailingRun] at hmem
  constructor
  · refine ⟨_, rfl, rfl, ?_⟩
    exact (stopped_closes_iff (by rfl) (by rfl)).2 hclean
  · refine ⟨_, rfl, rfl, ?_⟩
    exact (stopped_closes_iff (by rfl) (by rfl)).2 hclean

/-- After an error of `consume` the worker has ended, but a call of `report` still passes its item
to the producer. -/
theorem passes_after_failure (sink : Sink σ CollectItem (Except String Unit)) (sink₀ : σ) :
    ∃ s t : Tandem σ CollectItem String String, run sink (new sink₀) failingRun = some s ∧
      s.worker.result = some (.error (.consumer "broken")) ∧ s.worker.isClosing = false ∧
      run sink s [.report (sampleItem 0), .produce 0 (.ok ())] = some t ∧
      t.calls[0]? = some ⟨sampleItem 0, .passed (.ok ())⟩ ∧ ¬Closed sink s := by
  refine ⟨_, _, rfl, rfl, rfl, rfl, rfl, fun hclosed => ?_⟩
  cases hclosed.isClosing

/-- Both workers leave the reporter open when `consume` answers an error. -/
theorem consume_error_leaves_open :
    (∃ s t : Tandem (InnerReportSender String) CollectItem String String,
      run InnerReportSender.sink (new .new) failingRun = some s ∧
        s.worker.result = some (.error (.consumer "broken")) ∧ s.worker.isClosing = false ∧
        run InnerReportSender.sink s [.report (sampleItem 0), .produce 0 (.ok ())] = some t ∧
        t.calls[0]? = some ⟨sampleItem 0, .passed (.ok ())⟩ ∧ ¬Closed InnerReportSender.sink s) ∧
    ∃ s t : Tandem (KafkaProducer String) CollectItem String String,
      run (KafkaProducer.sink fun _ => []) (new (.new none)) failingRun = some s ∧
        s.worker.result = some (.error (.consumer "broken")) ∧ s.worker.isClosing = false ∧
        run (KafkaProducer.sink fun _ => []) s
          [.report (sampleItem 0), .produce 0 (.ok ())] = some t ∧
        t.calls[0]? = some ⟨sampleItem 0, .passed (.ok ())⟩ ∧
        ¬Closed (KafkaProducer.sink fun _ => []) s :=
  ⟨passes_after_failure _ _, passes_after_failure _ _⟩

end Tandem

/-! ## The queues of the crate -/

/-- The status of a call in the pipeline, whatever the producer. To a call whose `produce` panics
the producer gives no answer. -/
def CallStatus.pass : CallStatus → PassStatus Unit
  | .checked => .checked
  | .refused => .refused
  | .accepted _ => .passed (.ok ())
  | .failed => .passed (.error ())
  | .panicked => .checked

namespace Pipeline

variable {σ α ω : Type} {sink : Sink σ α ω} {s s' : Pipeline σ α}

/-- The pipeline without its queue. -/
def tandem (s : Pipeline σ α) : Tandem σ α TryRecvError Unit :=
  ⟨s.worker, s.calls.map fun c => ⟨c.item, c.status.pass⟩⟩

theorem produce_tandem {call : Nat} {item : α} {status : CallStatus} {answer : Except Unit Unit}
    (hchecked : s.calls[call]? = some ⟨item, .checked⟩) (hstatus : status.pass = .passed answer) :
    s.tandem.produce call answer =
      some ⟨s.worker, (s.calls.set call ⟨item, status⟩).map fun c => ⟨c.item, c.status.pass⟩⟩ := by
  have hcall : s.tandem.calls[call]? = some ⟨item, .checked⟩ := by
    simp [tandem, hchecked, CallStatus.pass]
  simp only [Tandem.produce, hcall, List.map_set, hstatus]
  rfl

/-- A call that panics stays where it is. -/
theorem set_panicked_tandem {call : Nat} {item : α}
    (hchecked : s.calls[call]? = some ⟨item, .checked⟩) :
    ({ s with calls := s.calls.set call ⟨item, .panicked⟩ } : Pipeline σ α).tandem = s.tandem := by
  obtain ⟨hlt, hget⟩ := List.getElem?_eq_some_iff.1 hchecked
  have hlt' : call < s.tandem.calls.length := by simpa [tandem] using hlt
  have hsame : s.tandem.calls[call] = ⟨item, .checked⟩ := by simp [tandem, hget, CallStatus.pass]
  have hcalls : ((s.calls.set call ⟨item, .panicked⟩).map fun c =>
      (⟨c.item, c.status.pass⟩ : Pass α Unit)) = s.tandem.calls := by
    rw [List.map_set]
    exact (congrArg (s.tandem.calls.set call) hsame.symm).trans (List.set_getElem_self hlt')
  exact congrArg (Tandem.mk s.worker) hcalls

theorem report_tandem (item : α) : s.tandem.report item = (s.report item).tandem := by
  cases hclosing : s.worker.isClosing with
  | false => simp [Tandem.report, report, tandem, hclosing, CallStatus.pass]
  | true => simp [Tandem.report, report, tandem, hclosing, CallStatus.pass]

/-- A receiver of an mpsc channel never answers `consume` with an error. -/
theorem consume_ne_error {queue queue' : Channel α} {err : TryRecvError} :
    consume queue ≠ some (.error err, queue') := by
  unfold consume
  cases queue.take with
  | item item rest => simp
  | empty => simp
  | disconnected => simp

/-- A step of the pipeline is one of the tandem, or concerns the queue only. -/
theorem step_tandem {e : PipelineEvent α ω} (h : s.step sink e = some s') :
    ∃ es : List (TandemEvent α TryRecvError Unit ω), Tandem.Clean es ∧
      Tandem.run sink s.tandem es = some s'.tandem := by
  have hone : ∀ e' : TandemEvent α TryRecvError Unit ω,
      (∀ err, e' ≠ .answer .consume (.error err)) → s.tandem.step sink e' = some s'.tandem →
      ∃ es : List (TandemEvent α TryRecvError Unit ω), Tandem.Clean es ∧
        Tandem.run sink s.tandem es = some s'.tandem := by
    intro e' hclean hstep
    refine ⟨[e'], fun err hmem => hclean err (List.mem_singleton.1 hmem).symm, ?_⟩
    exact Execution.run_cons_iff.2 ⟨_, hstep, rfl⟩
  cases e with
  | cloneReporter =>
    cases step_effect h
    exact ⟨[], fun _ => List.not_mem_nil, rfl⟩
  | dropReporter =>
    cases step_effect h
    exact ⟨[], fun _ => List.not_mem_nil, rfl⟩
  | report item =>
    cases step_effect h
    exact hone (.report item) (by simp) (congrArg some (report_tandem item))
  | produce call =>
    cases step_effect h with
    | accepted _ item hchecked =>
      exact hone (.produce call (.ok ())) (by simp) (produce_tandem hchecked rfl)
    | failed _ item hchecked =>
      exact hone (.produce call (.error ())) (by simp) (produce_tandem hchecked rfl)
  | producePanics call =>
    cases step_effect h with
    | panicked _ item hchecked =>
      exact ⟨[], fun _ => List.not_mem_nil, congrArg some (set_panicked_tandem hchecked).symm⟩
  | ask loop =>
    obtain ⟨⟨result, queue⟩, hask, hmap⟩ := Option.bind_eq_some_iff.1 h
    obtain ⟨w, hw, rfl⟩ := Option.map_eq_some_iff.1 hmap
    refine hone (.answer loop result) ?_ (by simp [Tandem.step, tandem, hw])
    intro err herror
    obtain ⟨rfl, rfl⟩ := TandemEvent.answer.inj herror
    exact consume_ne_error hask
  | worker event =>
    obtain ⟨w, hw, rfl⟩ := Option.map_eq_some_iff.1 h
    exact hone (.worker event) (by simp) (by simp [Tandem.step, tandem, hw])

theorem run_tandem {es : List (PipelineEvent α ω)} (hrun : run sink s es = some s') :
    ∃ fs : List (TandemEvent α TryRecvError Unit ω), Tandem.Clean fs ∧
      Tandem.run sink s.tandem fs = some s'.tandem := by
  refine Execution.run_invariant (I := fun t : Pipeline σ α =>
    ∃ fs : List (TandemEvent α TryRecvError Unit ω), Tandem.Clean fs ∧
      Tandem.run sink s.tandem fs = some t.tandem) ⟨[], fun _ => List.not_mem_nil, rfl⟩ ?_ hrun
  rintro a b e ⟨fs, hclean, hfs⟩ hstep
  obtain ⟨gs, hclean', hgs⟩ := step_tandem hstep
  refine ⟨fs ++ gs, fun err hmem => ?_, Execution.run_append_iff.2 ⟨_, hfs, hgs⟩⟩
  rcases List.mem_append.1 hmem with hmem | hmem
  · exact hclean err hmem
  · exact hclean' err hmem

/-- With the queues of the crate a worker that has ended has closed the reporter. -/
theorem stopped_closes {capacity : Option Nat} {sink₀ : σ} {es : List (PipelineEvent α ω)}
    (hrun : run sink (new capacity sink₀) es = some s) (hresult : s.worker.result.isSome) :
    Tandem.Closed sink s.tandem := by
  obtain ⟨fs, hclean, hfs⟩ := run_tandem hrun
  obtain ⟨r, hr⟩ := Option.isSome_iff_exists.1 hresult
  have hflagged := Tandem.run_flagged hfs
  exact Tandem.closed_iff.2 (hflagged.isClosing.2 ⟨Tandem.isFlushing_of_result hr, hclean⟩)

end Pipeline

end SkywalkingAgent.Reporter
