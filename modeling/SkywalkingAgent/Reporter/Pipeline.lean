import SkywalkingAgent.Reporter.Worker

/-!
# Reporters, queue and worker

The clones of a reporter put items into an mpsc channel that the worker consumes. A call of
`report` reads `is_closing` and, when it is not set, offers its item to the channel: two steps,
between which the worker and the other calls can go on. `Pipeline.step` interleaves any number of
calls with the steps of the worker; `Pipeline.Effect` says what each step does, and the invariant
`Pipeline.Conserved` that the items go through in order.
-/

set_option autoImplicit false

namespace SkywalkingAgent.Reporter

open SkywalkingAgent.Lib

/-! ## `CollectItemConsume` for the receivers of mpsc channels -/

/-- `mpsc::error::TryRecvError`. -/
inductive TryRecvError where
  | empty
  | disconnected
  deriving DecidableEq, Repr

section Consume

variable {α : Type}

/-- `consume`; it waits on an empty channel. -/
def consume (self : Channel α) : Option (ConsumeResult α TryRecvError × Channel α) :=
  match self.take with
  | .item item rest => some (.ok (some item), rest)
  | .empty => none
  | .disconnected => some (.ok none, self)

/-- `try_consume`. -/
def tryConsume (self : Channel α) : ConsumeResult α TryRecvError × Channel α :=
  match self.take with
  | .item item rest => (.ok (some item), rest)
  | .empty => (.ok none, self)
  | .disconnected => (.error .disconnected, self)

/-- What a loop of the worker gets from the channel. -/
def ask (loop : Loop) (self : Channel α) : Option (ConsumeResult α TryRecvError × Channel α) :=
  match loop with
  | .consume => consume self
  | .flush => some (tryConsume self)

end Consume

/-! ## The interleaved system -/

/-- How far a call of `report` is: its item waits to be produced; it was refused because the
reporter was closing; it was accepted at a position of the queue; `err_handle` was called; or
`produce` has panicked. -/
inductive CallStatus where
  | checked
  | refused
  | accepted (position : Nat)
  | failed
  | panicked
  deriving DecidableEq, Repr

/-- A call of `report` has returned: it neither waits nor has panicked. -/
def CallStatus.hasReturned : CallStatus → Bool
  | .checked | .panicked => false
  | _ => true

/-- A call of `report` with its item. -/
structure ReportCall (α : Type) where
  item : α
  status : CallStatus
  deriving DecidableEq, Repr

/-- A reporter with its clones, the queue and the worker. -/
structure Pipeline (σ α : Type) where
  worker : Worker σ α TryRecvError
  /-- The channel; its senders are the clones of the reporter. -/
  queue : Channel α
  /-- The calls of `report`, in the order in which they read the flag. -/
  calls : List (ReportCall α)
  /-- The items accepted by the channel so far. -/
  enqueued : List α

/-- The steps of the callers, of the owners of the reporters, and of the worker. -/
inductive PipelineEvent (α ω : Type) where
  | cloneReporter
  | dropReporter
  /-- A call of `report` reads the flag. -/
  | report (item : α)
  /-- The call offers its item to the channel. -/
  | produce (call : Nat)
  /-- The `blocking_send` of a bounded channel panics, because it is called on a thread that runs
  asynchronous tasks. -/
  | producePanics (call : Nat)
  /-- The worker asks the channel. -/
  | ask (loop : Loop)
  | worker (e : WorkerEvent ω)
  deriving DecidableEq, Repr

namespace Pipeline

variable {σ α ω : Type}

/-- One reporter, and a worker that has just started. -/
def new (capacity : Option Nat) (sink : σ) : Pipeline σ α := ⟨.new sink, .new capacity, [], []⟩

/-- `report` of a reporter, up to the flag. -/
def report (self : Pipeline σ α) (item : α) : Pipeline σ α :=
  { self with
    calls := self.calls ++ [⟨item, if self.worker.isClosing then .refused else .checked⟩] }

/-- The rest of a call of `report`. -/
def produce (self : Pipeline σ α) (call : Nat) : Option (Pipeline σ α) :=
  match self.calls[call]? with
  | some ⟨item, .checked⟩ =>
      match self.queue.offer item with
      | .accepted queue => some { self with
          queue := queue
          calls := self.calls.set call ⟨item, .accepted self.enqueued.length⟩
          enqueued := self.enqueued ++ [item] }
      -- the call waits for room
      | .full => none
      | .closed => some { self with calls := self.calls.set call ⟨item, .failed⟩ }
  | _ => none

/-- The panic of a call of `report`; the `send` of an unbounded channel has none. -/
def producePanics (self : Pipeline σ α) (call : Nat) : Option (Pipeline σ α) :=
  match self.calls[call]? with
  | some ⟨item, .checked⟩ =>
      if self.queue.capacity.isSome then
        some { self with calls := self.calls.set call ⟨item, .panicked⟩ }
      else none
  | _ => none

/-- One step of the system. -/
def step (sink : Sink σ α ω) (self : Pipeline σ α) (e : PipelineEvent α ω) :
    Option (Pipeline σ α) :=
  match e with
  | .cloneReporter =>
      if self.queue.senders ≠ 0 then some { self with queue := self.queue.cloneSender } else none
  | .dropReporter =>
      -- a call borrows its reporter
      if self.queue.senders ≠ 0 ∧ (self.queue.senders = 1 → ∀ c ∈ self.calls, c.status ≠ .checked)
      then some { self with queue := self.queue.dropSender } else none
  | .report item => if self.queue.senders ≠ 0 then some (self.report item) else none
  | .produce call => self.produce call
  | .producePanics call => self.producePanics call
  | .ask loop =>
      (ask loop self.queue).bind fun answer =>
        (self.worker.answer loop answer.1).map fun worker =>
          { self with worker := worker, queue := answer.2 }
  | .worker e =>
      (self.worker.own sink e).map fun worker => { self with
        worker := worker
        -- the receiver is a local of `work_fut`
        queue := match e with
          | .dropLocals => self.queue.dropReceiver
          | _ => self.queue }

/-- The run of a list of steps. -/
abbrev run (sink : Sink σ α ω) : Pipeline σ α → List (PipelineEvent α ω) → Option (Pipeline σ α) :=
  Execution.run (step sink)

/-! ## What a step does -/

/-- What each step does, with the condition under which it is possible. -/
inductive Effect (sink : Sink σ α ω) (s : Pipeline σ α) :
    PipelineEvent α ω → Pipeline σ α → Prop where
  | cloneReporter (senders : s.queue.senders ≠ 0) :
      Effect sink s .cloneReporter { s with queue := s.queue.cloneSender }
  | dropReporter (senders : s.queue.senders ≠ 0) :
      Effect sink s .dropReporter { s with queue := s.queue.dropSender }
  | report (item : α) : Effect sink s (.report item) (s.report item)
  | accepted (call : Nat) (item : α) (checked : s.calls[call]? = some ⟨item, .checked⟩)
      (receiving : s.queue.receiving = true) :
      Effect sink s (.produce call) { s with
        queue := { s.queue with buffer := s.queue.buffer ++ [item] }
        calls := s.calls.set call ⟨item, .accepted s.enqueued.length⟩
        enqueued := s.enqueued ++ [item] }
  | failed (call : Nat) (item : α) (checked : s.calls[call]? = some ⟨item, .checked⟩)
      (closed : s.queue.receiving = false) :
      Effect sink s (.produce call) { s with calls := s.calls.set call ⟨item, .failed⟩ }
  | panicked (call : Nat) (item : α) (checked : s.calls[call]? = some ⟨item, .checked⟩)
      (bounded : s.queue.capacity.isSome = true) :
      Effect sink s (.producePanics call) { s with calls := s.calls.set call ⟨item, .panicked⟩ }
  | took (loop : Loop) (work : s.worker.work = .polling loop) (item : α) (rest : List α)
      (buffer : s.queue.buffer = item :: rest) :
      Effect sink s (.ask loop) { s with
        worker := { s.worker with work := .received loop item }
        queue := { s.queue with buffer := rest } }
  /-- The flush ends on an empty channel. -/
  | foundEmpty (work : s.worker.work = .polling .flush) (buffer : s.queue.buffer = [])
      (senders : s.queue.senders ≠ 0) :
      Effect sink s (.ask .flush) { s with
        worker := { s.worker with work := .returning (.ok ()) } }
  /-- The input has ended. -/
  | ended (work : s.worker.work = .polling .consume) (buffer : s.queue.buffer = [])
      (senders : s.queue.senders = 0) :
      Effect sink s (.ask .consume) { s with worker := { s.worker with work := .closing } }
  /-- The flush finds that the input has ended. -/
  | disconnected (work : s.worker.work = .polling .flush) (buffer : s.queue.buffer = [])
      (senders : s.queue.senders = 0) :
      Effect sink s (.ask .flush) { s with
        worker := { s.worker with work := .returning (.error (.consumer .disconnected)) } }
  | worker (e : WorkerEvent ω) (w : Worker σ α TryRecvError)
      (own : Worker.OwnEffect sink s.worker e w) (staying : e ≠ .dropLocals) :
      Effect sink s (.worker e) { s with worker := w }
  | dropLocals (w : Worker σ α TryRecvError)
      (own : Worker.OwnEffect sink s.worker .dropLocals w) :
      Effect sink s (.worker .dropLocals) { s with worker := w, queue := s.queue.dropReceiver }

variable {sink : Sink σ α ω} {s s' : Pipeline σ α} {e : PipelineEvent α ω}

theorem effect_produce {call : Nat} (h : s.produce call = some s') :
    Effect sink s (.produce call) s' := by
  unfold produce at h
  split at h
  · next item hcall =>
    cases hoffer : s.queue.offer item with
    | accepted queue =>
      rw [hoffer] at h
      obtain ⟨hreceiving, -, rfl⟩ := Channel.offer_eq_accepted_iff.1 hoffer
      obtain rfl := Option.some.inj h
      exact .accepted call item hcall hreceiving
    | full =>
      rw [hoffer] at h
      cases h
    | closed =>
      rw [hoffer] at h
      obtain rfl := Option.some.inj h
      exact .failed call item hcall (Channel.offer_eq_closed_iff.1 hoffer)
  · cases h

theorem effect_producePanics {call : Nat} (h : s.producePanics call = some s') :
    Effect sink s (.producePanics call) s' := by
  unfold producePanics at h
  split at h
  · next item hcall =>
    split at h
    · next hbounded =>
      obtain rfl := Option.some.inj h
      exact .panicked call item hcall hbounded
    · cases h
  · cases h

theorem effect_ask {loop : Loop} (h : s.step sink (.ask loop) = some s') :
    Effect sink s (.ask loop) s' := by
  obtain ⟨⟨result, queue⟩, hask, hmap⟩ := Option.bind_eq_some_iff.1 h
  obtain ⟨w, hw, rfl⟩ := Option.map_eq_some_iff.1 hmap
  obtain ⟨hwork, rfl⟩ := Worker.answer_eq_some_iff.1 hw
  cases htake : s.queue.take with
  | item item rest =>
    obtain ⟨buffer, hbuffer, rfl⟩ := Channel.take_eq_item_iff.1 htake
    cases loop with
    | consume =>
      simp only [ask, consume, htake, Option.some.injEq, Prod.mk.injEq] at hask
      obtain ⟨rfl, rfl⟩ := hask
      exact .took .consume hwork item buffer hbuffer
    | flush =>
      simp only [ask, tryConsume, htake, Option.some.injEq, Prod.mk.injEq] at hask
      obtain ⟨rfl, rfl⟩ := hask
      exact .took .flush hwork item buffer hbuffer
  | empty =>
    obtain ⟨hbuffer, hsenders⟩ := Channel.take_eq_empty_iff.1 htake
    cases loop with
    -- `consume` waits, so it gives no answer
    | consume => simp [ask, consume, htake] at hask
    | flush =>
      simp only [ask, tryConsume, htake, Option.some.injEq, Prod.mk.injEq] at hask
      obtain ⟨rfl, rfl⟩ := hask
      exact .foundEmpty hwork hbuffer hsenders
  | disconnected =>
    obtain ⟨hbuffer, hsenders⟩ := Channel.take_eq_disconnected_iff.1 htake
    cases loop with
    | consume =>
      simp only [ask, consume, htake, Option.some.injEq, Prod.mk.injEq] at hask
      obtain ⟨rfl, rfl⟩ := hask
      exact .ended hwork hbuffer hsenders
    | flush =>
      simp only [ask, tryConsume, htake, Option.some.injEq, Prod.mk.injEq] at hask
      obtain ⟨rfl, rfl⟩ := hask
      exact .disconnected hwork hbuffer hsenders

theorem step_effect (h : s.step sink e = some s') : Effect sink s e s' := by
  cases e with
  | cloneReporter =>
    simp only [step] at h
    split at h
    · next hsenders =>
      obtain rfl := Option.some.inj h
      exact .cloneReporter hsenders
    · cases h
  | dropReporter =>
    simp only [step] at h
    split at h
    · next hsenders =>
      obtain rfl := Option.some.inj h
      exact .dropReporter hsenders.1
    · cases h
  | report item =>
    simp only [step] at h
    split at h
    · obtain rfl := Option.some.inj h
      exact .report item
    · cases h
  | produce call => exact effect_produce h
  | producePanics call => exact effect_producePanics h
  | ask loop => exact effect_ask h
  | worker e =>
    obtain ⟨w, hw, rfl⟩ := Option.map_eq_some_iff.1 h
    have hown := Worker.own_effect hw
    cases e with
    | dropLocals => exact .dropLocals w hown
    | recvShutdown => exact .worker _ w hown (by simp)
    | report answer => exact .worker _ w hown (by simp)
    | reported => exact .worker _ w hown (by simp)
    | storeClosing => exact .worker _ w hown (by simp)
    | signal => exact .worker _ w hown (by simp)

/-! ## The items go through in order -/

/-- The channel is between what was enqueued and what was taken, as long as its receiver lives. -/
structure Conserved (s : Pipeline σ α) : Prop where
  receiving : s.queue.receiving = !s.worker.work.isDropped
  queued : s.queue.receiving = true → s.enqueued = s.worker.taken ++ s.queue.buffer
  taken : s.worker.taken <+: s.enqueued

theorem conserved_new (capacity : Option Nat) (sink₀ : σ) :
    (new capacity sink₀ : Pipeline σ α).Conserved where
  receiving := rfl
  queued _ := rfl
  taken := List.nil_prefix

/-- A step of the worker that takes nothing and keeps the receiver. -/
theorem Conserved.setWorker (hs : s.Conserved) {w : Worker σ α TryRecvError}
    (htaken : w.taken = s.worker.taken)
    (hdropped : w.work.isDropped = s.worker.work.isDropped) :
    Conserved { s with worker := w } where
  receiving := by rw [hdropped]; exact hs.receiving
  queued halive := by rw [htaken]; exact hs.queued halive
  taken := by rw [htaken]; exact hs.taken

theorem Conserved.step (hs : s.Conserved) (h : s.step sink e = some s') : s'.Conserved := by
  cases step_effect h with
  | cloneReporter => exact ⟨hs.receiving, hs.queued, hs.taken⟩
  | dropReporter => exact ⟨hs.receiving, hs.queued, hs.taken⟩
  | report item => exact ⟨hs.receiving, hs.queued, hs.taken⟩
  | failed call item => exact ⟨hs.receiving, hs.queued, hs.taken⟩
  | panicked call item => exact ⟨hs.receiving, hs.queued, hs.taken⟩
  | accepted call item _ hreceiving =>
    refine ⟨hs.receiving, fun _ => ?_, hs.taken.trans (List.prefix_append _ _)⟩
    show s.enqueued ++ [item] = s.worker.taken ++ (s.queue.buffer ++ [item])
    -- the item goes to the end of both sides
    rw [hs.queued hreceiving, List.append_assoc]
  | took loop hwork item rest hbuffer =>
    have halive : s.queue.receiving = true := by rw [hs.receiving, hwork]; rfl
    -- the head of the channel is now in hand
    have hqueued : s.enqueued = s.worker.handed ++ item :: rest := by
      rw [hs.queued halive, hbuffer, Worker.taken_of_polling hwork]
    refine ⟨by rw [halive]; rfl, fun _ => ?_, ?_⟩
    · simp [Worker.taken, Worker.inHand, hqueued]
    · simp [Worker.taken, Worker.inHand, hqueued]
  | foundEmpty hwork =>
    exact hs.setWorker (by rw [Worker.taken_of_polling hwork]; simp [Worker.taken, Worker.inHand])
      (by rw [hwork]; rfl)
  | ended hwork =>
    exact hs.setWorker (by rw [Worker.taken_of_polling hwork]; simp [Worker.taken, Worker.inHand])
      (by rw [hwork]; rfl)
  | disconnected hwork =>
    exact hs.setWorker (by rw [Worker.taken_of_polling hwork]; simp [Worker.taken, Worker.inHand])
      (by rw [hwork]; rfl)
  | worker e w hown hstay => exact hs.setWorker hown.taken (hown.isDropped hstay)
  | dropLocals w hown =>
    refine ⟨?_, fun halive => absurd halive (by simp [Channel.dropReceiver]), ?_⟩
    -- what is left in the channel goes with the receiver; only the prefix is kept
    · show false = !w.work.isDropped
      rw [hown.isDropped_dropLocals]
      rfl
    · show w.taken <+: s.enqueued
      rw [hown.taken]
      exact hs.taken

theorem run_conserved {es : List (PipelineEvent α ω)} (hs : s.Conserved)
    (hrun : run sink s es = some s') : s'.Conserved :=
  Execution.run_invariant hs (fun _ _ _ h hstep => h.step hstep) hrun

/-- The item in hand is the next one of the queue. -/
theorem Conserved.getElem?_received (hs : s.Conserved) {loop : Loop} {item : α}
    (hwork : s.worker.work = .received loop item) :
    s.enqueued[s.worker.handed.length]? = some item := by
  obtain ⟨rest, hrest⟩ := hs.taken
  rw [Worker.taken, Worker.inHand, hwork, List.append_assoc] at hrest
  rw [← hrest, List.getElem?_append_right (Nat.le_refl _), Nat.sub_self]
  rfl

/-! ## The pipeline without its sink -/

/-- The same pipeline with a sink that keeps nothing. -/
def forget (self : Pipeline σ α) : Pipeline Unit α :=
  ⟨self.worker.forget, self.queue, self.calls, self.enqueued⟩

theorem produce_forget {call : Nat} (h : s.produce call = some s') :
    s.forget.produce call = some s'.forget := by
  have hcalls : s.forget.calls = s.calls := rfl
  have hqueue : s.forget.queue = s.queue := rfl
  unfold produce at h ⊢
  simp only [hcalls, hqueue]
  split at h
  · next item hcall =>
    cases hoffer : s.queue.offer item with
    | accepted queue =>
      simp only [hoffer, Option.some.injEq] at h ⊢
      rw [← h]
      rfl
    | full =>
      rw [hoffer] at h
      cases h
    | closed =>
      simp only [hoffer, Option.some.injEq] at h ⊢
      rw [← h]
      rfl
  · cases h

theorem producePanics_forget {call : Nat} (h : s.producePanics call = some s') :
    s.forget.producePanics call = some s'.forget := by
  have hcalls : s.forget.calls = s.calls := rfl
  have hqueue : s.forget.queue = s.queue := rfl
  unfold producePanics at h ⊢
  simp only [hcalls, hqueue]
  split at h
  · next item hcall =>
    split at h
    · next hbounded =>
      obtain rfl := Option.some.inj h
      exact if_pos hbounded
    · cases h
  · cases h

/-- The steps of the pipeline do not look at the sink. -/
theorem step_forget (h : s.step sink e = some s') :
    s.forget.step Worker.noSink e = some s'.forget := by
  cases e with
  | cloneReporter =>
    simp only [step] at h ⊢
    split at h
    · next hsenders =>
      obtain rfl := Option.some.inj h
      exact if_pos hsenders
    · cases h
  | dropReporter =>
    simp only [step] at h ⊢
    split at h
    · next hguard =>
      obtain rfl := Option.some.inj h
      exact if_pos hguard
    · cases h
  | report item =>
    simp only [step] at h ⊢
    split at h
    · next hsenders =>
      obtain rfl := Option.some.inj h
      exact if_pos hsenders
    · cases h
  | produce call => exact produce_forget h
  | producePanics call => exact producePanics_forget h
  | ask loop =>
    obtain ⟨⟨result, queue⟩, hask, hmap⟩ := Option.bind_eq_some_iff.1 h
    obtain ⟨w, hw, rfl⟩ := Option.map_eq_some_iff.1 hmap
    exact Option.bind_eq_some_iff.2 ⟨_, hask,
      Option.map_eq_some_iff.2 ⟨_, Worker.answer_forget hw, rfl⟩⟩
  | worker e =>
    obtain ⟨w, hw, rfl⟩ := Option.map_eq_some_iff.1 h
    exact Option.map_eq_some_iff.2 ⟨_, Worker.own_forget hw, rfl⟩

end Pipeline

end SkywalkingAgent.Reporter
