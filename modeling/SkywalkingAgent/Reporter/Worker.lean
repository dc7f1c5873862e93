import SkywalkingAgent.Lib.Channel
import SkywalkingAgent.Lib.Execution

/-!
# The background worker

`ReportSender::start` of the gRPC reporter and the task of `KafkaReporting::spawn` run the same two
loops and differ in what they hand the items to, which is a parameter, `Sink`. One loop consumes
items until the input ends or a shutdown signal arrives; then `is_closing` is set, and the other
loop flushes the queue until it is found empty. `try_join!` runs this future, `work_fut`, next to
`shutdown_fut`, which turns the signal into a message.

The answers of the consumer come from outside (`Worker.answer`); everything else that the task does
is `Worker.own`. One event is what happens between two points at which another thread can be seen.
-/

set_option autoImplicit false

namespace SkywalkingAgent.Reporter

open SkywalkingAgent.Lib

/-- The receiving end of the items: `report` is the awaited call, with the answer that the outside
world gives to it, and `drop` what happens when the worker drops it. -/
structure Sink (σ α ω : Type) where
  report : ω → α → σ → σ
  drop : σ → σ

/-- The sink after calls for items, with their answers. -/
def Sink.after {σ α ω : Type} (sink : Sink σ α ω) (sink₀ : σ) (calls : List (ω × α)) : σ :=
  calls.foldl (fun self call => sink.report call.1 call.2 self) sink₀

/-- `ConsumeResult`. -/
abbrev ConsumeResult (α ε : Type) := Except ε (Option α)

/-- `Error::Other`: the error of the consumer, or of the send into the shutdown channel. -/
inductive Error (ε : Type) where
  | consumer (error : ε)
  | shutdown
  deriving DecidableEq, Repr

/-- The two loops of `work_fut`. -/
inductive Loop where
  | consume
  | flush
  deriving DecidableEq, Repr

/-- Where `work_fut` stands. -/
inductive WorkFut (α ε : Type) where
  /-- At the head of a loop, where it asks the consumer. -/
  | polling (loop : Loop)
  /-- With an item that the consumer gave. -/
  | received (loop : Loop) (item : α)
  /-- Awaiting the sink. -/
  | reporting (loop : Loop)
  /-- Out of the first loop, before `is_closing` is set. -/
  | closing
  /-- With its result, before its locals are dropped: the sink, the consumer, and the receiver of
  the shutdown channel. -/
  | returning (result : Except (Error ε) Unit)
  | dropped (result : Except (Error ε) Unit)
  deriving DecidableEq, Repr

/-- The locals of `work_fut` are gone. -/
def WorkFut.isDropped {α ε : Type} : WorkFut α ε → Bool
  | .dropped _ => true
  | _ => false

/-- Where `shutdown_fut` stands: before the signal, or after it with the result of the send. -/
inductive ShutdownFut where
  | waiting
  | sent
  | failed
  deriving DecidableEq, Repr

/-- The background task: `work_fut` next to `shutdown_fut`, the flag that they share with the
reporters, and the sink. -/
structure Worker (σ α ε : Type) where
  isClosing : Bool
  work : WorkFut α ε
  shutdown : ShutdownFut
  sink : σ
  /-- The items passed to the sink so far. -/
  handed : List α

/-- What the task does by itself. -/
inductive WorkerEvent (ω : Type) where
  /-- `select!` takes the branch of the shutdown channel. -/
  | recvShutdown
  /-- The call of the sink, up to its end but for the await. -/
  | report (answer : ω)
  /-- The await of the sink is over. -/
  | reported
  /-- `is_closing` is set. -/
  | storeClosing
  | dropLocals
  /-- The shutdown signal arrives, and a message is sent. -/
  | signal
  deriving DecidableEq, Repr

namespace Worker

variable {σ α ε ω : Type}

/-- The task at its start. -/
def new (sink : σ) : Worker σ α ε := ⟨false, .polling .consume, .waiting, sink, []⟩

/-- The result of `try_join!`: the first error, or `Ok` when both futures are done. -/
def result (self : Worker σ α ε) : Option (Except (Error ε) Unit) :=
  match self.work, self.shutdown with
  | .dropped (.error e), _ => some (.error e)
  | .dropped (.ok ()), .sent => some (.ok ())
  | .dropped (.ok ()), .failed => some (.error .shutdown)
  | _, _ => none

/-- The branch that a loop takes for an answer of the consumer. -/
def afterAnswer (loop : Loop) (result : ConsumeResult α ε) : WorkFut α ε :=
  match result with
  | .ok (some item) => .received loop item
  | .ok none =>
      match loop with
      | .consume => .closing
      | .flush => .returning (.ok ())
  | .error e => .returning (.error (.consumer e))

/-- The consumer answers `consume` or `try_consume`. -/
def answer (self : Worker σ α ε) (loop : Loop) (result : ConsumeResult α ε) :
    Option (Worker σ α ε) :=
  match self.work with
  | .polling l => if l = loop then some { self with work := afterAnswer loop result } else none
  | _ => none

/-- A step of the task itself. -/
def own (sink : Sink σ α ω) (self : Worker σ α ε) (e : WorkerEvent ω) : Option (Worker σ α ε) :=
  match e, self.work with
  | .recvShutdown, .polling .consume =>
      -- the other branch of `select!` is `consume`, see `answer`
      if self.shutdown = .sent then some { self with work := .closing } else none
  | .report answer, .received loop item =>
      some { self with
        work := .reporting loop
        sink := sink.report answer item self.sink
        handed := self.handed ++ [item] }
  | .reported, .reporting loop => some { self with work := .polling loop }
  | .storeClosing, .closing => some { self with isClosing := true, work := .polling .flush }
  | .dropLocals, .returning result =>
      some { self with work := .dropped result, sink := sink.drop self.sink }
  | .signal, .dropped (.ok ()) =>
      -- the receiver of the shutdown channel is gone
      if self.shutdown = .waiting then some { self with shutdown := .failed } else none
  | .signal, .dropped (.error _) => none
  | .signal, _ => if self.shutdown = .waiting then some { self with shutdown := .sent } else none
  | _, _ => none

/-- The item between the consumer and the sink. -/
def inHand (self : Worker σ α ε) : List α :=
  match self.work with
  | .received _ item => [item]
  | _ => []

/-- The items that the consumer has given. -/
def taken (self : Worker σ α ε) : List α := self.handed ++ self.inHand

/-- What each step of the task does, with the condition under which it is possible. -/
inductive OwnEffect (sink : Sink σ α ω) (w : Worker σ α ε) :
    WorkerEvent ω → Worker σ α ε → Prop where
  | recvShutdown (work : w.work = .polling .consume) (sent : w.shutdown = .sent) :
      OwnEffect sink w .recvShutdown { w with work := .closing }
  | report (answer : ω) (loop : Loop) (item : α) (work : w.work = .received loop item) :
      OwnEffect sink w (.report answer) { w with
        work := .reporting loop
        sink := sink.report answer item w.sink
        handed := w.handed ++ [item] }
  | reported (loop : Loop) (work : w.work = .reporting loop) :
      OwnEffect sink w .reported { w with work := .polling loop }
  | storeClosing (work : w.work = .closing) :
      OwnEffect sink w .storeClosing { w with isClosing := true, work := .polling .flush }
  | dropLocals (result : Except (Error ε) Unit) (work : w.work = .returning result) :
      OwnEffect sink w .dropLocals { w with work := .dropped result, sink := sink.drop w.sink }
  | signal (waiting : w.shutdown = .waiting) (shutdown : ShutdownFut)
      (failed : shutdown = .failed ↔ w.work = .dropped (.ok ()))
      (alive : ∀ e, w.work ≠ .dropped (.error e)) (done : shutdown ≠ .waiting) :
      OwnEffect sink w .signal { w with shutdown := shutdown }

variable {sink : Sink σ α ω} {w w' : Worker σ α ε} {e : WorkerEvent ω}

theorem own_effect (h : w.own sink e = some w') : OwnEffect sink w e w' := by
  unfold own at h
  split at h
  · next hwork =>
    split at h
    · next hsent =>
      obtain rfl := Option.some.inj h
      exact .recvShutdown hwork hsent
    · cases h
  · next answer loop item hwork =>
    obtain rfl := Option.some.inj h
    exact .report answer loop item hwork
  · next loop hwork =>
    obtain rfl := Option.some.inj h
    exact .reported loop hwork
  · next hwork =>
    obtain rfl := Option.some.inj h
    exact .storeClosing hwork
  · next result hwork =>
    obtain rfl := Option.some.inj h
    exact .dropLocals result hwork
  · next hwork =>
    split at h
    · next hwait =>
      obtain rfl := Option.some.inj h
      -- the receiver of the message is gone, so the send fails
      exact .signal hwait .failed (by simp [hwork]) (by simp [hwork]) (by simp)
    · cases h
  · cases h
  · next hok herror =>
    split at h
    · next hwait =>
      obtain rfl := Option.some.inj h
      exact .signal hwait .sent (by simpa using hok) herror (by simp)
    · cases h
  · cases h

theorem taken_of_polling {loop : Loop} (h : w.work = .polling loop) : w.taken = w.handed := by
  simp [Worker.taken, inHand, h]

/-- The task takes nothing from the consumer by itself. -/
theorem OwnEffect.taken (h : OwnEffect sink w e w') : w'.taken = w.taken := by
  cases h with
  | recvShutdown hwork => simp [Worker.taken, inHand, hwork]
  | report answer loop item hwork => simp [Worker.taken, inHand, hwork]
  | reported loop hwork => simp [Worker.taken, inHand, hwork]
  | storeClosing hwork => simp [Worker.taken, inHand, hwork]
  | dropLocals result hwork => simp [Worker.taken, inHand, hwork]
  | signal => rfl

theorem OwnEffect.isDropped (h : OwnEffect sink w e w') (he : e ≠ .dropLocals) :
    w'.work.isDropped = w.work.isDropped := by
  cases h with
  | recvShutdown hwork => simp [hwork, WorkFut.isDropped]
  | report answer loop item hwork => simp [hwork, WorkFut.isDropped]
  | reported loop hwork => simp [hwork, WorkFut.isDropped]
  | storeClosing hwork => simp [hwork, WorkFut.isDropped]
  | dropLocals => exact absurd rfl he
  | signal => rfl

theorem OwnEffect.isDropped_dropLocals (h : OwnEffect sink w .dropLocals w') :
    w'.work.isDropped = true := by
  cases h
  rfl

theorem answer_eq_some_iff {loop : Loop} {result : ConsumeResult α ε} :
    w.answer loop result = some w' ↔
      w.work = .polling loop ∧ w' = { w with work := afterAnswer loop result } := by
  unfold answer
  split
  · next l hwork =>
    split
    · next hl => simp [hwork, hl, eq_comm]
    · next hl => simp [hwork, hl]
  · next hwork =>
    simp only [reduceCtorEq, false_iff, not_and]
    exact fun h => absurd h (hwork loop)

/-- The task has ended well exactly when `work_fut` has and the message was sent. -/
theorem result_eq_ok_iff :
    w.result = some (.ok ()) ↔ w.work = .dropped (.ok ()) ∧ w.shutdown = .sent := by
  unfold result
  split <;> simp_all

/-- A task that has ended has dropped the locals of `work_fut`, whose error is its error. -/
theorem work_of_result {r : Except (Error ε) Unit} (h : w.result = some r) :
    ∃ r', w.work = .dropped r' ∧ ∀ e, r' = .error e → r = .error e := by
  cases hwork : w.work with
  | dropped r' =>
    refine ⟨r', rfl, fun e he => ?_⟩
    subst he
    rw [result, hwork] at h
    exact (Option.some.inj h).symm
  | _ => simp [result, hwork] at h

/-! ## The worker without its sink -/

/-- A sink that keeps nothing. -/
def noSink : Sink Unit α ω := ⟨fun _ _ _ => (), id⟩

/-- The same task with a sink that keeps nothing. -/
def forget (self : Worker σ α ε) : Worker Unit α ε :=
  ⟨self.isClosing, self.work, self.shutdown, (), self.handed⟩

/-- The sink decides nothing. -/
theorem own_forget (h : w.own sink e = some w') : w.forget.own noSink e = some w'.forget := by
  cases own_effect h with
  | recvShutdown hwork hsent => simp [own, forget, hwork, hsent]
  | report answer loop item hwork => simp [own, forget, hwork, noSink]
  | reported loop hwork => simp [own, forget, hwork]
  | storeClosing hwork => simp [own, forget, hwork]
  | dropLocals result hwork => simp [own, forget, hwork, noSink]
  -- whether the send fails depends on `work_fut` only
  | signal hwait shutdown hfailed halive hdone =>
    cases hwork : w.work with
    | dropped r =>
      cases r with
      | ok u =>
        obtain rfl := hfailed.2 hwork
        simp [own, forget, hwork, hwait]
      | error e => exact absurd hwork (halive e)
    | _ =>
      have hsent : shutdown = .sent := by
        cases shutdown with
        | waiting => exact absurd rfl hdone
        | sent => rfl
        | failed => exact absurd (hfailed.1 rfl) (by simp [hwork])
      simp [own, forget, hwork, hwait, hsent]

theorem answer_forget {loop : Loop} {result : ConsumeResult α ε}
    (h : w.answer loop result = some w') : w.forget.answer loop result = some w'.forget := by
  obtain ⟨hwork, rfl⟩ := answer_eq_some_iff.1 h
  exact answer_eq_some_iff.2 ⟨hwork, rfl⟩

end Worker

end SkywalkingAgent.Reporter
