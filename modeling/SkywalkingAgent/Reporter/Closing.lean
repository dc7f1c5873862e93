import SkywalkingAgent.Reporter.Kafka
import SkywalkingAgent.Reporter.Sender

/-!
# Closing

What the two workers have done when they end: everything that was enqueued before `is_closing` was
set has been handed over (`Pipeline.handed_in_order`), but the end is an error when the flush finds
the input ended (`Pipeline.ends_clean_iff`), and an item that is enqueued after the last look into
the queue is lost, as is one whose `produce` panics (`Pipeline.calls_settled_iff`). The theorems
hold for any sink, so for `ReportSender.start` and for `KafkaReporting.spawn`.
-/

set_option autoImplicit false

namespace SkywalkingAgent.Reporter

open SkywalkingAgent.Lib

/-! ## The phases of the worker -/

namespace WorkFut

variable {α ε : Type}

/-- In the first loop. -/
def isConsuming : WorkFut α ε → Bool
  | .polling .consume => true
  | .received .consume _ => true
  | .reporting .consume => true
  | _ => false

/-- Past the store of `is_closing`. -/
def isFlushing : WorkFut α ε → Bool
  | .polling .flush => true
  | .received .flush _ => true
  | .reporting .flush => true
  | .returning _ => true
  | .dropped _ => true
  | _ => false

/-- The result, once the loops are over. -/
def result? : WorkFut α ε → Option (Except (Error ε) Unit)
  | .returning result => some result
  | .dropped result => some result
  | _ => none

end WorkFut

namespace Pipeline

variable {σ α ω : Type} {sink : Sink σ α ω} {s s' : Pipeline σ α} {e : PipelineEvent α ω}
  {es : List (PipelineEvent α ω)}

/-- The flag says that the worker is past the store; the first loop is left only for the shutdown
signal or at the end of the input. -/
structure Phased (s : Pipeline σ α) : Prop where
  isClosing : s.worker.isClosing = s.worker.work.isFlushing
  left : s.worker.work.isConsuming = false → s.worker.shutdown = .sent ∨ s.queue.senders = 0

theorem phased_new (capacity : Option Nat) (sink₀ : σ) :
    (new capacity sink₀ : Pipeline σ α).Phased where
  isClosing := rfl
  left h := by cases h

/-- The steps of the task itself, in a state of the phases. -/
theorem Phased.own (hs : s.Phased) {e : WorkerEvent ω} {w : Worker σ α TryRecvError}
    (hown : Worker.OwnEffect sink s.worker e w) :
    w.isClosing = w.work.isFlushing ∧
      (w.work.isConsuming = false → w.shutdown = .sent ∨ s.queue.senders = 0) := by
  have hclosing := hs.isClosing
  have hleft := hs.left
  cases hown with
  | recvShutdown hwork hsent =>
    rw [hwork] at hclosing
    exact ⟨hclosing, fun _ => Or.inl hsent⟩
  | report answer loop item hwork =>
    rw [hwork] at hclosing hleft
    cases loop <;> exact ⟨hclosing, hleft⟩
  | reported loop hwork =>
    rw [hwork] at hclosing hleft
    cases loop <;> exact ⟨hclosing, hleft⟩
  | storeClosing hwork =>
    rw [hwork] at hleft
    exact ⟨rfl, hleft⟩
  | dropLocals result hwork =>
    rw [hwork] at hclosing hleft
    exact ⟨hclosing, hleft⟩
  -- the message is sent once, so a loop that was left was left at the end of the input
  | signal hwait shutdown hfailed halive hdone =>
    refine ⟨hclosing, fun h => ?_⟩
    rcases hleft h with hsent | hzero
    · rw [hsent] at hwait
      cases hwait
    · exact Or.inr hzero

theorem Phased.step (hs : s.Phased) (h : s.step sink e = some s') : s'.Phased := by
  have hclosing := hs.isClosing
  have hleft := hs.left
  cases step_effect h with
  -- a step of a reporter needs one, so the input had not ended before it
  | cloneReporter hsenders =>
    exact ⟨hclosing, fun h => (hleft h).imp_right fun h0 => absurd h0 hsenders⟩
  | dropReporter hsenders =>
    exact ⟨hclosing, fun h => (hleft h).imp_right fun h0 => absurd h0 hsenders⟩
  | report item => exact ⟨hclosing, hleft⟩
  | failed call item => exact ⟨hclosing, hleft⟩
  | panicked call item => exact ⟨hclosing, hleft⟩
  | accepted call item => exact ⟨hclosing, hleft⟩
  | took loop hwork item rest =>
    rw [hwork] at hclosing hleft
    cases loop <;> exact ⟨hclosing, hleft⟩
  | foundEmpty hwork =>
    rw [hwork] at hclosing hleft
    exact ⟨hclosing, hleft⟩
  -- `consume` answers `None` only without senders
  | ended hwork _ hsenders =>
    rw [hwork] at hclosing
    exact ⟨hclosing, fun _ => Or.inr hsenders⟩
  | disconnected hwork =>
    rw [hwork] at hclosing hleft
    exact ⟨hclosing, hleft⟩
  | worker e w hown =>
    obtain ⟨h₁, h₂⟩ := hs.own hown
    exact ⟨h₁, h₂⟩
  | dropLocals w hown =>
    obtain ⟨h₁, h₂⟩ := hs.own hown
    exact ⟨h₁, h₂⟩

theorem run_phased (hs : s.Phased) (hrun : run sink s es = some s') : s'.Phased :=
  Execution.run_invariant hs (fun _ _ _ h hstep => h.step hstep) hrun

/-- The shutdown message stays sent. -/
theorem run_sent (hsent : s.worker.shutdown = .sent) (hrun : run sink s es = some s') :
    s'.worker.shutdown = .sent := by
  refine Execution.run_invariant (I := fun t => t.worker.shutdown = .sent) hsent ?_ hrun
  intro a b e ha hstep
  cases step_effect hstep with
  | worker e w hown =>
    cases hown with
    | signal hwait =>
      rw [ha] at hwait
      cases hwait
    | _ => exact ha
  | dropLocals w hown =>
    cases hown
    exact ha
  | _ => exact ha

/-- A flush with a reporter left comes from the shutdown signal. -/
theorem sent_of_look (hs : s.Phased) (h : s.step sink (.ask .flush) = some s')
    (hsenders : s.queue.senders ≠ 0) : s.worker.shutdown = .sent := by
  have hwork : s.worker.work = .polling .flush := by
    cases step_effect h with
    | took _ hwork => exact hwork
    | foundEmpty hwork => exact hwork
    | disconnected hwork => exact hwork
  exact (hs.left (by rw [hwork]; rfl)).resolve_right hsenders

/-- What was enqueued stays enqueued. -/
theorem enqueued_prefix_step (h : s.step sink e = some s') : s.enqueued <+: s'.enqueued := by
  cases step_effect h with
  | accepted => exact List.prefix_append _ _
  | _ => exact List.prefix_rfl

theorem enqueued_prefix_run (hrun : run sink s es = some s') : s.enqueued <+: s'.enqueued :=
  Execution.run_invariant (I := fun t => s.enqueued <+: t.enqueued) List.prefix_rfl
    (fun _ _ _ h hstep => h.trans (enqueued_prefix_step hstep)) hrun

/-! ## The last look into the channel -/

/-- Once the loops are over they stay over. They are over where the flush finds the channel empty,
and everything enqueued has then been handed over. -/
theorem over_step (hs : s.Conserved) (h : s.step sink e = some s')
    {r : Except (Error TryRecvError) Unit} (hr : s'.worker.work.result? = some r) :
    (s.worker.work.result? = some r ∧ s'.worker.handed = s.worker.handed ∧ e ≠ .ask .flush) ∨
      (e = .ask .flush ∧ s.queue.receiving = true ∧ s'.queue = s.queue ∧
        s'.enqueued = s.enqueued ∧ s'.worker.handed = s.enqueued ∧
        (r = .ok () ↔ s.queue.senders ≠ 0)) := by
  -- a look at the empty channel finds everything handed over
  have hlook : ∀ loop, s.worker.work = .polling loop → s.queue.buffer = [] →
      s.queue.receiving = true ∧ s.worker.handed = s.enqueued := by
    intro loop hwork hbuffer
    have hreceiving : s.queue.receiving = true := by rw [hs.receiving, hwork]; rfl
    refine ⟨hreceiving, ?_⟩
    rw [hs.queued hreceiving, hbuffer, List.append_nil, Worker.taken_of_polling hwork]
  cases step_effect h with
  | cloneReporter => exact Or.inl ⟨hr, rfl, by simp⟩
  | dropReporter => exact Or.inl ⟨hr, rfl, by simp⟩
  | report item => exact Or.inl ⟨hr, rfl, by simp⟩
  | failed call item => exact Or.inl ⟨hr, rfl, by simp⟩
  | panicked call item => exact Or.inl ⟨hr, rfl, by simp⟩
  | accepted call item => exact Or.inl ⟨hr, rfl, by simp⟩
  | took => cases hr
  | foundEmpty hwork hbuffer hsenders =>
    obtain ⟨hreceiving, hhanded⟩ := hlook .flush hwork hbuffer
    obtain rfl := Option.some.inj hr
    exact Or.inr ⟨rfl, hreceiving, rfl, rfl, hhanded, by simp [hsenders]⟩
  | ended => cases hr
  | disconnected hwork hbuffer hsenders =>
    obtain ⟨hreceiving, hhanded⟩ := hlook .flush hwork hbuffer
    obtain rfl := Option.some.inj hr
    exact Or.inr ⟨rfl, hreceiving, rfl, rfl, hhanded, by simp [hsenders]⟩
  | worker e w hown =>
    cases hown with
    | signal => exact Or.inl ⟨hr, rfl, by simp⟩
    | recvShutdown => cases hr
    | report => cases hr
    | reported => cases hr
    | storeClosing => cases hr
    | dropLocals result hwork =>
      exact Or.inl ⟨by rw [hwork]; exact hr, rfl, by simp⟩
  | dropLocals w hown =>
    cases hown with
    | dropLocals result hwork => exact Or.inl ⟨by rw [hwork]; exact hr, rfl, by simp⟩

/-- A run from `s₀` that ends in `s` with the loops over and the result `r`, around the last look
into the channel, which `s₁` is the state before. -/
structure LastLook (sink : Sink σ α ω) (s₀ : Pipeline σ α) (pre post : List (PipelineEvent α ω))
    (s₁ s₂ s : Pipeline σ α) (r : Except (Error TryRecvError) Unit) : Prop where
  before : run sink s₀ pre = some s₁
  look : s₁.step sink (.ask .flush) = some s₂
  after : run sink s₂ post = some s
  last : .ask .flush ∉ post
  receiving : s₂.queue.receiving = true
  enqueued : s₂.enqueued = s₁.enqueued
  handed : s.worker.handed = s₁.enqueued
  clean : r = .ok () ↔ s₁.queue.senders ≠ 0

theorem exists_lastLook {s₀ : Pipeline σ α} (hs₀ : s₀.Conserved)
    (hstart : s₀.worker.work.result? = none) (hrun : run sink s₀ es = some s)
    {r : Except (Error TryRecvError) Unit} (hr : s.worker.work.result? = some r) :
    ∃ pre post s₁ s₂, es = pre ++ .ask .flush :: post ∧ LastLook sink s₀ pre post s₁ s₂ s r := by
  induction es using List.reverseRecOn generalizing s with
  | nil =>
    obtain rfl := Option.some.inj hrun
    rw [hstart] at hr
    cases hr
  | append_singleton es e ih =>
    obtain ⟨t, ht, hstep⟩ := Execution.run_concat_iff.1 hrun
    rcases over_step (run_conserved hs₀ ht) hstep hr with ⟨hover, hhanded, he⟩ | ⟨rfl, hreceiving,
      hqueue, henqueued, hhanded, hclean⟩
    · obtain ⟨pre, post, s₁, s₂, rfl, hlook⟩ := ih ht hover
      refine ⟨pre, post ++ [e], s₁, s₂, by simp, { hlook with
        after := Execution.run_concat_iff.2 ⟨t, hlook.after, hstep⟩
        last := ?_
        handed := by rw [hhanded, hlook.handed] }⟩
      simp [hlook.last, Ne.symm he]
    · exact ⟨es, [], t, s, rfl, ht, hstep, rfl, List.not_mem_nil, by rw [hqueue, hreceiving],
        henqueued, hhanded, hclean⟩

/-! ## The window after the last look -/

end Pipeline

namespace PipelineEvent

variable {α ω : Type}

/-- A call of `report` goes on to its producer, which answers. -/
def isProduce : PipelineEvent α ω → Bool
  | .produce _ => true
  | _ => false

/-- The producer panics. -/
def isProducePanics : PipelineEvent α ω → Bool
  | .producePanics _ => true
  | _ => false

/-- The worker drops the receiver of the channel. -/
def isDropLocals : PipelineEvent α ω → Bool
  | .worker .dropLocals => true
  | _ => false

end PipelineEvent

namespace Pipeline

variable {σ α ω : Type} {sink : Sink σ α ω} {s s' t : Pipeline σ α} {e : PipelineEvent α ω}
  {es post : List (PipelineEvent α ω)}

/-- The steps before the worker drops its locals, the receiver of the channel among them. -/
def window (post : List (PipelineEvent α ω)) : List (PipelineEvent α ω) :=
  post.takeWhile fun e => !e.isDropLocals

/-- While the receiver lives, every offer that is made is accepted. -/
theorem enqueued_step (halive : s.queue.receiving = true) (h : s.step sink e = some s') :
    s'.enqueued.length = s.enqueued.length + (if e.isProduce then 1 else 0) ∧
      s'.queue.receiving = !e.isDropLocals := by
  cases step_effect h with
  | cloneReporter => exact ⟨rfl, halive⟩
  | dropReporter => exact ⟨rfl, halive⟩
  | report item => exact ⟨rfl, halive⟩
  | accepted call item => exact ⟨by simp [PipelineEvent.isProduce], halive⟩
  | failed call item _ hclosed =>
    rw [halive] at hclosed
    cases hclosed
  | panicked => exact ⟨rfl, halive⟩
  | took => exact ⟨rfl, halive⟩
  | foundEmpty => exact ⟨rfl, halive⟩
  | ended => exact ⟨rfl, halive⟩
  | disconnected => exact ⟨rfl, halive⟩
  | worker e w hown hstay => cases e <;> first | exact ⟨rfl, halive⟩ | exact absurd rfl hstay
  | dropLocals => exact ⟨rfl, rfl⟩

/-- Without its receiver the channel accepts nothing. -/
theorem enqueued_of_closed (hclosed : s.queue.receiving = false) (hrun : run sink s es = some s') :
    s'.enqueued = s.enqueued := by
  refine (Execution.run_invariant
    (I := fun t => t.queue.receiving = false ∧ t.enqueued = s.enqueued) ⟨hclosed, rfl⟩ ?_ hrun).2
  rintro a b e ⟨ha, heq⟩ hstep
  cases step_effect hstep with
  | accepted _ _ _ hreceiving =>
    rw [ha] at hreceiving
    cases hreceiving
  | dropLocals => exact ⟨rfl, heq⟩
  | _ => exact ⟨ha, heq⟩

/-- The items that the channel accepts after the last look. -/
theorem enqueued_window (halive : t.queue.receiving = true) (hrun : run sink t post = some s)
    (hclosed : s.queue.receiving = false) :
    s.enqueued.length = t.enqueued.length + (window post).countP PipelineEvent.isProduce := by
  induction post generalizing t with
  | nil =>
    obtain rfl := Option.some.inj hrun
    rw [halive] at hclosed
    cases hclosed
  | cons e post ih =>
    obtain ⟨m, hstep, hrest⟩ := Execution.run_cons_iff.1 hrun
    obtain ⟨hlen, hreceiving⟩ := enqueued_step halive hstep
    cases he : e.isDropLocals with
    | true =>
      rw [he] at hreceiving
      have hno : e.isProduce = false := by
        cases e with
        | produce => cases he
        | _ => rfl
      rw [enqueued_of_closed hreceiving hrest, hlen, hno]
      simp [window, he]
    | false =>
      rw [he] at hreceiving
      rw [ih hreceiving hrest, hlen]
      simp only [window, List.takeWhile_cons, he, Bool.not_false, if_true, List.countP_cons]
      omega

/-- Everything was handed over exactly when nothing was produced in the window. -/
theorem LastLook.handed_eq_enqueued_iff {s₀ s₁ s₂ : Pipeline σ α} {pre : List (PipelineEvent α ω)}
    {r : Except (Error TryRecvError) Unit} (h : LastLook sink s₀ pre post s₁ s₂ s r)
    (hclosed : s.queue.receiving = false) :
    s.worker.handed = s.enqueued ↔ ∀ e ∈ window post, e.isProduce = false := by
  have hlen := enqueued_window h.receiving h.after hclosed
  have hprefixed : s.worker.handed <+: s.enqueued := by
    rw [h.handed, ← h.enqueued]
    exact enqueued_prefix_run h.after
  -- the channel takes one item more for each call produced in the window
  have hzero : (window post).countP PipelineEvent.isProduce = 0 ↔
      ∀ e ∈ window post, e.isProduce = false := by
    simp [List.countP_eq_zero]
  rw [← hzero]
  constructor
  · intro heq
    rw [← heq, h.handed, ← h.enqueued] at hlen
    omega
  · intro hcount
    refine hprefixed.eq_of_length ?_
    rw [h.handed, ← h.enqueued, hlen, hcount, Nat.add_zero]

/-! ## The calls of `report` -/

/-- The accepted calls and the positions of the queue belong together. -/
structure Indexed (s : Pipeline σ α) : Prop where
  position : ∀ (c : Nat) (item : α) (n : Nat), s.calls[c]? = some ⟨item, .accepted n⟩ →
    s.enqueued[n]? = some item
  covered : ∀ n, n < s.enqueued.length →
    ∃ (c : Nat) (item : α), s.calls[c]? = some ⟨item, .accepted n⟩

theorem indexed_new (capacity : Option Nat) (sink₀ : σ) :
    (new capacity sink₀ : Pipeline σ α).Indexed where
  position c item n h := by cases h
  covered n h := absurd h (Nat.not_lt_zero n)

/-- A call that was only checked gets another status. -/
theorem getElem?_set_accepted {calls : List (ReportCall α)} {call : Nat} {item : α}
    {status : CallStatus} (hcall : calls[call]? = some ⟨item, .checked⟩) {c n : Nat} {x : α} :
    (calls.set call ⟨item, status⟩)[c]? = some ⟨x, .accepted n⟩ ↔
      (c = call ∧ item = x ∧ status = .accepted n) ∨ calls[c]? = some ⟨x, .accepted n⟩ := by
  obtain ⟨hlt, hget⟩ := List.getElem?_eq_some_iff.1 hcall
  rw [List.getElem?_set]
  by_cases hc : call = c
  · subst hc
    simp [hlt, hget]
  · simp [hc, Ne.symm hc]

/-- A new call is not accepted yet. -/
theorem getElem?_concat_accepted {calls : List (ReportCall α)} {item : α} {status : CallStatus}
    (hstatus : ∀ n, status ≠ .accepted n) {c n : Nat} {x : α} :
    (calls ++ [⟨item, status⟩])[c]? = some ⟨x, .accepted n⟩ ↔
      calls[c]? = some ⟨x, .accepted n⟩ := by
  rcases Nat.lt_trichotomy c calls.length with hlt | rfl | hgt
  · rw [List.getElem?_append_left hlt]
  · simp [hstatus n]
  · rw [List.getElem?_eq_none (by simp; omega), List.getElem?_eq_none (by omega)]

/-- A call whose item is not accepted. -/
theorem Indexed.settle (hs : s.Indexed) {call : Nat} {item : α} {status : CallStatus}
    (hchecked : s.calls[call]? = some ⟨item, .checked⟩) (hstatus : ∀ n, status ≠ .accepted n) :
    Indexed { s with calls := s.calls.set call ⟨item, status⟩ } where
  position c x n hc := by
    rcases (getElem?_set_accepted hchecked).1 hc with ⟨-, -, hn⟩ | hold
    · exact absurd hn (hstatus n)
    · exact hs.position c x n hold
  covered n hn := by
    obtain ⟨c, x, hc⟩ := hs.covered n hn
    exact ⟨c, x, (getElem?_set_accepted hchecked).2 (Or.inr hc)⟩

theorem Indexed.step (hs : s.Indexed) (h : s.step sink e = some s') : s'.Indexed := by
  cases step_effect h with
  | accepted call item hchecked =>
    constructor
    · intro c x n hc
      rcases (getElem?_set_accepted hchecked).1 hc with ⟨-, rfl, hn⟩ | hold
      -- the position is the length before, and the item goes to the end
      · obtain rfl := CallStatus.accepted.inj hn
        exact List.getElem?_concat_length
      · have hx := hs.position c x n hold
        exact (List.getElem?_append_left (List.getElem?_eq_some_iff.1 hx).1).trans hx
    · intro n hn
      have hlen : n < s.enqueued.length + 1 := by simpa using hn
      rcases Nat.lt_succ_iff_lt_or_eq.1 hlen with hlt | rfl
      · obtain ⟨c, x, hc⟩ := hs.covered n hlt
        exact ⟨c, x, (getElem?_set_accepted hchecked).2 (Or.inr hc)⟩
      · exact ⟨call, item, (getElem?_set_accepted hchecked).2 (Or.inl ⟨rfl, rfl, rfl⟩)⟩
  | failed call item hchecked => exact hs.settle hchecked (by simp)
  | panicked call item hchecked => exact hs.settle hchecked (by simp)
  | report item =>
    have hstatus : ∀ n, (if s.worker.isClosing then .refused else .checked) ≠
        CallStatus.accepted n := by
      cases s.worker.isClosing <;> simp
    constructor
    · intro c x n hc
      exact hs.position c x n ((getElem?_concat_accepted hstatus).1 hc)
    · intro n hn
      obtain ⟨c, x, hc⟩ := hs.covered n hn
      exact ⟨c, x, (getElem?_concat_accepted hstatus).2 hc⟩
  | cloneReporter => exact ⟨hs.position, hs.covered⟩
  | dropReporter => exact ⟨hs.position, hs.covered⟩
  | took => exact ⟨hs.position, hs.covered⟩
  | foundEmpty => exact ⟨hs.position, hs.covered⟩
  | ended => exact ⟨hs.position, hs.covered⟩
  | disconnected => exact ⟨hs.position, hs.covered⟩
  | worker => exact ⟨hs.position, hs.covered⟩
  | dropLocals => exact ⟨hs.position, hs.covered⟩

theorem run_indexed (hs : s.Indexed) (hrun : run sink s es = some s') : s'.Indexed :=
  Execution.run_invariant hs (fun _ _ _ h hstep => h.step hstep) hrun

/-! ## In order, and complete up to the closing -/

/-- The answers that the calls of the sink get. -/
def answers (es : List (PipelineEvent α ω)) : List ω :=
  es.filterMap fun
    | .worker (.report answer) => some answer
    | _ => none

/-- Only the store sets the flag. -/
theorem eq_storeClosing_of_step {e : PipelineEvent α ω} (hstep : s.step sink e = some s')
    (hbefore : s.worker.isClosing = false) (hset : s'.worker.isClosing = true) :
    e = .worker .storeClosing := by
  cases step_effect hstep with
  | worker e w hown =>
    cases hown with
    | storeClosing => rfl
    | recvShutdown => exact absurd hset (by simp [hbefore])
    | report => exact absurd hset (by simp [hbefore])
    | reported => exact absurd hset (by simp [hbefore])
    | signal => exact absurd hset (by simp [hbefore])
    | dropLocals => exact absurd hset (by simp [hbefore])
  | dropLocals w hown =>
    cases hown with
    | dropLocals => exact absurd hset (by simp [hbefore])
  | _ => exact absurd hset (by simp [report, hbefore])

/-- Where the flag was set. -/
theorem exists_storeClosing {s₀ : Pipeline σ α} (hopen : s₀.worker.isClosing = false)
    (hrun : run sink s₀ es = some s) (hclosing : s.worker.isClosing = true) :
    ∃ pre post s₁ s₂, es = pre ++ .worker .storeClosing :: post ∧ run sink s₀ pre = some s₁ ∧
      s₁.worker.isClosing = false ∧ s₁.step sink (.worker .storeClosing) = some s₂ ∧
      run sink s₂ post = some s := by
  obtain ⟨pre, e, post, s₁, s₂, rfl, hpre, hflag, hstep, hset, hpost⟩ :=
    Execution.run_raises (p := fun s : Pipeline σ α => s.worker.isClosing) hrun hopen hclosing
  obtain rfl := eq_storeClosing_of_step hstep hflag hset
  exact ⟨pre, post, s₁, s₂, rfl, hpre, hflag, hstep, hpost⟩

/-- What was enqueued at the store is handed over when the loops are over. -/
theorem handed_of_storeClosing {s₁ s₂ : Pipeline σ α} (hs₁ : s₁.Conserved)
    (hstore : s₁.step sink (.worker .storeClosing) = some s₂) (hpost : run sink s₂ es = some s)
    {r : Except (Error TryRecvError) Unit} (hr : s.worker.work.result? = some r) :
    s₁.enqueued <+: s.worker.handed := by
  have hstart : s₂.worker.work.result? = none := by
    cases step_effect hstore with
    | worker e w hown =>
      cases hown
      rfl
  obtain ⟨pre, post, t₁, t₂, -, hlook⟩ := exists_lastLook (hs₁.step hstore) hstart hpost hr
  rw [hlook.handed]
  exact (enqueued_prefix_step hstore).trans (enqueued_prefix_run hlook.before)

/-- The sink is what the calls for the items handed over have made of it, with the answers of the
run, and the drop. -/
structure Called (sink : Sink σ α ω) (sink₀ : σ) (es : List (PipelineEvent α ω))
    (s : Pipeline σ α) : Prop where
  length : (answers es).length = s.worker.handed.length
  eq : s.worker.sink = (if s.worker.work.isDropped then sink.drop else id)
    (sink.after sink₀ ((answers es).zip s.worker.handed))

theorem answers_concat (es : List (PipelineEvent α ω)) (e : PipelineEvent α ω) :
    answers (es ++ [e]) = answers es ++ answers [e] := by
  simp [answers]

/-- A step without a call. -/
theorem Called.keep {sink₀ : σ} (h : Called sink sink₀ es s) (hnone : answers [e] = [])
    (hhanded : s'.worker.handed = s.worker.handed) (hsink : s'.worker.sink = s.worker.sink)
    (hdropped : s'.worker.work.isDropped = s.worker.work.isDropped) :
    Called sink sink₀ (es ++ [e]) s' where
  length := by rw [answers_concat, hnone, List.append_nil, hhanded, h.length]
  eq := by rw [answers_concat, hnone, List.append_nil, hhanded, hsink, hdropped, h.eq]

theorem Called.step {sink₀ : σ} (h : Called sink sink₀ es s) (hstep : s.step sink e = some s') :
    Called sink sink₀ (es ++ [e]) s' := by
  cases step_effect hstep with
  | cloneReporter | dropReporter | report | accepted | failed | panicked =>
    exact h.keep rfl rfl rfl rfl
  | took loop hwork => exact h.keep rfl rfl rfl (by rw [hwork]; rfl)
  | foundEmpty hwork => exact h.keep rfl rfl rfl (by rw [hwork]; rfl)
  | ended hwork => exact h.keep rfl rfl rfl (by rw [hwork]; rfl)
  | disconnected hwork => exact h.keep rfl rfl rfl (by rw [hwork]; rfl)
  | worker e w hown hstay =>
    have hdropped := hown.isDropped hstay
    cases hown with
    | report answer loop item hwork =>
      have hlength := h.length
      have heq := h.eq
      have hanswers : answers (es ++ [.worker (.report answer)]) = answers es ++ [answer] :=
        answers_concat es _
      rw [hwork] at heq
      refine ⟨by simp [hanswers, hlength], ?_⟩
      -- the new call comes last
      show sink.report answer item s.worker.sink = _
      rw [heq, hanswers, List.zip_append hlength]
      simp [Sink.after, WorkFut.isDropped]
    | dropLocals => exact absurd rfl hstay
    | _ => exact h.keep rfl rfl rfl hdropped
  | dropLocals w hown =>
    cases hown with
    | dropLocals result hwork =>
      have hnone : answers (es ++ [.worker .dropLocals]) = answers es :=
        (answers_concat es _).trans (List.append_nil _)
      have heq := h.eq
      rw [hwork] at heq
      refine ⟨by rw [hnone]; exact h.length, ?_⟩
      show sink.drop s.worker.sink = _
      rw [heq, hnone]
      rfl

theorem run_called (capacity : Option Nat) {sink₀ : σ}
    (hrun : run sink (new capacity sink₀) es = some s) : Called sink sink₀ es s :=
  Execution.run_history (I := Called sink sink₀) ⟨rfl, rfl⟩
    (fun _ _ _ _ h hstep => h.step hstep) hrun

/-- At every moment the items handed over are a prefix of those enqueued, and the sink has been
called for them, one after the other. When the worker ends with `Ok`, it had got a shutdown signal,
and every item that was enqueued when it set `is_closing` has been handed over. -/
theorem handed_in_order (sink : Sink σ α ω) (capacity : Option Nat) (sink₀ : σ)
    (hrun : run sink (new capacity sink₀) es = some s) :
    s.worker.handed <+: s.enqueued ∧
      Called sink sink₀ es s ∧
      (s.worker.result = some (.ok ()) → s.worker.shutdown = .sent ∧
        ∃ pre post s₁, es = pre ++ .worker .storeClosing :: post ∧
          run sink (new capacity sink₀) pre = some s₁ ∧ s₁.worker.isClosing = false ∧
          s₁.enqueued <+: s.worker.handed) := by
  have hconserved := run_conserved (conserved_new capacity sink₀) hrun
  refine ⟨(List.prefix_append _ _).trans hconserved.taken, run_called capacity hrun, fun hok => ?_⟩
  obtain ⟨hwork, hsent⟩ := Worker.result_eq_ok_iff.1 hok
  have hphased := run_phased (phased_new capacity sink₀) hrun
  obtain ⟨pre, post, s₁, s₂, rfl, hpre, hflag, hstore, hpost⟩ := exists_storeClosing rfl hrun
    (by rw [hphased.isClosing, hwork]; rfl)
  refine ⟨hsent, pre, post, s₁, rfl, hpre, hflag, ?_⟩
  exact handed_of_storeClosing (run_conserved (conserved_new capacity sink₀) hpre) hstore hpost
    (r := .ok ()) (by rw [hwork]; rfl)

end Pipeline

/-- The worker of the gRPC reporter, with a fresh reporter. -/
abbrev grpcStart : Pipeline (InnerReportSender String) CollectItem := .new none .new

/-- The worker of the Kafka reporter, with a fresh reporter and no namespace. -/
abbrev kafkaStart : Pipeline (KafkaProducer String) CollectItem := .new none (.new none)

/-- Items that differ by their number. -/
def sampleItem (n : Nat) : CollectItem := .ping ⟨"service", toString n, "layer"⟩

/-- One item before the shutdown signal and one that is left for the flush. -/
def gracefulRun : List (PipelineEvent CollectItem (Except String Unit)) :=
  [.report (sampleItem 0), .produce 0, .ask .consume, .worker (.report (.ok ())),
    .worker .reported, .report (sampleItem 1), .produce 1, .worker .signal, .worker .recvShutdown,
    .worker .storeClosing, .ask .flush, .worker (.report (.ok ())), .worker .reported,
    .ask .flush, .worker .dropLocals, .dropReporter]

/-- The events up to the last look into the channel. -/
def gracefulBefore : List (PipelineEvent CollectItem (Except String Unit)) := gracefulRun.take 13

theorem Pipeline.handed_in_order_gracefulRun :
    (∃ s, Execution.run ReportSender.start grpcStart gracefulRun = some s ∧
      s.worker.handed <+: s.enqueued ∧ s.worker.shutdown = .sent) ∧
    ∃ s, Execution.run (KafkaReporting.spawn fun _ => []) kafkaStart gracefulRun = some s ∧
      s.worker.handed <+: s.enqueued ∧ s.worker.shutdown = .sent := by
  constructor
  · obtain ⟨s, hrun, hok⟩ : ∃ s, Execution.run ReportSender.start grpcStart gracefulRun = some s ∧
        s.worker.result = some (.ok ()) := ⟨_, rfl, rfl⟩
    obtain ⟨hprefixed, -, hsent⟩ := handed_in_order InnerReportSender.sink none .new hrun
    exact ⟨s, hrun, hprefixed, (hsent hok).1⟩
  · obtain ⟨s, hrun, hok⟩ : ∃ s, Execution.run (KafkaReporting.spawn fun _ => []) kafkaStart
        gracefulRun = some s ∧ s.worker.result = some (.ok ()) := ⟨_, rfl, rfl⟩
    obtain ⟨hprefixed, -, hsent⟩ :=
      handed_in_order (KafkaProducer.sink fun _ => []) none (.new none) hrun
    exact ⟨s, hrun, hprefixed, (hsent hok).1⟩

namespace Pipeline

variable {σ α ω : Type} {sink : Sink σ α ω} {s : Pipeline σ α}
  {es : List (PipelineEvent α ω)}

/-! ## The end of the input -/

/-- The splits of a list at the last occurrence of an element agree. -/
theorem eq_of_last_split {β : Type} {a : β} {pre pre' post post' : List β}
    (h : pre ++ a :: post = pre' ++ a :: post') (hpost : a ∉ post) (hpost' : a ∉ post') :
    pre = pre' ∧ post = post' := by
  rcases List.append_eq_append_iff.1 h with ⟨as, rfl, has⟩ | ⟨as, rfl, has⟩
  · cases as with
    | nil => simpa using has
    | cons b as =>
      obtain ⟨-, rfl⟩ := List.cons.inj has
      exact absurd (by simp) hpost
  · cases as with
    | nil => simpa [eq_comm] using has
    | cons b as =>
      obtain ⟨-, rfl⟩ := List.cons.inj has
      exact absurd (by simp) hpost'

/-- The condition on a run: at the last look into the channel some reporter is left, and from then
on nothing is produced until the worker drops its receiver. -/
def CleanStop (sink : Sink σ α ω) (s₀ : Pipeline σ α) (es : List (PipelineEvent α ω)) : Prop :=
  ∃ pre post s₁, es = pre ++ .ask .flush :: post ∧ .ask .flush ∉ post ∧
    run sink s₀ pre = some s₁ ∧ s₁.queue.senders ≠ 0 ∧
    ∀ e ∈ window post, e.isProduce = false

/-- A worker that has ended has handed over every enqueued item and ended with `Ok` exactly when its
stop was clean. -/
theorem ends_clean_iff (sink : Sink σ α ω) (capacity : Option Nat) (sink₀ : σ)
    (hrun : run sink (new capacity sink₀) es = some s) (hend : s.worker.result.isSome) :
    (s.worker.result = some (.ok ()) ∧ s.worker.handed = s.enqueued) ↔
      CleanStop sink (new capacity sink₀) es := by
  obtain ⟨r, hr⟩ := Option.isSome_iff_exists.1 hend
  obtain ⟨r', hwork, herror⟩ := Worker.work_of_result hr
  have hconserved := run_conserved (conserved_new capacity sink₀) hrun
  have hclosed : s.queue.receiving = false := by rw [hconserved.receiving, hwork]; rfl
  obtain ⟨pre, post, s₁, s₂, rfl, hlook⟩ := exists_lastLook (conserved_new capacity sink₀) rfl hrun
    (r := r') (by rw [hwork]; rfl)
  have hall := hlook.handed_eq_enqueued_iff hclosed
  constructor
  · rintro ⟨hok, hhanded⟩
    have hclean : r' = .ok () := by
      have h := (Worker.result_eq_ok_iff.1 hok).1
      rw [hwork] at h
      exact WorkFut.dropped.inj h
    exact ⟨pre, post, s₁, rfl, hlook.last, hlook.before, hlook.clean.1 hclean, hall.1 hhanded⟩
  · rintro ⟨pre', post', s₁', hsplit, hlast, hbefore, hsenders, hwindow⟩
    obtain ⟨rfl, rfl⟩ := eq_of_last_split hsplit hlook.last hlast
    obtain rfl := Option.some.inj (hlook.before.symm.trans hbefore)
    refine ⟨Worker.result_eq_ok_iff.2 ⟨?_, ?_⟩, hall.2 hwindow⟩
    · rw [hwork, hlook.clean.2 hsenders]
    · exact run_sent (sent_of_look (run_phased (phased_new capacity sink₀) hbefore) hlook.look
        hsenders) (Execution.run_cons_iff.2 ⟨s₂, hlook.look, hlook.after⟩)

end Pipeline

theorem Pipeline.ends_clean_iff_gracefulRun :
    ∃ s, Execution.run ReportSender.start grpcStart gracefulRun = some s ∧
      s.queue.senders = 0 ∧ s.worker.result = some (.ok ()) ∧ s.worker.handed = s.enqueued := by
  obtain ⟨s, hrun, hsenders, hend⟩ : ∃ s, Execution.run ReportSender.start grpcStart gracefulRun =
      some s ∧ s.queue.senders = 0 ∧ s.worker.result.isSome := ⟨_, rfl, rfl, rfl⟩
  refine ⟨s, hrun, hsenders,
    (ends_clean_iff InnerReportSender.sink none .new hrun hend).2 ⟨gracefulBefore,
      [.worker .dropLocals, .dropReporter], _, rfl, by decide, rfl, by decide, by decide⟩⟩

/-- The last reporter is dropped, the worker sees the end of the input, and the flush takes the end
of the input for an error. -/
def endOfInput : List (PipelineEvent CollectItem (Except String Unit)) :=
  [.report (sampleItem 0), .produce 0, .dropReporter, .ask .consume, .worker (.report (.ok ())),
    .worker .reported, .ask .consume, .worker .storeClosing, .ask .flush, .worker .dropLocals]

theorem Pipeline.end_of_input_fails :
    (∃ s, Execution.run ReportSender.start grpcStart endOfInput = some s ∧ s.queue.senders = 0 ∧
      s.worker.handed = s.enqueued ∧
      s.worker.result = some (.error (.consumer .disconnected))) ∧
    ∃ s, Execution.run (KafkaReporting.spawn fun _ => []) kafkaStart endOfInput = some s ∧
      s.queue.senders = 0 ∧ s.worker.handed = s.enqueued ∧
      s.worker.result = some (.error (.consumer .disconnected)) :=
  ⟨⟨_, rfl, rfl, rfl, rfl⟩, ⟨_, rfl, rfl, rfl, rfl⟩⟩

/-! ## Accepted items -/

/-- A call of `report` that is over has refused its item, or called `err_handle`, or its item was
handed over. -/
def ReportCall.Settled {α : Type} (handed : List α) (call : ReportCall α) : Prop :=
  match call.status with
  | .checked => False
  | .refused => True
  | .failed => True
  | .panicked => False
  | .accepted position => handed[position]? = some call.item

theorem ReportCall.not_settled {α : Type} {handed : List α} {item : α} {position : Nat}
    (h : handed.length ≤ position) :
    ¬ ReportCall.Settled handed ⟨item, .accepted position⟩ := by
  simp [ReportCall.Settled, h]

namespace Pipeline

variable {σ α ω : Type} {sink : Sink σ α ω} {s s' : Pipeline σ α} {e : PipelineEvent α ω}
  {es : List (PipelineEvent α ω)}

/-- The condition on a run: nothing is produced between the last look into the channel and the drop
of its receiver. -/
def NoLateProduce (es : List (PipelineEvent α ω)) : Prop :=
  ∃ pre post, es = pre ++ .ask .flush :: post ∧ .ask .flush ∉ post ∧
    ∀ e ∈ window post, e.isProduce = false

theorem exists_panicked_set {calls : List (ReportCall α)} {call : Nat} {item : α}
    {status : CallStatus} (hcall : calls[call]? = some ⟨item, .checked⟩) :
    (∃ c ∈ calls.set call ⟨item, status⟩, c.status = .panicked) ↔
      (∃ c ∈ calls, c.status = .panicked) ∨ status = .panicked := by
  obtain ⟨hlt, hget⟩ := List.getElem?_eq_some_iff.1 hcall
  constructor
  · rintro ⟨c, hmem, hc⟩
    rcases List.mem_or_eq_of_mem_set hmem with hold | rfl
    · exact Or.inl ⟨c, hold, hc⟩
    · exact Or.inr hc
  · rintro (⟨c, hmem, hc⟩ | hstatus)
    · obtain ⟨n, hn⟩ := List.mem_iff_getElem?.1 hmem
      have hne : call ≠ n := by
        -- the call that is set was only checked
        rintro rfl
        rw [hcall, Option.some.injEq] at hn
        subst hn
        cases hc
      exact ⟨c, List.mem_of_getElem? ((List.getElem?_set_ne hne).trans hn), hc⟩
    · exact ⟨⟨item, status⟩, List.mem_set hlt _, hstatus⟩

/-- A panicked call stays one, and only the event makes one. -/
theorem exists_panicked_step (h : s.step sink e = some s') :
    (∃ call ∈ s'.calls, call.status = .panicked) ↔
      (∃ call ∈ s.calls, call.status = .panicked) ∨ e.isProducePanics = true := by
  cases step_effect h with
  | report item =>
    have hnew : (if s.worker.isClosing then CallStatus.refused else .checked) ≠ .panicked := by
      split
      · exact nofun
      · exact nofun
    simp [Pipeline.report, PipelineEvent.isProducePanics, or_and_right, exists_or, hnew]
  | accepted call item hchecked =>
    rw [exists_panicked_set hchecked]
    simp [PipelineEvent.isProducePanics]
  | failed call item hchecked =>
    rw [exists_panicked_set hchecked]
    simp [PipelineEvent.isProducePanics]
  | panicked call item hchecked =>
    rw [exists_panicked_set hchecked]
    simp [PipelineEvent.isProducePanics]
  | _ => simp [PipelineEvent.isProducePanics]

theorem exists_panicked_iff {s₀ : Pipeline σ α} (hcalls : s₀.calls = [])
    (hrun : run sink s₀ es = some s) :
    (∃ call ∈ s.calls, call.status = .panicked) ↔ ∃ e ∈ es, e.isProducePanics = true := by
  induction es using List.reverseRecOn generalizing s with
  | nil =>
    obtain rfl := Option.some.inj hrun
    simp [hcalls]
  | append_singleton es e ih =>
    obtain ⟨m, hm, hstep⟩ := Execution.run_concat_iff.1 hrun
    rw [exists_panicked_step hstep, ih hm]
    simp [or_and_right, exists_or]

/-- The capacity of the channel is that of its creation. -/
theorem capacity_step (h : s.step sink e = some s') : s'.queue.capacity = s.queue.capacity := by
  cases step_effect h with
  | _ => rfl

/-- With an unbounded channel no call panics. -/
theorem not_producePanics_of_unbounded {sink₀ : σ} (hrun : run sink (new none sink₀) es = some s) :
    ∀ e ∈ es, e.isProducePanics = false := by
  intro e he
  obtain ⟨n, hn⟩ := List.mem_iff_getElem?.1 he
  obtain ⟨a, b, hpre, hstep, -⟩ := Execution.exists_step_at hrun hn
  have hcapacity : a.queue.capacity = none :=
    Execution.run_invariant (I := fun t : Pipeline σ α => t.queue.capacity = none) rfl
      (fun _ _ _ h hstep => (capacity_step hstep).trans h) hpre
  cases step_effect hstep with
  | panicked call item hchecked hbounded =>
    rw [hcapacity] at hbounded
    cases hbounded
  | _ => rfl

/-- The calls that are over are settled when those that have returned are, and none has panicked. -/
theorem settled_iff_returned {calls : List (ReportCall α)} {handed : List α} :
    (∀ call ∈ calls, call.status ≠ .checked → call.Settled handed) ↔
      (¬∃ call ∈ calls, call.status = .panicked) ∧
        ∀ call ∈ calls, call.status.hasReturned = true → call.Settled handed := by
  constructor
  · intro hall
    constructor
    · rintro ⟨⟨item, status⟩, hcall, rfl⟩
      exact hall _ hcall nofun
    · intro call hcall hreturned
      apply hall call hcall
      intro hchecked
      rw [hchecked] at hreturned
      cases hreturned
  · rintro ⟨hcalm, hall⟩ ⟨item, status⟩ hcall hstatus
    cases status with
    | checked => exact absurd rfl hstatus
    | panicked => exact absurd ⟨_, hcall, rfl⟩ hcalm
    | refused | failed | accepted => exact hall _ hcall rfl

/-- When the worker has ended with `Ok`, every call of `report` that has returned is settled exactly
when nothing was produced after the last look into the channel; and every call that is over exactly
when no `produce` has panicked besides. -/
theorem calls_settled_iff (sink : Sink σ α ω) (capacity : Option Nat) (sink₀ : σ)
    (hrun : run sink (new capacity sink₀) es = some s) (hok : s.worker.result = some (.ok ())) :
    ((∀ call ∈ s.calls, call.status.hasReturned = true → call.Settled s.worker.handed) ↔
      NoLateProduce es) ∧
    ((∀ call ∈ s.calls, call.status ≠ .checked → call.Settled s.worker.handed) ↔
      (∀ e ∈ es, e.isProducePanics = false) ∧ NoLateProduce es) := by
  obtain ⟨hwork, -⟩ := Worker.result_eq_ok_iff.1 hok
  have hconserved := run_conserved (conserved_new capacity sink₀) hrun
  have hindexed := run_indexed (indexed_new capacity sink₀) hrun
  have hclosed : s.queue.receiving = false := by rw [hconserved.receiving, hwork]; rfl
  have hprefixed : s.worker.handed <+: s.enqueued :=
    (List.prefix_append _ _).trans hconserved.taken
  -- every position of the queue belongs to an accepted call, so all are settled iff none is left
  have hall : (∀ call ∈ s.calls, call.status.hasReturned = true → call.Settled s.worker.handed) ↔
      s.worker.handed = s.enqueued := by
    constructor
    · intro hall
      apply hprefixed.eq_of_length_le
      apply Nat.le_of_not_lt
      intro hlt
      obtain ⟨c, item, hc⟩ := hindexed.covered _ hlt
      exact ReportCall.not_settled (Nat.le_refl _) (hall _ (List.mem_of_getElem? hc) rfl)
    · rintro heq ⟨item, status⟩ hcall hreturned
      obtain ⟨c, hc⟩ := List.mem_iff_getElem?.1 hcall
      cases status with
      | checked => cases hreturned
      | panicked => cases hreturned
      | refused => trivial
      | failed => trivial
      | accepted n =>
        show s.worker.handed[n]? = some item
        rw [heq]
        exact hindexed.position c item n hc
  have hreturned : (∀ call ∈ s.calls, call.status.hasReturned = true →
      call.Settled s.worker.handed) ↔ NoLateProduce es := by
    obtain ⟨pre, post, s₁, s₂, rfl, hlook⟩ :=
      exists_lastLook (conserved_new capacity sink₀) rfl hrun (r := .ok ()) (by rw [hwork]; rfl)
    rw [hall, hlook.handed_eq_enqueued_iff hclosed]
    constructor
    · intro hwindow
      exact ⟨pre, post, rfl, hlook.last, hwindow⟩
    · rintro ⟨pre', post', hsplit, hlast, hwindow⟩
      -- the last look of a run is one step of it
      obtain ⟨-, rfl⟩ := eq_of_last_split hsplit hlook.last hlast
      exact hwindow
  refine ⟨hreturned, ?_⟩
  have hcalls : (new capacity sink₀ : Pipeline σ α).calls = [] := rfl
  rw [settled_iff_returned, exists_panicked_iff hcalls hrun, hreturned]
  simp

end Pipeline

theorem Pipeline.calls_settled_iff_gracefulRun :
    ∃ s, Execution.run ReportSender.start grpcStart gracefulRun = some s ∧
      ∀ call ∈ s.calls, call.status ≠ .checked → call.Settled s.worker.handed := by
  obtain ⟨s, hrun, hok⟩ : ∃ s, Execution.run ReportSender.start grpcStart gracefulRun = some s ∧
      s.worker.result = some (.ok ()) := ⟨_, rfl, rfl⟩
  obtain ⟨-, hover⟩ := calls_settled_iff InnerReportSender.sink none .new hrun hok
  refine ⟨s, hrun, hover.2 ⟨by decide, ?_⟩⟩
  exact ⟨gracefulBefore, [.worker .dropLocals, .dropReporter], rfl, by decide, by decide⟩

/-- A call reads the flag before the store and produces its item after the last look. -/
def lateProduce : List (PipelineEvent CollectItem (Except String Unit)) :=
  [.report (sampleItem 0), .worker .signal, .worker .recvShutdown, .worker .storeClosing,
    .ask .flush, .produce 0, .worker .dropLocals]

theorem Pipeline.late_item_is_lost :
    (∃ s, Execution.run ReportSender.start grpcStart lateProduce = some s ∧
      s.worker.result = some (.ok ()) ∧
      ∃ call ∈ s.calls, call.status = .accepted 0 ∧ ¬ call.Settled s.worker.handed) ∧
    ∃ s, Execution.run (KafkaReporting.spawn fun _ => []) kafkaStart lateProduce = some s ∧
      s.worker.result = some (.ok ()) ∧
      ∃ call ∈ s.calls, call.status = .accepted 0 ∧ ¬ call.Settled s.worker.handed :=
  ⟨⟨_, rfl, rfl, _, List.mem_singleton_self _, rfl, ReportCall.not_settled (by decide)⟩,
    ⟨_, rfl, rfl, _, List.mem_singleton_self _, rfl, ReportCall.not_settled (by decide)⟩⟩

end SkywalkingAgent.Reporter
