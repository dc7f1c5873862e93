import SkywalkingAgent.Reporter.Accounting

/-!
# What the callers can rely on

A loop calls `report` again only after its last call has returned. Of such calls one at most has not
returned, so the queue has the items of the loop in the order in which the loop has made them
(`Pipeline.Serial`), whatever the other callers do. Callers that have all returned before the worker
sets `is_closing`, and call no more, find every item handed over when it ends
(`Pipeline.handed_of_quiet`).
-/

set_option autoImplicit false

namespace SkywalkingAgent.Reporter

open SkywalkingAgent.Lib SkywalkingAgent.Proto

/-! ## Items of one loop -/

namespace Pipeline

variable {σ α ω : Type} {sink : Sink σ α ω} {s s' : Pipeline σ α} {p : α → Bool} {log : List α}

/-- The items of the calls that have not returned. -/
def unreturned (s : Pipeline σ α) : List α :=
  itemsOf (fun status => !status.hasReturned) s.calls

/-- The items with `p` come from one loop, which has logged them: what is enqueued and what its
calls hold is in the order of its log, and one call at most has not returned. -/
structure Serial (p : α → Bool) (log : List α) (s : Pipeline σ α) : Prop where
  order : ((s.enqueued ++ s.unreturned).filter p).Sublist log
  alone : (s.unreturned.filter p).length ≤ 1

/-- Permutations of at most one element are equal. -/
theorem eq_of_perm_of_length_le {l m : List α} (h : l.Perm m) (hl : l.length ≤ 1) : l = m := by
  cases l with
  | nil => exact h.nil_eq
  | cons a l =>
    cases l with
    | nil => exact List.singleton_perm.1 h
    | cons b l =>
      simp only [List.length_cons] at hl
      omega

/-- A call that returns was the only one of its loop. -/
theorem Serial.unreturned_eq (hs : Serial p log s) {call : Nat} {item : α} {status : CallStatus}
    (hcall : s.calls[call]? = some ⟨item, .checked⟩) (hstatus : status.hasReturned = true) :
    s.unreturned.filter p = [item].filter p ++
      (itemsOf (fun status => !status.hasReturned) (s.calls.set call ⟨item, status⟩)).filter p := by
  have hset := itemsOf_set (p := fun status => !status.hasReturned) status hcall
  have hchecked : CallStatus.checked.hasReturned = false := rfl
  simp only [hstatus, hchecked, Bool.not_true, Bool.not_false, Bool.false_eq_true, if_true,
    if_false, List.append_nil] at hset
  have hperm := (hset.symm.trans List.perm_append_comm).filter p
  rw [List.filter_append] at hperm
  exact eq_of_perm_of_length_le hperm hs.alone

theorem Serial.step {e : PipelineEvent α ω} (hs : Serial p log s) (h : s.step sink e = some s')
    (hother : ∀ item, e ≠ .report item) : Serial p log s' := by
  cases step_effect h with
  | report item => exact absurd rfl (hother item)
  | accepted call item checked receiving =>
    have hreturned : (CallStatus.accepted s.enqueued.length).hasReturned = true := rfl
    have hheld := hs.unreturned_eq checked hreturned
    have horder := hs.order
    have halone := hs.alone
    rw [List.filter_append, hheld] at horder
    rw [hheld, List.length_append] at halone
    refine ⟨?_, ?_⟩
    · rw [List.filter_append, List.filter_append, List.append_assoc]
      exact horder
    · exact Nat.le_trans (Nat.le_add_left _ _) halone
  | failed call item checked closed =>
    have hreturned : CallStatus.failed.hasReturned = true := rfl
    have hheld := hs.unreturned_eq checked hreturned
    have horder := hs.order
    have halone := hs.alone
    rw [List.filter_append, hheld] at horder
    rw [hheld, List.length_append] at halone
    refine ⟨?_, ?_⟩
    · rw [List.filter_append]
      exact (List.Sublist.append (List.Sublist.refl _) (List.sublist_append_right _ _)).trans horder
    · exact Nat.le_trans (Nat.le_add_left _ _) halone
  | panicked call item checked bounded =>
    have hsame : itemsOf (fun status => !status.hasReturned)
        (s.calls.set call ⟨item, .panicked⟩) = s.unreturned :=
      itemsOf_set_of_eq checked rfl
    refine ⟨?_, ?_⟩
    · show ((s.enqueued ++ itemsOf _ (s.calls.set call ⟨item, .panicked⟩)).filter p).Sublist log
      rw [hsame]
      exact hs.order
    · show ((itemsOf _ (s.calls.set call ⟨item, .panicked⟩)).filter p).length ≤ 1
      rw [hsame]
      exact hs.alone
  | _ => exact ⟨hs.order, hs.alone⟩

theorem unreturned_report (s : Pipeline σ α) (item : α) :
    (s.report item).unreturned = s.unreturned ++ if s.worker.isClosing then [] else [item] := by
  cases hclosing : s.worker.isClosing with
  | true => simp [unreturned, report, hclosing, itemsOf_concat, CallStatus.hasReturned]
  | false => simp [unreturned, report, hclosing, itemsOf_concat, CallStatus.hasReturned]

/-- A call of somebody else. -/
theorem Serial.report_other (hs : Serial p log s) {item : α} (hitem : p item = false) :
    Serial p log (s.report item) := by
  have hnothing : (if s.worker.isClosing then [] else [item]).filter p = [] := by
    split
    · rfl
    · simp [hitem]
  have hheld : (s.report item).unreturned.filter p = s.unreturned.filter p := by
    rw [unreturned_report, List.filter_append, hnothing, List.append_nil]
  refine ⟨?_, ?_⟩
  · rw [List.filter_append, hheld, ← List.filter_append]
    exact hs.order
  · rw [hheld]
    exact hs.alone

/-- A call of the loop, which makes none before the last one has returned. -/
theorem Serial.report_own (hs : Serial p log s) {item : α} (hidle : s.unreturned.filter p = []) :
    Serial p (log ++ [item]) (s.report item) := by
  have hheld : ((s.report item).unreturned.filter p).Sublist [item] := by
    rw [unreturned_report, List.filter_append, hidle, List.nil_append]
    refine List.filter_sublist.trans ?_
    split
    · exact List.nil_sublist _
    · exact List.Sublist.refl _
  have horder := hs.order
  rw [List.filter_append, hidle, List.append_nil] at horder
  refine ⟨?_, ?_⟩
  · rw [List.filter_append]
    exact List.Sublist.append horder hheld
  · exact hheld.length_le

theorem serial_new (capacity : Option Nat) (sink₀ : σ) :
    Serial p [] (new capacity sink₀ : Pipeline σ α) :=
  ⟨List.Sublist.refl _, Nat.zero_le 1⟩

/-- A call keeps its item. -/
theorem items_set {calls : List (ReportCall α)} {call : Nat} {item : α}
    {status status' : CallStatus} (hcall : calls[call]? = some ⟨item, status⟩) :
    ((calls.set call ⟨item, status'⟩).map fun call => call.item) =
      calls.map fun call => call.item := by
  obtain ⟨hlt, heq⟩ := List.getElem?_eq_some_iff.1 hcall
  rw [List.map_set]
  apply List.ext_getElem?
  intro n
  rw [List.getElem?_set]
  split
  · next hn =>
    subst hn
    simp [hlt, heq]
  · rfl

theorem step_report {item : α} (h : s.step sink (.report item) = some s') :
    s' = s.report item := by
  cases step_effect h with
  | report item => rfl

/-- Any other step leaves the items of the calls. -/
theorem items_step {e : PipelineEvent α ω} (h : s.step sink e = some s')
    (hother : ∀ item, e ≠ .report item) :
    (s'.calls.map fun call => call.item) = s.calls.map fun call => call.item := by
  cases step_effect h with
  | report item => exact absurd rfl (hother item)
  | accepted call item checked receiving => exact items_set checked
  | failed call item checked closed => exact items_set checked
  | panicked call item checked bounded => exact items_set checked
  | _ => rfl

/-! ## A quiet end -/

/-- Before the flag is set every call that has returned is accepted. -/
structure Welcoming (s : Pipeline σ α) : Prop where
  conserved : s.Conserved
  phased : s.Phased
  calls : s.worker.isClosing = false → ∀ call ∈ s.calls,
    call.status.hasReturned = false ∨ call.status.isAccepted = true

/-- The channel has its receiver until the flag is set. -/
theorem Welcoming.receiving (hs : s.Welcoming) (hopen : s.worker.isClosing = false) :
    s.queue.receiving = true := by
  have hflushing := hs.phased.isClosing
  rw [hopen] at hflushing
  rw [hs.conserved.receiving]
  cases hwork : s.worker.work with
  | dropped result =>
    rw [hwork] at hflushing
    cases hflushing
  | _ => rfl

theorem Welcoming.step {e : PipelineEvent α ω} (hs : s.Welcoming)
    (h : s.step sink e = some s') : s'.Welcoming := by
  refine ⟨hs.conserved.step h, hs.phased.step h, ?_⟩
  have hset : ∀ {calls : List (ReportCall α)} {c : Nat} {call : ReportCall α},
      (∀ call ∈ calls, call.status.hasReturned = false ∨ call.status.isAccepted = true) →
      (call.status.hasReturned = false ∨ call.status.isAccepted = true) →
      ∀ call' ∈ calls.set c call,
        call'.status.hasReturned = false ∨ call'.status.isAccepted = true := by
    intro calls c call hall hcall call' hmem
    rcases List.mem_or_eq_of_mem_set hmem with hold | rfl
    · exact hall call' hold
    · exact hcall
  intro hopen
  cases step_effect h with
  | report item =>
    intro call hmem
    have hopen' : s.worker.isClosing = false := hopen
    rcases List.mem_append.1 hmem with hold | hnew
    · exact hs.calls hopen' call hold
    · rw [List.mem_singleton.1 hnew, hopen']
      exact Or.inl rfl
  | accepted call item checked receiving => exact hset (hs.calls hopen) (Or.inr rfl)
  | failed call item checked closed =>
    rw [hs.receiving hopen] at closed
    cases closed
  | panicked call item checked bounded => exact hset (hs.calls hopen) (Or.inl rfl)
  | worker e w hown =>
    cases hown with
    | storeClosing => cases hopen
    | _ => exact hs.calls hopen
  | dropLocals w hown =>
    cases hown with
    | dropLocals result hwork => exact hs.calls hopen
  | _ => exact hs.calls hopen

theorem welcoming_new (capacity : Option Nat) (sink₀ : σ) :
    (new capacity sink₀ : Pipeline σ α).Welcoming where
  conserved := conserved_new capacity sink₀
  phased := phased_new capacity sink₀
  calls _ call hmem := by cases hmem

theorem run_welcoming {es : List (PipelineEvent α ω)} (hs : s.Welcoming)
    (hrun : run sink s es = some s') : s'.Welcoming :=
  Execution.run_invariant hs (fun _ _ _ h hstep => h.step hstep) hrun

/-- Where all calls have returned and none is made, the calls and the enqueued items stay as they
are. -/
theorem run_quiet {es : List (PipelineEvent α ω)} (hquiet : s.unreturned = [])
    (hcalls : ∀ e ∈ es, ∀ item, e ≠ .report item) (hrun : run sink s es = some s') :
    s'.calls = s.calls ∧ s'.enqueued = s.enqueued := by
  refine Execution.run_invariant_of_forall
    (I := fun t : Pipeline σ α => t.calls = s.calls ∧ t.enqueued = s.enqueued) hcalls ⟨rfl, rfl⟩
    ?_ hrun
  intro a b e hother ha hstep
  have hnone : ∀ {call : Nat} {item : α}, a.calls[call]? ≠ some ⟨item, .checked⟩ := by
    intro call item hcall
    rw [ha.1] at hcall
    have hmem : item ∈ s.unreturned := by
      refine List.mem_map.2 ⟨⟨item, .checked⟩, List.mem_filter.2 ⟨?_, rfl⟩, rfl⟩
      exact List.mem_of_getElem? hcall
    rw [hquiet] at hmem
    cases hmem
  cases step_effect hstep with
  | report item => exact absurd rfl (hother item)
  | accepted call item checked => exact absurd checked hnone
  | failed call item checked => exact absurd checked hnone
  | panicked call item checked => exact absurd checked hnone
  | _ => exact ha

/-- Of callers that have all returned before the flag is set, and that call no more, every item has
been accepted, and the worker has handed it over when its loops are over. -/
theorem handed_of_quiet {es : List (PipelineEvent α ω)} (hs : s.Welcoming)
    (hopen : s.worker.isClosing = false) (hquiet : s.unreturned = [])
    (hcalls : ∀ e ∈ es, ∀ item, e ≠ .report item) (hrun : run sink s es = some s')
    {r : Except (Error TryRecvError) Unit} (hr : s'.worker.work.result? = some r) :
    (∀ call ∈ s'.calls, call.status.isAccepted = true) ∧
      s'.worker.inHand = [] ∧ s'.untaken = [] := by
  have hs' : s'.Welcoming := run_welcoming hs hrun
  obtain ⟨hsame, henqueued⟩ := run_quiet hquiet hcalls hrun
  have hclosing : s'.worker.isClosing = true := by
    rw [hs'.phased.isClosing]
    cases hwork : s'.worker.work with
    | returning result => rfl
    | dropped result => rfl
    | _ =>
      rw [hwork] at hr
      cases hr
  obtain ⟨pre, post, s₁, s₂, rfl, hpre, -, hstore, hpost⟩ := exists_storeClosing hopen hrun hclosing
  have hbefore : s₁.enqueued = s.enqueued :=
    (run_quiet hquiet (fun e he => hcalls e (List.mem_append_left _ he)) hpre).2
  have hhanded := handed_of_storeClosing (run_welcoming hs hpre).conserved hstore hpost hr
  rw [hbefore, ← henqueued] at hhanded
  have hinHand : s'.worker.inHand = [] := by
    cases hwork : s'.worker.work with
    | received loop item =>
      rw [hwork] at hr
      cases hr
    | _ => simp [Worker.inHand, hwork]
  refine ⟨?_, hinHand, ?_⟩
  · intro call hmem
    rw [hsame] at hmem
    rcases hs.calls hopen call hmem with hheld | haccepted
    · have hitem : call.item ∈ s.unreturned :=
        List.mem_map.2 ⟨call, List.mem_filter.2 ⟨hmem, by simp [hheld]⟩, rfl⟩
      rw [hquiet] at hitem
      cases hitem
    · exact haccepted
  · rw [untaken, List.drop_eq_nil_iff, Worker.taken, hinHand, List.append_nil]
    exact hhanded.length_le

/-- No accepted call has another status. -/
theorem itemsOf_of_accepted {calls : List (ReportCall α)} {q : CallStatus → Bool}
    (haccepted : ∀ call ∈ calls, call.status.isAccepted = true)
    (hq : ∀ position, q (.accepted position) = false) : itemsOf q calls = [] := by
  have hfilter : (calls.filter fun call => q call.status) = [] := by
    apply List.filter_eq_nil_iff.2
    intro call hmem hstatus
    have hcall := haccepted call hmem
    cases hcase : call.status with
    | accepted position =>
      rw [hcase, hq position] at hstatus
      cases hstatus
    | _ =>
      rw [hcase] at hcall
      cases hcall
  rw [itemsOf, hfilter, List.map_nil]

theorem Enrolled.calls_perm (hs : s.Enrolled)
    (haccepted : ∀ call ∈ s.calls, call.status.isAccepted = true) :
    (s.calls.map fun call => call.item).Perm s.enqueued := by
  have hperm := SkywalkingAgent.Reporter.calls_perm s.calls
  rw [itemsOf_of_accepted haccepted fun _ => by simp,
    itemsOf_of_accepted haccepted fun _ => by simp,
    itemsOf_of_accepted haccepted fun _ => by simp,
    itemsOf_of_accepted haccepted fun _ => by simp, List.nil_append, List.nil_append,
    List.nil_append, List.nil_append] at hperm
  exact hperm.trans hs

theorem Conserved.handed_eq (hs : s.Conserved) (hinHand : s.worker.inHand = [])
    (huntaken : s.untaken = []) : s.worker.handed = s.enqueued := by
  have heq := hs.enqueued_eq
  rw [hinHand, huntaken, List.append_nil, List.append_nil] at heq
  exact heq.symm

/-- After a quiet end the sink was passed the items of all calls, in the order of the queue. -/
theorem calls_of_quiet {capacity : Option Nat} {sink₀ : σ} {es ds : List (PipelineEvent α ω)}
    (hrun : run sink (new capacity sink₀) es = some s) (hopen : s.worker.isClosing = false)
    (hquiet : s.unreturned = []) (hcalls : ∀ d ∈ ds, ∀ item, d ≠ .report item)
    (hrest : run sink s ds = some s') {r : Except (Error TryRecvError) Unit}
    (hr : s'.worker.work.result? = some r) :
    (s'.calls.map fun call => call.item).Perm s'.enqueued ∧ s'.worker.handed = s'.enqueued := by
  obtain ⟨haccepted, hinHand, huntaken⟩ :=
    handed_of_quiet (run_welcoming (welcoming_new capacity sink₀) hrun) hopen hquiet hcalls hrest hr
  have hwhole : run sink (new capacity sink₀) (es ++ ds) = some s' :=
    Execution.run_append_iff.2 ⟨s, hrun, hrest⟩
  constructor
  · exact (run_enrolled (s := new capacity sink₀) List.Perm.nil hwhole).calls_perm haccepted
  · exact (run_conserved (conserved_new capacity sink₀) hwhole).handed_eq hinHand huntaken

end Pipeline

/-! ## The gRPC reporter -/

namespace Reporting

variable {Status : Type} {s s' : Reporting Status}

/-- A call of `report` is added. -/
theorem step_report {item : CollectItem} (h : s.step (.pipeline (.report item)) = some s') :
    s'.pipeline = s.pipeline.report item := by
  obtain ⟨pipeline, hpipeline, rfl⟩ := Option.map_eq_some_iff.1 h
  exact Pipeline.step_report hpipeline

theorem run_reports {items : List CollectItem}
    (hrun : run s (items.map fun item => .pipeline (.report item)) = some s') :
    s'.pipeline = items.foldl Pipeline.report s.pipeline := by
  induction items generalizing s with
  | nil =>
    obtain rfl := Option.some.inj hrun
    rfl
  | cons item items ih =>
    obtain ⟨m, hm, hrest⟩ := Execution.run_cons_iff.1 hrun
    rw [ih hrest, step_report hm]
    rfl

/-- Any other step leaves the items of the calls and their order. -/
theorem step_other {e : ReportingEvent Status} (h : s.step e = some s')
    (hother : ∀ item, e ≠ .pipeline (.report item)) :
    (s'.pipeline.calls.map fun call => call.item) = s.pipeline.calls.map (fun call => call.item) ∧
      ∀ p log, s.pipeline.Serial p log → s'.pipeline.Serial p log := by
  cases e with
  | pipeline e =>
    obtain ⟨pipeline, hpipeline, rfl⟩ := Option.map_eq_some_iff.1 h
    have hother' : ∀ item, e ≠ .report item := fun item he => hother item (by rw [he])
    exact ⟨Pipeline.items_step hpipeline hother', fun p log hs => hs.step hpipeline hother'⟩
  | receive k e =>
    obtain ⟨next, hnext, rfl⟩ := Option.map_eq_some_iff.1 h
    exact ⟨rfl, fun p log hs => ⟨hs.order, hs.alone⟩⟩

/-- After a quiet end every payload has been yielded or is with `err_handle`. -/
theorem places_of_quiet {capacity : Option Nat} {es ds : List (ReportingEvent Status)}
    (hrun : run (new capacity) es = some s) (hopen : s.pipeline.worker.isClosing = false)
    (hquiet : s.pipeline.unreturned = []) (hcalls : ∀ d ∈ ds, ∀ item, d ≠ .pipeline (.report item))
    (hrest : run s ds = some s') {r : Except (Error TryRecvError) Unit}
    (hjoined : s'.joined = some r) :
    (s'.pipeline.calls.map fun call => call.item).Perm s'.pipeline.enqueued ∧
      s'.pipeline.worker.handed = s'.pipeline.enqueued ∧
      ∀ k, s'.places k = (s'.receiver k).yielded ++ s'.handled k := by
  have hforget : Pipeline.run Worker.noSink (Pipeline.new capacity ()) (pipelineEvents es) =
      some s.pipeline.forget := run_forget hrun
  obtain ⟨hresult, hreturned⟩ := joined_eq_ok hjoined
  obtain ⟨r', hwork, -⟩ := Worker.work_of_result hresult
  have hover : s'.pipeline.forget.worker.work.result? = some r' := by
    simp [Pipeline.forget, Worker.forget, hwork, WorkFut.result?]
  have hcalls' : ∀ e ∈ pipelineEvents ds, ∀ item, e ≠ .report item := by
    rintro e he item rfl
    obtain ⟨d, hd, hevent⟩ := List.mem_filterMap.1 he
    cases d with
    | pipeline e => exact hcalls _ hd item (congrArg _ (Option.some.inj hevent))
    | receive k e => cases hevent
  obtain ⟨haccepted, hinHand, huntaken⟩ := Pipeline.handed_of_quiet
    (Pipeline.run_welcoming (Pipeline.welcoming_new capacity ()) hforget) hopen hquiet hcalls'
    (run_forget hrest) hover
  have hwhole : run (new capacity) (es ++ ds) = some s' :=
    Execution.run_append_iff.2 ⟨s, hrun, hrest⟩
  have hforget' := run_forget hwhole
  have hinHand' : s'.pipeline.worker.inHand = [] := by
    rw [← hinHand]
    rfl
  have huntaken' : s'.pipeline.untaken = [] := huntaken
  have henrolled : s'.pipeline.forget.Enrolled :=
    Pipeline.run_enrolled (s := Pipeline.new capacity ()) List.Perm.nil hforget'
  refine ⟨henrolled.calls_perm haccepted, ?_, ?_⟩
  · exact (Pipeline.run_conserved (Pipeline.conserved_new capacity ()) hforget').handed_eq hinHand
      huntaken
  · intro k
    have hbuffer : (s'.channel k).buffer = [] := by
      have hflow := (run_sound (sound_new capacity) hwhole k).flow_of_returned (hreturned k)
      exact List.append_right_eq_self.1 hflow
    have hnil : payloads k [] = [] := rfl
    have haccepted' : ∀ call ∈ s'.pipeline.calls, call.status.isAccepted = true := haccepted
    rw [places, Pipeline.itemsOf_of_accepted haccepted' fun _ => by simp,
      Pipeline.itemsOf_of_accepted haccepted' fun _ => by simp,
      Pipeline.itemsOf_of_accepted haccepted' fun _ => by simp,
      Pipeline.itemsOf_of_accepted haccepted' fun _ => by simp, hinHand', huntaken', hbuffer, hnil]
    simp only [List.nil_append, List.append_nil]

end Reporting

end SkywalkingAgent.Reporter
