import SkywalkingAgent.Application.Wiring
import SkywalkingAgent.Reporter.Callers
import SkywalkingAgent.Trace.Causality

/-!
# From the components to the streams

What the components report goes through one queue to three streams. With distinct segment ids, every
segment that a context reports is in one place, and in no other (`segments_in_one_place`); one that
was accepted is lost where the worker drops its receiver before it has taken it. The data of the
metricer and the items of the manager, each of which come from one loop, stay in the order in which
the loop has made them (`loops_in_order`). When the components stop before the reporter is shut
down, and all their calls of `report` have returned, everything they have reported arrives or is
rejected (`orderly_end`).
-/

set_option autoImplicit false

namespace SkywalkingAgent.Trace.World

open SkywalkingAgent.Lib SkywalkingAgent.Proto SkywalkingAgent.Reporter

/-- A call reports nothing, or is the drop of the context and reports its segment. -/
theorem reported_after {overflowChecks : Bool} {w w' : World} {e : Event}
    (h : w.after overflowChecks e = some w') :
    (w'.reported = w.reported ∧ (w'.contextAlive = true → w.contextAlive = true)) ∨
      (w.contextAlive = true ∧ w'.contextAlive = false ∧
        ∃ seg, w'.reported = w.reported ++ [.trace seg]) := by
  by_cases hop : e.op = .dropContext
  · obtain ⟨clock, op⟩ := e
    obtain rfl : op = .dropContext := hop
    have hdropped := (dropped_of_dropContext h).1
    have halive : w.contextAlive = true := by
      obtain ⟨o, hcall, -⟩ := after_eq_some_iff.1 h
      by_contra hdead
      simp [call, hdead] at hcall
    rcases after_dropContext h with ⟨item, context, hdrop, rfl⟩ | hsame
    · obtain ⟨-, spans, -, rfl, -⟩ := TracingContext.drop_eq_ok_iff.1 hdrop
      exact Or.inr ⟨halive, rfl, _, rfl⟩
    · exact Or.inl ⟨hsame, fun _ => halive⟩
  · have hframe := sameFrame_after hop h
    exact Or.inl ⟨hframe.reported, fun halive => hframe.alive ▸ halive⟩

end SkywalkingAgent.Trace.World

namespace SkywalkingAgent.Metrics.MeterSystem

/-- A step reports nothing, or is one of the loop and reports one datum. -/
theorem reported_step {F : Type} [Add F] [Sub F] [LinearOrder F] {s s' : MeterSystem F}
    {e : MeterEvent F} (h : s.step e = some s') :
    s'.reported = s.reported ∨
      (e.isLoop = true ∧ ∃ data, s'.reported = s.reported ++ [data]) := by
  cases step_effect h with
  | report panics todo meter clock progress transform data => exact Or.inr ⟨rfl, data, rfl⟩
  | _ => exact Or.inl rfl

end SkywalkingAgent.Metrics.MeterSystem

namespace SkywalkingAgent.Management.KeepAlive

open SkywalkingAgent.Reporter SkywalkingAgent.Application

/-- A tick reports one item. -/
theorem reported_tick {overflowChecks : Bool} {manager : Manager} {factor : Nat}
    {self next : KeepAlive} {built : BuiltProperties}
    (h : step overflowChecks manager factor self built = some next) :
    ∃ item, isManagement item = true ∧ next.reported = self.reported ++ [item] := by
  have hitem : isManagement (if self.counter = 0 then manager.reporterReportProperties built
      else manager.reporterKeepAlive) = true := by
    split
    · rfl
    · rfl
  obtain ⟨counter, rfl⟩ : ∃ counter, next = ⟨counter, self.reported ++
      [if self.counter = 0 then manager.reporterReportProperties built
        else manager.reporterKeepAlive]⟩ := by
    simp only [step, tick] at h
    split at h
    · cases h
    · next counter _ =>
      exact ⟨_, (Option.some.inj h).symm⟩
  exact ⟨_, hitem, rfl⟩

end SkywalkingAgent.Management.KeepAlive

namespace SkywalkingAgent.Application

open SkywalkingAgent.Lib SkywalkingAgent.Common SkywalkingAgent.Proto SkywalkingAgent.Reporter
open SkywalkingAgent.Logging SkywalkingAgent.Management SkywalkingAgent.Metrics
open SkywalkingAgent.Trace

variable {ι Status σ : Type} [DecidableEq ι] {settings : Settings}

/-! ## What a step of the components reports -/

/-- What each step of the components does, with the items that it reports. -/
inductive Components.Effect (settings : Settings) (self : Components ι) :
    ComponentEvent ι → Components ι → List CollectItem → Prop where
  | call (i : ι) (e : Trace.Event) (w : World)
      (after : (self.contexts i).after settings.overflowChecks e = some w)
      (reported : w.reported = (self.contexts i).reported)
      (alive : w.contextAlive = true → (self.contexts i).contextAlive = true) :
      Effect settings self (.context i e)
        { self with contexts := Function.update self.contexts i w } []
  | dropContext (i : ι) (e : Trace.Event) (w : World) (seg : SegmentObject)
      (after : (self.contexts i).after settings.overflowChecks e = some w)
      (alive : (self.contexts i).contextAlive = true) (dropped : w.contextAlive = false)
      (reported : w.reported = (self.contexts i).reported ++ [.trace seg]) :
      Effect settings self (.context i e)
        { self with contexts := Function.update self.contexts i w } [.trace seg]
  | metricer (e : MeterEvent Rat) (m : MeterSystem Rat)
      (reported : m.reported = self.metricer.reported) :
      Effect settings self (.metricer e) { self with metricer := m } []
  | report (e : MeterEvent Rat) (m : MeterSystem Rat) (data : MeterData Rat)
      (loop : e.isLoop = true) (reported : m.reported = self.metricer.reported ++ [data]) :
      Effect settings self (.metricer e) { self with metricer := m } [.meter data]
  | keepAlive (built : BuiltProperties) (k : KeepAlive) (item : CollectItem)
      (management : isManagement item = true)
      (reported : k.reported = self.keepAlive.reported ++ [item]) :
      Effect settings self (.keepAlive built) { self with keepAlive := k } [item]
  | log (logger : Logger) (record : LogRecord) (clock : Clock) :
      Effect settings self (.log logger record clock) self [logger.log clock record]

theorem Components.step_effect {self next : Components ι} {e : ComponentEvent ι}
    {items : List CollectItem} (h : self.step settings e = some (next, items)) :
    self.Effect settings e next items := by
  cases e with
  | context i e =>
    obtain ⟨w, hafter, heq⟩ := Option.map_eq_some_iff.1 h
    obtain ⟨rfl, rfl⟩ := Prod.mk.inj heq
    rcases World.reported_after hafter with ⟨hsame, halive⟩ | ⟨halive, hdropped, seg, hnew⟩
    · rw [hsame, List.drop_length]
      exact .call i e w hafter hsame halive
    · rw [hnew, List.drop_left]
      exact .dropContext i e w seg hafter halive hdropped hnew
  | metricer e =>
    obtain ⟨m, hstep, heq⟩ := Option.map_eq_some_iff.1 h
    obtain ⟨rfl, rfl⟩ := Prod.mk.inj heq
    rcases MeterSystem.reported_step hstep with hsame | ⟨hloop, data, hnew⟩
    · rw [hsame, List.drop_length]
      exact .metricer e m hsame
    · rw [hnew, List.drop_left]
      exact .report e m data hloop hnew
  | keepAlive built =>
    obtain ⟨k, hstep, heq⟩ := Option.map_eq_some_iff.1 h
    obtain ⟨rfl, rfl⟩ := Prod.mk.inj heq
    obtain ⟨item, hitem, hnew⟩ := KeepAlive.reported_tick hstep
    rw [hnew, List.drop_left]
    exact .keepAlive built k item hitem hnew
  | log logger record clock =>
    obtain ⟨rfl, rfl⟩ := Prod.mk.inj (Option.some.inj h)
    exact .log logger record clock

/-! ## The segments -/

/-- The segments among the items. -/
def segments (items : List CollectItem) : List SegmentObject := Reporting.payloads .trace items

/-- The segments of the contexts and those among the items given to the reporter are the same; each
has the id of its context, and a context that lives has none. -/
structure Collected (origin : ι → Origin) (given : List CollectItem) (contexts : ι → World) :
    Prop where
  segmentId : ∀ i, (contexts i).context.traceSegmentId = (origin i).traceSegmentId
  living : ∀ i, (contexts i).contextAlive = true → (contexts i).reported = []
  own : ∀ i seg, .trace seg ∈ (contexts i).reported →
    seg.traceSegmentId = (origin i).traceSegmentId
  given_iff : ∀ seg, .trace seg ∈ given ↔ World.ReportedBy contexts seg
  nodup : ((segments given).map fun seg => seg.traceSegmentId).Nodup

theorem segments_append (items more : List CollectItem) :
    segments (items ++ more) = segments items ++ segments more :=
  Reporting.payloads_append .trace items more

theorem mem_segments {items : List CollectItem} {seg : SegmentObject} :
    seg ∈ segments items ↔ .trace seg ∈ items := by
  constructor
  · intro hmem
    obtain ⟨item, hitem, hpayload⟩ := List.mem_filterMap.1 hmem
    rwa [Kind.payload?_eq_some_iff.1 hpayload] at hitem
  · intro hmem
    exact List.mem_filterMap.2 ⟨_, hmem, rfl⟩

omit [DecidableEq ι] in
theorem collected_new (origin : ι → Origin) :
    Collected origin [] fun i => (origin i).world where
  segmentId _ := rfl
  living _ _ := rfl
  own _ _ hseg := by cases hseg
  given_iff seg := by
    constructor
    · intro hmem
      cases hmem
    · rintro ⟨i, hmem⟩
      cases hmem
  nodup := List.nodup_nil

variable {origin : ι → Origin} {given : List CollectItem} {contexts : ι → World}

/-- A call that reports nothing. -/
theorem Collected.call (h : Collected origin given contexts) {i : ι} {w : World}
    (hid : w.context.traceSegmentId = (contexts i).context.traceSegmentId)
    (hreported : w.reported = (contexts i).reported)
    (halive : w.contextAlive = true → (contexts i).contextAlive = true) :
    Collected origin given (Function.update contexts i w) := by
  have hsame : ∀ j, (Function.update contexts i w j).reported = (contexts j).reported := by
    intro j
    by_cases hji : j = i
    · subst hji
      rw [Function.update_self, hreported]
    · rw [Function.update_of_ne hji]
  refine ⟨?_, ?_, ?_, ?_, h.nodup⟩
  · intro j
    by_cases hji : j = i
    · subst hji
      rw [Function.update_self, hid]
      exact h.segmentId j
    · rw [Function.update_of_ne hji]
      exact h.segmentId j
  · intro j hj
    rw [hsame]
    apply h.living
    by_cases hji : j = i
    · subst hji
      rw [Function.update_self] at hj
      exact halive hj
    · rwa [Function.update_of_ne hji] at hj
  · intro j seg hseg
    rw [hsame] at hseg
    exact h.own j seg hseg
  · intro seg
    rw [h.given_iff]
    simp only [World.ReportedBy, hsame]

/-- The drop of a context that has reported nothing yet; no other context has its id. -/
theorem Collected.dropContext
    (hids : ∀ i j, (origin i).traceSegmentId = (origin j).traceSegmentId → i = j)
    (h : Collected origin given contexts) {i : ι} {w : World} {seg : SegmentObject}
    (halive : (contexts i).contextAlive = true) (hdropped : w.contextAlive = false)
    (hid : w.context.traceSegmentId = (contexts i).context.traceSegmentId)
    (hseg : seg.traceSegmentId = (contexts i).context.traceSegmentId)
    (hreported : w.reported = (contexts i).reported ++ [.trace seg]) :
    Collected origin (given ++ [.trace seg]) (Function.update contexts i w) := by
  rw [h.living i halive, List.nil_append] at hreported
  have hfresh : ∀ seg', .trace seg' ∈ given → seg'.traceSegmentId ≠ seg.traceSegmentId := by
    intro seg' hmem heq
    obtain ⟨j, hj⟩ := (h.given_iff seg').1 hmem
    have hji : j = i := by
      apply hids
      rw [← h.own j seg' hj, heq, hseg, h.segmentId]
    subst hji
    rw [h.living j halive] at hj
    cases hj
  refine ⟨?_, ?_, ?_, ?_, ?_⟩
  · intro j
    by_cases hji : j = i
    · subst hji
      rw [Function.update_self, hid]
      exact h.segmentId j
    · rw [Function.update_of_ne hji]
      exact h.segmentId j
  · intro j hj
    by_cases hji : j = i
    · subst hji
      rw [Function.update_self, hdropped] at hj
      cases hj
    · rw [Function.update_of_ne hji] at hj ⊢
      exact h.living j hj
  · intro j seg' hmem
    by_cases hji : j = i
    · subst hji
      rw [Function.update_self, hreported, List.mem_singleton] at hmem
      obtain rfl := CollectItem.trace.inj hmem
      rw [hseg, h.segmentId]
    · rw [Function.update_of_ne hji] at hmem
      exact h.own j seg' hmem
  · intro seg'
    rw [List.mem_append, List.mem_singleton, h.given_iff]
    constructor
    · rintro (⟨j, hj⟩ | heq)
      · have hji : j ≠ i := by
          rintro rfl
          rw [h.living j halive] at hj
          cases hj
        exact ⟨j, by rwa [Function.update_of_ne hji]⟩
      · exact ⟨i, by rw [Function.update_self, hreported, heq]; exact List.mem_singleton_self _⟩
    · rintro ⟨j, hj⟩
      by_cases hji : j = i
      · subst hji
        rw [Function.update_self, hreported, List.mem_singleton] at hj
        exact Or.inr hj
      · rw [Function.update_of_ne hji] at hj
        exact Or.inl ⟨j, hj⟩
  · have hnew : segments [.trace seg] = [seg] := rfl
    rw [segments_append, hnew, List.map_append, List.map_singleton]
    refine List.nodup_append.2 ⟨h.nodup, List.nodup_singleton _, ?_⟩
    intro x hx y hy
    obtain ⟨seg', hseg', rfl⟩ := List.mem_map.1 hx
    rw [List.mem_singleton.1 hy]
    exact hfresh seg' (mem_segments.1 hseg')

omit [DecidableEq ι] in
/-- An item that is no segment. -/
theorem Collected.other (h : Collected origin given contexts) {item : CollectItem}
    (hitem : ∀ seg, item ≠ .trace seg) : Collected origin (given ++ [item]) contexts := by
  have hmem : ∀ seg, .trace seg ∈ given ++ [item] ↔ .trace seg ∈ given := by
    intro seg
    rw [List.mem_append, List.mem_singleton]
    constructor
    · rintro (hold | heq)
      · exact hold
      · exact absurd heq.symm (hitem seg)
    · exact Or.inl
  have hnothing : segments [item] = [] := by
    cases item with
    | trace seg => exact absurd rfl (hitem seg)
    | _ => rfl
  refine ⟨h.segmentId, h.living, h.own, ?_, ?_⟩
  · intro seg
    rw [hmem]
    exact h.given_iff seg
  · rw [segments_append, hnothing, List.append_nil]
    exact h.nodup

theorem Collected.step
    (hids : ∀ i j, (origin i).traceSegmentId = (origin j).traceSegmentId → i = j)
    {self next : Components ι} {e : ComponentEvent ι} {items : List CollectItem}
    (h : Collected origin given self.contexts) (hstep : self.Effect settings e next items) :
    Collected origin (given ++ items) next.contexts := by
  cases hstep with
  | call i e w hafter hreported halive =>
    rw [List.append_nil]
    exact h.call (World.segments_after hafter).1 hreported halive
  | dropContext i e w seg hafter halive hdropped hreported =>
    obtain ⟨hid, hsegments⟩ := World.segments_after hafter
    have hseg : seg.traceSegmentId = (self.contexts i).context.traceSegmentId := by
      rw [h.living i halive] at hreported hsegments
      rcases hsegments seg (by rw [hreported]; exact List.mem_singleton_self _) with hold | heq
      · cases hold
      · exact heq
    exact h.dropContext hids halive hdropped hid hseg hreported
  | metricer e m hreported =>
    rw [List.append_nil]
    exact h
  | report e m data hloop hreported =>
    apply h.other
    intro seg
    simp
  | keepAlive built k item hmanagement hreported =>
    apply h.other
    rintro seg rfl
    cases hmanagement
  | log logger record clock =>
    apply h.other
    intro seg
    simp [Logger.log]

/-- The calls of `report` in a run of the reporter. -/
theorem run_calls {s s' : Reporting Status} {ds : List (ReportingEvent Status)}
    (hrun : Reporting.run s ds = some s') :
    (s'.pipeline.calls.map fun call => call.item) =
      s.pipeline.calls.map (fun call => call.item) ++ ds.filterMap reportedItem? := by
  induction ds using List.reverseRecOn generalizing s' with
  | nil =>
    obtain rfl := Option.some.inj hrun
    simp
  | append_singleton ds d ih =>
    obtain ⟨m, hm, hstep⟩ := Execution.run_concat_iff.1 hrun
    rw [List.filterMap_append, ← List.append_assoc, ← ih hm]
    by_cases hreport : ∃ item, d = .pipeline (.report item)
    · obtain ⟨item, rfl⟩ := hreport
      rw [Reporting.step_report hstep]
      simp [Pipeline.report, reportedItem?]
    · have hnone : reportedItem? d = none := by
        unfold reportedItem?
        split
        · next item => exact absurd ⟨item, rfl⟩ hreport
        · rfl
      rw [(Reporting.step_other hstep fun item heq => hreport ⟨item, heq⟩).1]
      simp [hnone]

/-- The items of the two loops among those that the reporter was given are what the loops have
logged. -/
structure Logged (given : List CollectItem) (components : Components ι) : Prop where
  metricer : given.filter isMeter = components.metricer.reported.map CollectItem.meter
  keepAlive : given.filter isManagement = components.keepAlive.reported

theorem Logged.step {self next : Components ι} {e : ComponentEvent ι} {items : List CollectItem}
    (h : Logged given self) (hstep : self.Effect settings e next items) :
    Logged (given ++ items) next := by
  cases hstep with
  | call i e w hafter hreported halive =>
    rw [List.append_nil]
    exact ⟨h.metricer, h.keepAlive⟩
  | dropContext i e w seg hafter halive hdropped hreported =>
    refine ⟨?_, ?_⟩
    · rw [List.filter_append, h.metricer]
      exact List.append_nil _
    · rw [List.filter_append, h.keepAlive]
      exact List.append_nil _
  | metricer e m hreported =>
    rw [List.append_nil]
    refine ⟨?_, h.keepAlive⟩
    rw [hreported]
    exact h.metricer
  | report e m data hloop hreported =>
    refine ⟨?_, ?_⟩
    · rw [List.filter_append, h.metricer, hreported, List.map_append]
      rfl
    · rw [List.filter_append, h.keepAlive]
      exact List.append_nil _
  | keepAlive built k item hmanagement hreported =>
    refine ⟨?_, ?_⟩
    · have hmeter : [item].filter isMeter = [] := by
        cases item with
        | meter => cases hmanagement
        | _ => rfl
      rw [List.filter_append, h.metricer, hmeter]
      exact List.append_nil _
    · rw [List.filter_append, h.keepAlive, hreported, List.filter_singleton, hmanagement]
      rfl
  | log logger record clock =>
    refine ⟨?_, ?_⟩
    · rw [List.filter_append, h.metricer]
      exact List.append_nil _
    · rw [List.filter_append, h.keepAlive]
      exact List.append_nil _

/-- Whatever reporter the components feed: what it was given is what they have reported. -/
theorem run_collected {τ δ : Type} {w : Wiring (Components ι) (ComponentEvent ι) CollectItem τ δ}
    (hsource : w.source = Components.step settings) {service : Service} {t : τ}
    {es : List (ComponentEvent ι ⊕ δ)} {s : Components ι × τ}
    (hids : ∀ i j, (origin i).traceSegmentId = (origin j).traceSegmentId → i = j)
    (hrun : w.run (.new origin service, t) es = some s) :
    ∃ ds, Execution.run w.sink t ds = some s.2 ∧
      Collected origin (ds.filterMap w.accepted?) s.1.contexts ∧
      Logged (ds.filterMap w.accepted?) s.1 := by
  refine Wiring.run_fed (s := (Components.new origin service, t))
    (I := fun given self => Collected origin given self.contexts ∧ Logged given self)
    ⟨collected_new origin, rfl, rfl⟩ ?_ hrun
  intro given self e next items h hstep
  rw [hsource] at hstep
  have heffect := Components.step_effect hstep
  exact ⟨h.1.step hids heffect, h.2.step heffect⟩

/-- The run of the reporter in a run of the application: the items of its calls are those of the
components. -/
theorem run_given {service : Service} {capacity : Option Nat}
    {es : List (ComponentEvent ι ⊕ ReportingEvent Status)} {s : State ι Status}
    (hids : ∀ i j, (origin i).traceSegmentId = (origin j).traceSegmentId → i = j)
    (hrun : run settings (start origin service capacity) es = some s) :
    ∃ ds, Reporting.run (.new capacity) ds = some s.2 ∧
      Collected origin (s.2.pipeline.calls.map fun call => call.item) s.1.contexts ∧
      Logged (s.2.pipeline.calls.map fun call => call.item) s.1 := by
  obtain ⟨ds, hds, hcollected, hlogged⟩ :=
    run_collected (w := wiring ι Status settings) rfl hids hrun
  have hcalls := run_calls hds
  have hstart : (Reporting.new capacity : Reporting Status).pipeline.calls = [] := rfl
  rw [hstart, List.map_nil, List.nil_append] at hcalls
  rw [hcalls]
  exact ⟨ds, hds, hcollected, hlogged⟩

/-- In every run of an application whose contexts have distinct segment ids, caught panics included,
what the contexts have reported is at every moment with a call of `report` that was refused, waits,
has failed or has panicked, or accepted and not taken (in the queue, and lost once the worker has
dropped its receiver), with the worker, with `err_handle`, in the channel of the segments or yielded
by a stream: in one of these, and once. -/
theorem segments_in_one_place {service : Service} {capacity : Option Nat}
    {es : List (ComponentEvent ι ⊕ ReportingEvent Status)} {s : State ι Status}
    (hids : ∀ i j, (origin i).traceSegmentId = (origin j).traceSegmentId → i = j)
    (hrun : run settings (start origin service capacity) es = some s) :
    ((s.2.places .trace).map fun seg => seg.traceSegmentId).Nodup ∧
      ∀ seg, seg ∈ s.2.places .trace ↔ World.ReportedBy s.1.contexts seg := by
  obtain ⟨ds, hds, hcollected, -⟩ := run_given hids hrun
  have hperm := Reporting.run_places hds .trace
  constructor
  · exact (hperm.map _).nodup_iff.1 hcollected.nodup
  · intro seg
    exact (hperm.mem_iff.symm.trans mem_segments).trans (hcollected.given_iff seg)

/-- Two contexts, of which the second one is dropped first. -/
def twoOrigins (second : Bool) : Origin :=
  if second then ⟨"s", "i", "t2", "g2", some ⟨"s", "i"⟩⟩
  else ⟨"s", "i", "t1", "g1", some ⟨"s", "i"⟩⟩

/-- An application with overflow checks, whose manager sends its properties at every second tick. -/
def sampleSettings : Settings := ⟨true, ⟨"s", "i"⟩, 2⟩

/-- A call on one of the two contexts at time zero. -/
def call (i : Bool) (op : Op) : ComponentEvent Bool ⊕ ReportingEvent String :=
  .inl (.context i ⟨fun _ => 0, op⟩)

/-- The segment of the second context is in the queue, that of the first one with its call. -/
def twoSegments : List (ComponentEvent Bool ⊕ ReportingEvent String) :=
  [call false (.createEntrySpan "a"), call true (.createEntrySpan "b"), call true (.dropSpan 0),
    call true .dropContext, .inr (.pipeline (.produce 0)), call false (.dropSpan 0),
    call false .dropContext]

theorem segments_in_one_place_two :
    ∃ s, run sampleSettings (start twoOrigins ⟨"s", "i"⟩ none) twoSegments = some s ∧
      ((s.2.places .trace).map fun seg => seg.traceSegmentId) = ["g1", "g2"] ∧
      ∀ seg, seg ∈ s.2.places .trace ↔ World.ReportedBy s.1.contexts seg := by
  have hids : ∀ i j, (twoOrigins i).traceSegmentId = (twoOrigins j).traceSegmentId → i = j := by
    decide
  have hrun : ∃ s, run sampleSettings (start twoOrigins ⟨"s", "i"⟩ none) twoSegments = some s ∧
      ((s.2.places .trace).map fun seg => seg.traceSegmentId) = ["g1", "g2"] := ⟨_, rfl, rfl⟩
  obtain ⟨s, hrun, hplaces⟩ := hrun
  exact ⟨s, hrun, hplaces, (segments_in_one_place hids hrun).2⟩

/-! ## The loops -/

theorem filter_unreturned_of_idle {p : CollectItem → Bool} {t : Pipeline σ CollectItem}
    (hidle : isUnreturned p t = false) : t.unreturned.filter p = [] := by
  apply List.filter_eq_nil_iff.2
  intro item hitem
  obtain ⟨call, hcall, rfl⟩ := List.mem_map.1 hitem
  obtain ⟨hmem, hreturned⟩ := List.mem_filter.1 hcall
  intro hp
  have hheld : isUnreturned p t = true :=
    List.any_eq_true.2 ⟨call, hmem, Bool.and_eq_true_iff.2 ⟨hreturned, hp⟩⟩
  rw [hidle] at hheld
  cases hheld

/-- What is queued of the metricer and of the manager is in the order of their loops. -/
structure InOrder (components : Components ι) (t : Pipeline σ CollectItem) : Prop where
  metricer : t.Serial isMeter (components.metricer.reported.map CollectItem.meter)
  keepAlive : t.Serial isManagement components.keepAlive.reported

/-- A step of the components, with its calls of `report`. -/
theorem InOrder.fed {self next : Components ι} {t : Pipeline σ CollectItem} {e : ComponentEvent ι}
    {items : List CollectItem} (h : InOrder self t) (hready : ready t e = true)
    (hstep : self.Effect settings e next items) :
    InOrder next (items.foldl Pipeline.report t) := by
  cases hstep with
  | call i e w hafter hreported halive => exact ⟨h.metricer, h.keepAlive⟩
  | dropContext i e w seg hafter halive hdropped hreported =>
    exact ⟨h.metricer.report_other rfl, h.keepAlive.report_other rfl⟩
  | metricer e m hreported =>
    refine ⟨?_, h.keepAlive⟩
    rw [hreported]
    exact h.metricer
  | report e m data hloop hreported =>
    have hidle : isUnreturned isMeter t = false := by
      simpa [ready, hloop] using hready
    refine ⟨?_, h.keepAlive.report_other rfl⟩
    rw [hreported, List.map_append, List.map_singleton]
    exact h.metricer.report_own (filter_unreturned_of_idle hidle)
  | keepAlive built k item hmanagement hreported =>
    have hidle : isUnreturned isManagement t = false := by
      simpa [ready] using hready
    have hmeter : isMeter item = false := by
      cases item with
      | meter => cases hmanagement
      | _ => rfl
    refine ⟨h.metricer.report_other hmeter, ?_⟩
    rw [hreported]
    exact h.keepAlive.report_own (filter_unreturned_of_idle hidle)
  | log logger record clock =>
    exact ⟨h.metricer.report_other rfl, h.keepAlive.report_other rfl⟩

/-- The data of a metricer among its items. -/
theorem payloads_meter_filter (items : List CollectItem) :
    Reporting.payloads .meter (items.filter isMeter) = Reporting.payloads .meter items := by
  rw [Reporting.payloads, List.filterMap_filter, Reporting.payloads]
  apply List.filterMap_congr
  intro item _
  cases item with
  | _ => rfl

theorem payloads_map_meter (data : List (MeterData Rat)) :
    Reporting.payloads .meter (data.map CollectItem.meter) = data := by
  induction data with
  | nil => rfl
  | cons datum data ih =>
    have hcons : Reporting.payloads .meter (CollectItem.meter datum :: data.map .meter) =
        datum :: Reporting.payloads .meter (data.map CollectItem.meter) := rfl
    rw [List.map_cons, hcons, ih]

theorem run_inOrder {service : Service} {capacity : Option Nat}
    {es : List (ComponentEvent ι ⊕ ReportingEvent Status)} {s : State ι Status}
    (hrun : run settings (start origin service capacity) es = some s) :
    InOrder s.1 s.2.pipeline := by
  have hinit : InOrder (start origin service capacity : State ι Status).1
      (start origin service capacity : State ι Status).2.pipeline :=
    ⟨Pipeline.serial_new capacity _, Pipeline.serial_new capacity _⟩
  refine Wiring.run_invariant (I := fun self (t : Reporting Status) => InOrder self t.pipeline)
    hinit ?_ ?_ hrun
  · intro a t e a' items t' h hready hstep hsink
    rw [Reporting.run_reports hsink]
    exact h.fed hready (Components.step_effect hstep)
  · intro a t d t' h hother hstep
    have hserial := (Reporting.step_other hstep (by rintro item rfl; cases hother)).2
    exact ⟨hserial _ _ h.metricer, hserial _ _ h.keepAlive⟩

theorem filter_enqueued_sublist {p : CollectItem → Bool} {log : List CollectItem}
    {t : Pipeline σ CollectItem} (h : t.Serial p log) : (t.enqueued.filter p).Sublist log := by
  refine List.Sublist.trans ?_ h.order
  rw [List.filter_append]
  exact List.sublist_append_left _ _

/-- The queue has the items of a loop whose calls were all accepted, in its order. -/
theorem filter_enqueued_eq {p : CollectItem → Bool} {log : List CollectItem}
    {t : Pipeline σ CollectItem} (hserial : t.Serial p log)
    (haccepted : (t.calls.map fun call => call.item).Perm t.enqueued)
    (hlog : (t.calls.map fun call => call.item).filter p = log) : t.enqueued.filter p = log := by
  have hperm := haccepted.filter p
  rw [hlog] at hperm
  exact (filter_enqueued_sublist hserial).eq_of_length hperm.length_eq.symm

omit [DecidableEq ι] in
/-- The streams of meter data keep the order of the metricer. -/
theorem InOrder.line_sublist {components : Components ι} {t : Reporting Status}
    {capacity : Option Nat} {ds : List (ReportingEvent Status)} (h : InOrder components t.pipeline)
    (hrun : Reporting.run (.new capacity) ds = some t) :
    List.Sublist (α := MeterData Rat) ((t.receiver .meter).yielded ++ (t.channel .meter).buffer)
      components.metricer.reported := by
  have hdata := (filter_enqueued_sublist h.metricer).filterMap (Kind.payload? .meter)
  have hlog : (components.metricer.reported.map CollectItem.meter).filterMap
      (Kind.payload? .meter) = components.metricer.reported := payloads_map_meter _
  have hline := Reporting.run_line_sublist hrun .meter
  rw [hlog] at hdata
  rw [← payloads_meter_filter] at hline
  exact hline.trans hdata

/-- In every run of an application, whatever its contexts and loggers report in between, what the
streams of meter data have yielded, followed by what is in their channel, is a part of what the
metricer has reported, in the same order and no datum more often; and so are the properties and
pings that the worker has sent, of what the manager has reported. -/
theorem loops_in_order {service : Service} {capacity : Option Nat}
    {es : List (ComponentEvent ι ⊕ ReportingEvent Status)} {s : State ι Status}
    (hrun : run settings (start origin service capacity) es = some s) :
    List.Sublist (α := MeterData Rat)
        ((s.2.receiver .meter).yielded ++ (s.2.channel .meter).buffer) s.1.metricer.reported ∧
      (s.2.pipeline.worker.handed.filter isManagement).Sublist s.1.keepAlive.reported := by
  obtain ⟨ds, hds, -⟩ := Wiring.run_fed (I := fun _ _ => True) trivial
    (fun _ _ _ _ _ _ _ => trivial) hrun
  have horder := run_inOrder hrun
  constructor
  · exact horder.line_sublist hds
  · exact ((Reporting.run_handed_enqueued hds).sublist.filter isManagement).trans
      (filter_enqueued_sublist horder.keepAlive)

/-- A round of the metricer over two counters and a tick of the manager, produced in between. -/
def oneRound : List (ComponentEvent Bool ⊕ ReportingEvent String) :=
  [.inl (.metricer (.register (.counter (.new "a")))),
    .inl (.metricer (.register (.counter (.new "b")))), .inl (.metricer (.boot [0, 1])),
    .inl (.metricer (.next 0 fun _ => 0)), .inl (.metricer (.load 0 0)),
    .inl (.metricer (.report false)), .inl (.keepAlive ⟨.new, ⟨[], .nil⟩⟩),
    .inr (.pipeline (.produce 1)), .inr (.pipeline (.produce 0)),
    .inl (.metricer (.next 1 fun _ => 0)), .inl (.metricer (.load 1 0)),
    .inl (.metricer (.report false))]

theorem loops_in_order_one_round :
    ∃ s, run sampleSettings (start twoOrigins ⟨"s", "i"⟩ none) oneRound = some s ∧
      s.1.metricer.reported.length = 2 ∧ s.2.pipeline.enqueued.length = 2 ∧
      (s.2.pipeline.worker.handed.filter isManagement).Sublist s.1.keepAlive.reported := by
  have hrun : ∃ s, run sampleSettings (start twoOrigins ⟨"s", "i"⟩ none) oneRound = some s ∧
      s.1.metricer.reported.length = 2 ∧ s.2.pipeline.enqueued.length = 2 := ⟨_, rfl, rfl, rfl⟩
  obtain ⟨s, hrun, hreported, henqueued⟩ := hrun
  exact ⟨s, hrun, hreported, henqueued, (loops_in_order hrun).2⟩

/-! ## The end of the application -/

/-- What has arrived when the tasks of the reporter have ended: every segment of the contexts has
been yielded by a stream or given to `err_handle`, once; the same for the data of the metricer, all
of it yielded in order if none was given to `err_handle`; and the worker has sent what the manager
has reported. -/
structure Arrived (components : Components ι) (t : Reporting Status) : Prop where
  once : (((t.receiver .trace).yielded ++ t.handled .trace).map
    fun seg : SegmentObject => seg.traceSegmentId).Nodup
  segments : ∀ seg, seg ∈ (t.receiver .trace).yielded ++ t.handled .trace ↔
    World.ReportedBy components.contexts seg
  data : List.Perm (α := MeterData Rat) ((t.receiver .meter).yielded ++ t.handled .meter)
    components.metricer.reported
  ordered : t.handled .meter = [] → (t.receiver .meter).yielded = components.metricer.reported
  management : t.pipeline.worker.handed.filter isManagement = components.keepAlive.reported

/-- Let the contexts have distinct segment ids, and let the components stop while the reporter still
takes items, at a moment when every call of `report` has returned; with an unbounded queue none
panics, so that none is then on its way. When the tasks of the reporter have then ended, whatever
their result and however they went on meanwhile, nothing that was reported is missing. -/
theorem orderly_end {service : Service} {capacity : Option Nat}
    {es : List (ComponentEvent ι ⊕ ReportingEvent Status)} {s : State ι Status}
    {ds : List (ReportingEvent Status)} {t : Reporting Status}
    {r : Except (Error TryRecvError) Unit}
    (hids : ∀ i j, (origin i).traceSegmentId = (origin j).traceSegmentId → i = j)
    (hrun : run settings (start origin service capacity) es = some s)
    (hopen : s.2.pipeline.worker.isClosing = false) (hquiet : s.2.pipeline.unreturned = [])
    (hcalls : ∀ d ∈ ds, ∀ item, d ≠ .pipeline (.report item))
    (hrest : Reporting.run s.2 ds = some t) (hjoined : t.joined = some r) : Arrived s.1 t := by
  have hother : ∀ d ∈ ds, reportedItem? d = none := by
    intro d hd
    unfold reportedItem?
    split
    · next item => exact absurd rfl (hcalls _ hd item)
    · rfl
  have hwhole : run settings (start origin service capacity) (es ++ ds.map .inr) =
      some (s.1, t) := Execution.run_append_iff.2 ⟨s, hrun, Wiring.run_own hother hrest⟩
  obtain ⟨ds₁, hds₁, -⟩ := run_given hids hrun
  obtain ⟨ds₂, hds₂, hcollected, hlogged⟩ := run_given hids hwhole
  have horder := run_inOrder hwhole
  obtain ⟨haccepted, hhanded, hplaces⟩ :=
    Reporting.places_of_quiet hds₁ hopen hquiet hcalls hrest hjoined
  have hsegments := Reporting.run_places hds₂ .trace
  have hdata := Reporting.run_places hds₂ .meter
  rw [hplaces] at hsegments hdata
  have hreported : Reporting.payloads .meter
      (t.pipeline.calls.map fun call => call.item) = s.1.metricer.reported := by
    rw [← payloads_meter_filter, hlogged.metricer, payloads_map_meter]
  rw [hreported] at hdata
  refine ⟨?_, ?_, hdata.symm, ?_, ?_⟩
  · exact (hsegments.map _).nodup_iff.1 hcollected.nodup
  · intro seg
    exact (hsegments.mem_iff.symm.trans mem_segments).trans (hcollected.given_iff seg)
  · intro hnone
    rw [hnone, List.append_nil] at hdata
    have hsublist := (List.sublist_append_left _ _).trans (horder.line_sublist hds₂)
    exact hsublist.eq_of_length hdata.length_eq.symm
  · rw [hhanded]
    exact filter_enqueued_eq horder.keepAlive haccepted hlogged.keepAlive

/-- The second call returns, and everything comes to its end. -/
def lastProduce : List (ComponentEvent Bool ⊕ ReportingEvent String) :=
  twoSegments ++ [.inr (.pipeline (.produce 1))]

/-- The worker takes one item and passes it on. -/
def passItem : List (ReportingEvent String) :=
  [.pipeline (.ask .consume), .pipeline (.worker (.report (.ok ()))), .pipeline (.worker .reported)]

/-- Both items are passed on, the worker is shut down, and the three receive reporters drain their
channels. -/
def endOfTasks : List (ReportingEvent String) :=
  passItem ++ passItem ++
    [.pipeline (.worker .signal), .pipeline (.worker .recvShutdown),
      .pipeline (.worker .storeClosing), .pipeline (.ask .flush), .pipeline (.worker .dropLocals),
      .receive .trace .stream, .receive .trace .poll, .receive .trace .poll, .receive .trace .poll,
      .receive .trace .collected, .receive .trace .stream, .receive .log .stream,
      .receive .log .poll, .receive .log .collected, .receive .log .stream, .receive .meter .stream,
      .receive .meter .poll, .receive .meter .collected, .receive .meter .stream]

theorem orderly_end_two :
    ∃ s t, run sampleSettings (start twoOrigins ⟨"s", "i"⟩ none) lastProduce = some s ∧
      Reporting.run s.2 endOfTasks = some t ∧ t.joined = some (.ok ()) ∧ Arrived s.1 t := by
  have hids : ∀ i j, (twoOrigins i).traceSegmentId = (twoOrigins j).traceSegmentId → i = j := by
    decide
  have hrun : ∃ s t, run sampleSettings (start twoOrigins ⟨"s", "i"⟩ none) lastProduce = some s ∧
      s.2.pipeline.worker.isClosing = false ∧ s.2.pipeline.unreturned = [] ∧
      Reporting.run s.2 endOfTasks = some t ∧ t.joined = some (.ok ()) :=
    ⟨_, _, rfl, rfl, rfl, rfl, rfl⟩
  have hcalls : ∀ d ∈ endOfTasks, ∀ item, d ≠ .pipeline (.report item) := by
    simp [endOfTasks, passItem]
  obtain ⟨s, t, hrun, hopen, hquiet, hrest, hjoined⟩ := hrun
  exact ⟨s, t, hrun, hrest, hjoined, orderly_end hids hrun hopen hquiet hcalls hrest hjoined⟩

end SkywalkingAgent.Application
