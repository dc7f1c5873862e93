import SkywalkingAgent.Application.Delivery
import SkywalkingAgent.Reporter.Topics

/-!
# From the components to the topics

With a Kafka reporter in the place of the gRPC one, what the components report is published as one
record for each item, under the topic of its kind and a key of its own. No segment is published
twice, and none that was not reported; the data of the metricer come in its order; and when the
components stop before the reporter is shut down, nothing is missing (`published`). The pings of the
manager are among the logs.
-/

set_option autoImplicit false

namespace SkywalkingAgent.Reporter.KafkaProducer

variable {encodeToVec : CollectItem → List UInt8} {nameSpace : Option String}

/-- The records of a topic are those of its items. -/
theorem filter_records (items : List CollectItem) (t : Topic) :
    (items.map (recordOf encodeToVec nameSpace)).filter
        (fun record => record.topic = t.nameIn (.new nameSpace)) =
      (items.filter fun item => Topic.sentTo item = t).map (recordOf encodeToVec nameSpace) := by
  rw [List.filter_map]
  congr 1
  apply List.filter_congr
  intro item _
  have htopic : (recordOf encodeToVec nameSpace item).topic =
      (Topic.sentTo item).nameIn (.new nameSpace) := by
    cases item with
    | _ => rfl
  simp only [Function.comp_apply, htopic, decide_eq_decide]
  exact (Topic.nameIn_injective nameSpace).eq_iff

end SkywalkingAgent.Reporter.KafkaProducer

namespace SkywalkingAgent.Application

open SkywalkingAgent.Lib SkywalkingAgent.Common SkywalkingAgent.Proto SkywalkingAgent.Reporter
open SkywalkingAgent.Management SkywalkingAgent.Metrics SkywalkingAgent.Trace

variable {ι KafkaError : Type} [DecidableEq ι] {settings : Settings} {origin : ι → Origin}
  {service : Service} {capacity : Option Nat} {nameSpace : Option String}
  {encodeToVec : CollectItem → List UInt8} {es : List (KafkaEvent ι KafkaError)}
  {s : KafkaState ι KafkaError}

/-! ## The run of the reporter -/

/-- The calls of `report` in a run of the reporter. -/
theorem run_calledItems {σ ω : Type} {sink : Sink σ CollectItem ω} {t t' : Pipeline σ CollectItem}
    {ds : List (PipelineEvent CollectItem ω)} (hrun : Pipeline.run sink t ds = some t') :
    (t'.calls.map fun call => call.item) =
      t.calls.map (fun call => call.item) ++ ds.filterMap calledItem? := by
  induction ds using List.reverseRecOn generalizing t' with
  | nil =>
    obtain rfl := Option.some.inj hrun
    simp
  | append_singleton ds d ih =>
    obtain ⟨m, hm, hstep⟩ := Execution.run_concat_iff.1 hrun
    rw [List.filterMap_append, ← List.append_assoc, ← ih hm]
    cases d with
    | report item =>
      rw [Pipeline.step_report hstep]
      simp [Pipeline.report, calledItem?]
    | _ =>
      rw [Pipeline.items_step hstep (by simp)]
      simp [calledItem?]

/-- The items of the calls are those of the components. -/
theorem run_givenKafka
    (hids : ∀ i j, (origin i).traceSegmentId = (origin j).traceSegmentId → i = j)
    (hrun : runKafka settings encodeToVec (startKafka origin service capacity nameSpace) es =
      some s) :
    ∃ ds, Pipeline.run (KafkaProducer.sink encodeToVec) (.new capacity (.new nameSpace)) ds =
        some s.2 ∧
      Collected origin (s.2.calls.map fun call => call.item) s.1.contexts ∧
      Logged (s.2.calls.map fun call => call.item) s.1 := by
  obtain ⟨ds, hds, hcollected, hlogged⟩ :=
    run_collected (w := kafkaWiring ι KafkaError settings encodeToVec) rfl hids hrun
  have hcalls := run_calledItems hds
  have hstart : (Pipeline.new capacity (.new nameSpace) :
      Pipeline (KafkaProducer KafkaError) CollectItem).calls = [] := rfl
  rw [hstart, List.map_nil, List.nil_append] at hcalls
  rw [hcalls]
  exact ⟨ds, hds, hcollected, hlogged⟩

theorem run_reportsKafka {items : List CollectItem}
    {t t' : Pipeline (KafkaProducer KafkaError) CollectItem}
    (hrun : Execution.run (KafkaReporting.spawn encodeToVec) t
      (items.map (kafkaWiring ι KafkaError settings encodeToVec).accept) = some t') :
    t' = items.foldl Pipeline.report t := by
  induction items generalizing t with
  | nil => exact (Option.some.inj hrun).symm
  | cons item items ih =>
    obtain ⟨m, hm, hrest⟩ := Execution.run_cons_iff.1 hrun
    rw [ih hrest, Pipeline.step_report hm]
    rfl

theorem run_inOrderKafka
    (hrun : runKafka settings encodeToVec (startKafka origin service capacity nameSpace) es =
      some s) : InOrder s.1 s.2 := by
  have hinit : InOrder (startKafka origin service capacity nameSpace : KafkaState ι KafkaError).1
      (startKafka origin service capacity nameSpace : KafkaState ι KafkaError).2 :=
    ⟨Pipeline.serial_new capacity _, Pipeline.serial_new capacity _⟩
  refine Wiring.run_invariant (I := InOrder) hinit ?_ ?_ hrun
  · intro a t e a' items t' h hready hstep hsink
    rw [run_reportsKafka hsink]
    exact h.fed hready (Components.step_effect hstep)
  · intro a t d t' h hother hstep
    have hreport : ∀ item, d ≠ .report item := by
      rintro item rfl
      cases hother
    exact ⟨h.metricer.step hstep hreport, h.keepAlive.step hstep hreport⟩

/-! ## The topics -/

/-- The records sent to a topic. -/
def published (nameSpace : Option String) (topic : Topic)
    (t : Pipeline (KafkaProducer KafkaError) CollectItem) : List FutureRecord :=
  t.worker.sink.records.filter fun record => record.topic = topic.nameIn (.new nameSpace)

/-- Instance properties. -/
def isInstance : CollectItem → Bool
  | .instance _ => true
  | _ => false

theorem filter_segment (items : List CollectItem) :
    (items.filter fun item => Topic.sentTo item = .segment) =
      (segments items).map CollectItem.trace := by
  induction items with
  | nil => rfl
  | cons item items ih =>
    cases item with
    | trace seg => exact congrArg (CollectItem.trace seg :: ·) ih
    | _ => exact ih

theorem filter_meter (items : List CollectItem) :
    (items.filter fun item => Topic.sentTo item = .meter) = items.filter isMeter := by
  apply List.filter_congr
  intro item _
  cases item with
  | _ => rfl

theorem filter_management (items : List CollectItem) :
    (items.filter fun item => Topic.sentTo item = .management) =
      (items.filter isManagement).filter isInstance := by
  rw [List.filter_filter]
  apply List.filter_congr
  intro item _
  cases item with
  | _ => rfl

/-- A part of what the components have reported is published: each segment once at most, and the
data and the properties in order. -/
structure PublishedInPart (encodeToVec : CollectItem → List UInt8) (nameSpace : Option String)
    (components : Components ι) (t : Pipeline (KafkaProducer KafkaError) CollectItem) : Prop where
  once : ((published nameSpace .segment t).map fun record => record.key).Nodup
  segments : ∀ record ∈ published nameSpace .segment t, ∃ seg,
    World.ReportedBy components.contexts seg ∧
      record = KafkaProducer.recordOf encodeToVec nameSpace (.trace seg)
  data : (published nameSpace .meter t).Sublist
    (components.metricer.reported.map fun data =>
      KafkaProducer.recordOf encodeToVec nameSpace (.meter data))
  properties : (published nameSpace .management t).Sublist
    ((components.keepAlive.reported.filter isInstance).map
      (KafkaProducer.recordOf encodeToVec nameSpace))

/-- Everything that the components have reported is published. -/
structure Published (encodeToVec : CollectItem → List UInt8) (nameSpace : Option String)
    (components : Components ι) (t : Pipeline (KafkaProducer KafkaError) CollectItem) : Prop where
  once : ((published nameSpace .segment t).map fun record => record.key).Nodup
  segments : ∀ record, record ∈ published nameSpace .segment t ↔ ∃ seg,
    World.ReportedBy components.contexts seg ∧
      record = KafkaProducer.recordOf encodeToVec nameSpace (.trace seg)
  data : published nameSpace .meter t = components.metricer.reported.map fun data =>
    KafkaProducer.recordOf encodeToVec nameSpace (.meter data)
  properties : published nameSpace .management t =
    (components.keepAlive.reported.filter isInstance).map
      (KafkaProducer.recordOf encodeToVec nameSpace)

section Records

variable {components : Components ι} {t : Pipeline (KafkaProducer KafkaError) CollectItem}
  {ds : List (PipelineEvent CollectItem (Except KafkaError Unit))}

omit [DecidableEq ι] in
theorem published_eq (hsent : KafkaProducer.Sent encodeToVec nameSpace ds t) (topic : Topic) :
    published nameSpace topic t =
      (t.worker.handed.filter fun item => Topic.sentTo item = topic).map
        (KafkaProducer.recordOf encodeToVec nameSpace) := by
  rw [published, hsent.records, KafkaProducer.filter_records]

omit [DecidableEq ι] in
/-- The records of segments have the ids of the segments as their keys. -/
theorem keys_published (hsent : KafkaProducer.Sent encodeToVec nameSpace ds t) :
    ((published nameSpace .segment t).map fun record => record.key) =
      (segments t.worker.handed).map fun seg => seg.traceSegmentId := by
  rw [published_eq hsent, filter_segment, List.map_map, List.map_map]
  rfl

omit [DecidableEq ι] in
theorem mem_published_segment (hsent : KafkaProducer.Sent encodeToVec nameSpace ds t)
    {record : FutureRecord} :
    record ∈ published nameSpace .segment t ↔ ∃ seg, .trace seg ∈ t.worker.handed ∧
      record = KafkaProducer.recordOf encodeToVec nameSpace (.trace seg) := by
  rw [published_eq hsent, filter_segment, List.map_map, List.mem_map]
  constructor
  · rintro ⟨seg, hseg, rfl⟩
    exact ⟨seg, mem_segments.1 hseg, rfl⟩
  · rintro ⟨seg, hseg, rfl⟩
    exact ⟨seg, mem_segments.2 hseg, rfl⟩

end Records

/-- What the worker has passed on is, in the order of the queue, a part of what was given. -/
theorem publishedInPart
    (hids : ∀ i j, (origin i).traceSegmentId = (origin j).traceSegmentId → i = j)
    (hrun : runKafka settings encodeToVec (startKafka origin service capacity nameSpace) es =
      some s) : PublishedInPart encodeToVec nameSpace s.1 s.2 := by
  obtain ⟨ds, hds, hcollected, -⟩ := run_givenKafka hids hrun
  have hsent := KafkaProducer.run_sent_records hds
  have horder := run_inOrderKafka hrun
  have hperm := Pipeline.run_calls_perm hds
  have hhanded : s.2.worker.handed.Sublist s.2.enqueued := by
    rw [(Pipeline.run_conserved (Pipeline.conserved_new capacity _) hds).enqueued_eq]
    exact List.sublist_append_left _ _
  -- the items passed on are among those of the calls
  have hamong : s.2.worker.handed.Sublist
      (itemsOf (fun status => status = .refused) s.2.calls ++
        (itemsOf (fun status => status = .checked) s.2.calls ++
        (itemsOf (fun status => status = .failed) s.2.calls ++
        (itemsOf (fun status => status = .panicked) s.2.calls ++
          (s.2.worker.handed ++ (s.2.worker.inHand ++ s.2.untaken)))))) := by
    apply List.sublist_append_of_sublist_right
    apply List.sublist_append_of_sublist_right
    apply List.sublist_append_of_sublist_right
    apply List.sublist_append_of_sublist_right
    exact List.sublist_append_left _ _
  refine ⟨?_, ?_, ?_, ?_⟩
  · rw [keys_published hsent]
    have hids' := (((hperm.filterMap (Kind.payload? .trace)).map _).nodup_iff).1 hcollected.nodup
    exact hids'.sublist ((hamong.filterMap (Kind.payload? .trace)).map _)
  · intro record hrecord
    obtain ⟨seg, hseg, rfl⟩ := (mem_published_segment hsent).1 hrecord
    refine ⟨seg, ?_, rfl⟩
    exact (hcollected.given_iff seg).1 (hperm.mem_iff.2 (hamong.mem hseg))
  · rw [published_eq hsent, filter_meter]
    have hsublist := (hhanded.filter isMeter).trans (filter_enqueued_sublist horder.metricer)
    have hmap := hsublist.map (KafkaProducer.recordOf encodeToVec nameSpace)
    rw [List.map_map] at hmap
    exact hmap
  · rw [published_eq hsent, filter_management]
    exact (((hhanded.filter isManagement).trans
      (filter_enqueued_sublist horder.keepAlive)).filter isInstance).map _

/-- A quiet end: the components stop while the reporter still takes items, at a moment when every
call of `report` has returned, and the worker ends. -/
theorem published_at_end
    (hids : ∀ i j, (origin i).traceSegmentId = (origin j).traceSegmentId → i = j)
    (hrun : runKafka settings encodeToVec (startKafka origin service capacity nameSpace) es =
      some s) (hopen : s.2.worker.isClosing = false) (hquiet : s.2.unreturned = [])
    {ds : List (PipelineEvent CollectItem (Except KafkaError Unit))}
    {t : Pipeline (KafkaProducer KafkaError) CollectItem}
    (hcalls : ∀ d ∈ ds, ∀ item, d ≠ .report item)
    (hrest : Execution.run (KafkaReporting.spawn encodeToVec) s.2 ds = some t)
    {r : Except (Error TryRecvError) Unit} (hended : t.worker.result = some r) :
    Published encodeToVec nameSpace s.1 t := by
  have hother : ∀ d ∈ ds, calledItem? d = none := by
    intro d hd
    cases d with
    | report item => exact absurd rfl (hcalls _ hd item)
    | _ => rfl
  have hwhole : runKafka settings encodeToVec (startKafka origin service capacity nameSpace)
      (es ++ ds.map .inr) = some (s.1, t) :=
    Execution.run_append_iff.2 ⟨s, hrun, Wiring.run_own hother hrest⟩
  obtain ⟨ds₁, hds₁, -⟩ := run_givenKafka hids hrun
  obtain ⟨ds₂, hds₂, hcollected, hlogged⟩ := run_givenKafka hids hwhole
  have hsent := KafkaProducer.run_sent_records hds₂
  have horder := run_inOrderKafka hwhole
  obtain ⟨r', hwork, -⟩ := Worker.work_of_result hended
  have hover : t.worker.work.result? = some r' := by rw [hwork]; rfl
  obtain ⟨haccepted, hhanded⟩ := Pipeline.calls_of_quiet hds₁ hopen hquiet hcalls hrest hover
  refine ⟨(publishedInPart hids hwhole).once, ?_, ?_, ?_⟩
  · intro record
    have hgiven : ∀ seg, .trace seg ∈ t.worker.handed ↔ World.ReportedBy s.1.contexts seg := by
      intro seg
      rw [hhanded, ← haccepted.mem_iff]
      exact hcollected.given_iff seg
    simp only [mem_published_segment hsent, hgiven]
  · rw [published_eq hsent, filter_meter, hhanded,
      filter_enqueued_eq horder.metricer haccepted hlogged.metricer, List.map_map]
    rfl
  · rw [published_eq hsent, filter_management, hhanded,
      filter_enqueued_eq horder.keepAlive haccepted hlogged.keepAlive]

/-- In every run of an application whose contexts have distinct segment ids and whose components
feed a Kafka reporter, caught panics included and whatever the client answers: no segment is
published twice and none that was not reported, and the data of the metricer and the properties of
the manager are published in order. Let the components stop while the reporter still takes items, at
a moment when every call of `report` has returned: when the worker has then ended, with any result,
every reported segment, datum and property is published. -/
theorem kafka_publishes
    (hids : ∀ i j, (origin i).traceSegmentId = (origin j).traceSegmentId → i = j)
    (hrun : runKafka settings encodeToVec (startKafka origin service capacity nameSpace) es =
      some s) :
    PublishedInPart encodeToVec nameSpace s.1 s.2 ∧
      (s.2.worker.isClosing = false → s.2.unreturned = [] →
        ∀ ds t r, (∀ d ∈ ds, ∀ item, d ≠ .report item) →
          Execution.run (KafkaReporting.spawn encodeToVec) s.2 ds = some t →
          t.worker.result = some r → Published encodeToVec nameSpace s.1 t) := by
  refine ⟨publishedInPart hids hrun, ?_⟩
  intro hopen hquiet ds t r hcalls hrest hended
  exact published_at_end hids hrun hopen hquiet hcalls hrest hended

/-- A call on one of the two contexts at time zero. -/
def kafkaCall (i : Bool) (op : Op) : KafkaEvent Bool String :=
  .inl (.context i ⟨fun _ => 0, op⟩)

/-- Two contexts report their segments. -/
def twoPublished : List (KafkaEvent Bool String) :=
  [kafkaCall false (.createEntrySpan "a"), kafkaCall true (.createEntrySpan "b"),
    kafkaCall true (.dropSpan 0), kafkaCall true .dropContext, .inr (.produce 0),
    kafkaCall false (.dropSpan 0), kafkaCall false .dropContext, .inr (.produce 1)]

/-- The client answers with an error once. -/
def endOfWorker : List (PipelineEvent CollectItem (Except String Unit)) :=
  [.ask .consume, .worker (.report (.ok ())), .worker .reported, .ask .consume,
    .worker (.report (.error "timeout")), .worker .reported, .worker .signal,
    .worker .recvShutdown, .worker .storeClosing, .ask .flush, .worker .dropLocals]

theorem kafka_publishes_two :
    ∃ s t, runKafka sampleSettings (fun _ => [1])
        (startKafka twoOrigins ⟨"s", "i"⟩ none (some "ns")) twoPublished = some s ∧
      Execution.run (KafkaReporting.spawn fun _ => [1]) s.2 endOfWorker = some t ∧
      ((published (some "ns") .segment t).map fun record => record.key) = ["g2", "g1"] ∧
      Published (fun _ => [1]) (some "ns") s.1 t := by
  have hids : ∀ i j, (twoOrigins i).traceSegmentId = (twoOrigins j).traceSegmentId → i = j := by
    decide
  have hrun : ∃ s t, runKafka sampleSettings (fun _ => [1])
        (startKafka twoOrigins ⟨"s", "i"⟩ none (some "ns")) twoPublished = some s ∧
      s.2.worker.isClosing = false ∧ s.2.unreturned = [] ∧
      Execution.run (KafkaReporting.spawn fun _ => [1]) s.2 endOfWorker = some t ∧
      t.worker.result = some (.ok ()) ∧
      ((published (some "ns") .segment t).map fun record => record.key) = ["g2", "g1"] :=
    ⟨_, _, rfl, rfl, rfl, rfl, rfl, rfl⟩
  obtain ⟨s, t, hrun, hopen, hquiet, hrest, hended, hkeys⟩ := hrun
  have hcalls : ∀ d ∈ endOfWorker, ∀ item, d ≠ .report item := by
    simp [endOfWorker]
  obtain ⟨-, hend⟩ := kafka_publishes hids hrun
  exact ⟨s, t, hrun, hrest, hkeys, hend hopen hquiet endOfWorker t _ hcalls hrest hended⟩

end SkywalkingAgent.Application
