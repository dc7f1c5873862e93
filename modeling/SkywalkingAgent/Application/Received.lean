import SkywalkingAgent.Application.Delivery
import SkywalkingAgent.Trace.TraceIds

/-!
# What the collector makes of the segments

The collector sees what the streams of segments have yielded so far, and puts it together by trace
ids, segment ids and references. Where the contexts import what was sent before and the exporters
stay in their traces (`World.Causal`, `World.Orderly`), the picture is right, whatever part of the
segments has arrived, and however contexts, loggers, loops and the tasks of the reporter are
interleaved (`received_coherent`): it has no cycle, an ancestor is in the trace of its descendants,
and two segments are in one trace exactly when imports connect their contexts.
-/

set_option autoImplicit false

namespace SkywalkingAgent.Application

open SkywalkingAgent.Lib SkywalkingAgent.Common SkywalkingAgent.Proto SkywalkingAgent.Propagation
open SkywalkingAgent.Reporter SkywalkingAgent.Metrics SkywalkingAgent.Trace

variable {ι Status : Type}

/-! ## The contexts of an application -/

/-- The call on a context, or on one of its spans, that an event is. -/
def contextCall? : ComponentEvent ι ⊕ ReportingEvent Status → Option (ι × Trace.Event)
  | .inl (.context i e) => some (i, e)
  | _ => none

/-- The calls on contexts and spans in a run of the application. -/
def contextCalls (es : List (ComponentEvent ι ⊕ ReportingEvent Status)) :
    List (ι × Trace.Event) :=
  es.filterMap contextCall?

variable [DecidableEq ι] {settings : Settings} {origin : ι → Origin} {service : Service}
  {capacity : Option Nat} {es : List (ComponentEvent ι ⊕ ReportingEvent Status)}
  {s : State ι Status}

/-- The contexts take a run of their own. -/
theorem run_contexts (hrun : run settings (start origin service capacity) es = some s) :
    World.afterAll settings.overflowChecks (fun i => (origin i).world) (contextCalls es) =
      some s.1.contexts := by
  have hstep : ∀ e ∈ es, ∀ (a b : State ι Status) (contexts : ι → World),
      a.1.contexts = contexts → (wiring ι Status settings).step a e = some b →
      ∃ contexts', Execution.run (Execution.interleave (World.after settings.overflowChecks))
        contexts (contextCall? e).toList = some contexts' ∧ b.1.contexts = contexts' := by
    rintro e - a b contexts rfl hstep
    cases Wiring.step_effect hstep with
    | own d t hother hsink => exact ⟨_, rfl, rfl⟩
    | fed e next items t hready hsource hsink =>
      cases Components.step_effect hsource with
      | call i e w after | dropContext i e w seg after =>
        refine ⟨_, Execution.run_cons_iff.2 ⟨_, ?_, rfl⟩, rfl⟩
        exact Option.map_eq_some_iff.2 ⟨w, after, rfl⟩
      | _ => exact ⟨_, rfl, rfl⟩
  obtain ⟨contexts, hcontexts, heq⟩ := Execution.run_simulation contextCall? hstep rfl hrun
  rw [heq]
  exact hcontexts

omit [DecidableEq ι] in
theorem yielded_sublist_places (k : Kind) (t : Reporting Status) :
    List.Sublist (α := k.Payload) (t.receiver k).yielded (t.places k) := by
  have hline := (List.sublist_append_left (t.receiver k).yielded (t.channel k).buffer).trans
    (List.sublist_append_left _ (t.handled k))
  unfold Reporting.places
  apply List.sublist_append_of_sublist_right
  apply List.sublist_append_of_sublist_right
  apply List.sublist_append_of_sublist_right
  apply List.sublist_append_of_sublist_right
  exact hline.trans (List.sublist_append_left _ _)

/-- What the streams have yielded, the contexts have reported, and each id once. -/
theorem reported_of_yielded
    (hids : ∀ i j, (origin i).traceSegmentId = (origin j).traceSegmentId → i = j)
    (hrun : run settings (start origin service capacity) es = some s) :
    (((s.2.receiver .trace).yielded).map fun seg : SegmentObject => seg.traceSegmentId).Nodup ∧
      ∀ seg : SegmentObject, seg ∈ (s.2.receiver .trace).yielded →
        World.ReportedBy s.1.contexts seg := by
  obtain ⟨ds, hds, hcollected, -⟩ := run_given hids hrun
  have hperm := Reporting.run_places hds .trace
  have hsublist := yielded_sublist_places .trace s.2
  constructor
  · exact (((hperm.map _).nodup_iff.1 hcollected.nodup).sublist (hsublist.map _))
  · intro seg hseg
    exact (hcollected.given_iff seg).1 (mem_segments.1 (hperm.mem_iff.2 (hsublist.mem hseg)))

/-! ## The picture -/

/-- The segments show the calls as they were: no cycle; a reference, and an ancestor's segment, in
the trace of the segment; one trace where imports connect the contexts, and only there. -/
structure Coherent (base64 : Base64Engine) (overflowChecks : Bool) (origin : ι → Origin)
    (calls : List (ι × Trace.Event)) (segs : SegmentObject → Prop) : Prop where
  acyclic : ∀ x, ¬Relation.TransGen (World.ParentOf segs) x x
  references : ∀ seg, segs seg → ∀ obj ∈ seg.spans, ∀ ref ∈ obj.refs, ref.traceId = seg.traceId
  ancestors : ∀ seg seg' k k', segs seg → segs seg' →
    Relation.TransGen (World.ParentOf segs) (seg.traceSegmentId, k) (seg'.traceSegmentId, k') →
    seg.traceId = seg'.traceId
  traces : ∀ seg seg' i j, segs seg → segs seg' →
    seg.traceSegmentId = (origin i).traceSegmentId →
    seg'.traceSegmentId = (origin j).traceSegmentId →
    (seg.traceId = seg'.traceId ↔
      Relation.EqvGen (World.Joined base64 overflowChecks origin calls) i j)

/-- A part of a coherent picture is coherent. -/
theorem Coherent.mono {base64 : Base64Engine} {overflowChecks : Bool}
    {calls : List (ι × Trace.Event)} {segs segs' : SegmentObject → Prop}
    (h : Coherent base64 overflowChecks origin calls segs') (hmono : ∀ seg, segs seg → segs' seg) :
    Coherent base64 overflowChecks origin calls segs := by
  have hpath : ∀ p x, Relation.TransGen (World.ParentOf segs) p x →
      Relation.TransGen (World.ParentOf segs') p x := by
    intro p x
    apply Relation.TransGen.mono
    intro p x hpx
    exact hpx.mono hmono
  refine ⟨?_, ?_, ?_, ?_⟩
  · intro x hx
    exact h.acyclic x (hpath x x hx)
  · intro seg hseg
    exact h.references seg (hmono seg hseg)
  · intro seg seg' k k' hseg hseg' hpx
    exact h.ancestors seg seg' k k' (hmono seg hseg) (hmono seg' hseg') (hpath _ _ hpx)
  · intro seg seg' i j hseg hseg'
    exact h.traces seg seg' i j (hmono seg hseg) (hmono seg' hseg')

/-- What the contexts have reported. -/
theorem coherent_reported {base64 : Base64Engine} (hbase64 : base64.Standard)
    {overflowChecks : Bool} {calls : List (ι × Trace.Event)} {contexts : ι → World}
    (htraces : ∀ i j, (origin i).traceId = (origin j).traceId → i = j)
    (hids : ∀ i j, (origin i).traceSegmentId = (origin j).traceSegmentId → i = j)
    (hrun : World.afterAll overflowChecks (fun i => (origin i).world) calls = some contexts)
    (hn : ∀ i, (contexts i).handles.length < 2 ^ 31)
    (hcausal : World.Causal base64 overflowChecks origin calls)
    (horderly : World.Orderly base64 overflowChecks origin calls) :
    Coherent base64 overflowChecks origin calls (World.ReportedBy contexts) := by
  refine ⟨World.not_path_self hbase64 hids hrun hn hcausal, ?_, ?_, ?_⟩
  · intro seg hseg obj hobj ref href
    exact World.traceId_of_ref hbase64 hrun hn horderly hseg hobj href
  · intro seg seg' k k' hseg hseg' hpath
    exact World.traceId_of_path hbase64 hids hrun hn horderly hseg hseg' hpath
  · rintro seg seg' i j ⟨a, hseg⟩ ⟨b, hseg'⟩ hi hj
    obtain rfl := hids a i (((World.run_segmentIds hrun a).2 seg hseg).symm.trans hi)
    obtain rfl := hids b j (((World.run_segmentIds hrun b).2 seg' hseg').symm.trans hj)
    rw [(World.run_ofTrace hrun a).segments seg hseg,
      (World.run_ofTrace hrun b).segments seg' hseg']
    exact World.traceId_eq_iff hbase64 htraces hids hrun hn horderly a b

/-- In every run of an application whose contexts have distinct trace and segment ids and less than
`2 ^ 31` spans each, and import positions that were sent before with a span active, on younger spans
and once each, from contexts that adopt no other trace afterwards, whatever else happens meanwhile:
the segments that the streams have yielded so far have distinct ids and make a coherent picture of
the calls on the contexts. -/
theorem received_coherent {base64 : Base64Engine} (hbase64 : base64.Standard)
    (htraces : ∀ i j, (origin i).traceId = (origin j).traceId → i = j)
    (hids : ∀ i j, (origin i).traceSegmentId = (origin j).traceSegmentId → i = j)
    (hrun : run settings (start origin service capacity) es = some s)
    (hn : ∀ i, (s.1.contexts i).handles.length < 2 ^ 31)
    (hcausal : World.Causal base64 settings.overflowChecks origin (contextCalls es))
    (horderly : World.Orderly base64 settings.overflowChecks origin (contextCalls es)) :
    (((s.2.receiver .trace).yielded).map fun seg : SegmentObject => seg.traceSegmentId).Nodup ∧
      Coherent base64 settings.overflowChecks origin (contextCalls es)
        fun seg => seg ∈ (s.2.receiver .trace).yielded := by
  obtain ⟨hnodup, hreported⟩ := reported_of_yielded hids hrun
  refine ⟨hnodup, ?_⟩
  exact (coherent_reported hbase64 htraces hids (run_contexts hrun) hn hcausal horderly).mono
    hreported

/-- Both segments are produced, passed on and polled. -/
def bothPolled : List (ReportingEvent String) :=
  [.pipeline (.produce 0), .pipeline (.produce 1)] ++ passItem ++ passItem ++
    [.receive .trace .stream, .receive .trace .poll, .receive .trace .poll]

/-- The second context continues from the first one, and both segments arrive. -/
def pairReceived : List (ComponentEvent Bool ⊕ ReportingEvent String) :=
  (World.pairBefore ++ World.pairAfter).map (fun call => .inl (.context call.1 call.2)) ++
    bothPolled.map .inr

theorem received_coherent_pair :
    ∃ s, run sampleSettings (start World.pairOrigin ⟨"s", "i"⟩ none) pairReceived = some s ∧
      ((s.2.receiver .trace).yielded.map fun seg : SegmentObject => seg.traceSegmentId) =
        ["g2", "g1"] ∧
      Coherent .rfc4648 true World.pairOrigin (World.pairBefore ++ World.pairAfter)
        fun seg => seg ∈ (s.2.receiver .trace).yielded := by
  have hrun : (run sampleSettings (start World.pairOrigin ⟨"s", "i"⟩ none) pairReceived).any
      fun s => decide ((s.1.contexts true).handles.length = 1 ∧
        (s.1.contexts false).handles.length = 1 ∧
        ((s.2.receiver .trace).yielded.map fun seg : SegmentObject => seg.traceSegmentId) =
          ["g2", "g1"]) := by
    decide +kernel
  obtain ⟨s, hrun, hall⟩ := (Option.any_eq_true _ _).1 hrun
  obtain ⟨htrue, hfalse, hyielded⟩ := of_decide_eq_true hall
  have hn : ∀ i, (s.1.contexts i).handles.length < 2 ^ 31 := by
    intro i
    cases i with
    | true => rw [htrue]; decide
    | false => rw [hfalse]; decide
  obtain ⟨-, hcoherent⟩ := received_coherent Base64Engine.standard_rfc4648 (by decide) (by decide)
    hrun hn World.causal_pair World.orderly_pair
  exact ⟨s, hrun, hyielded, hcoherent⟩

end SkywalkingAgent.Application
