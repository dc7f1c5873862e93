import SkywalkingAgent.Propagation.Codec
import SkywalkingAgent.Trace.Calls

/-!
# The round trip of the header

A span id that a header carries was drawn from the context's counter, so it is not negative as long
as fewer than `2 ^ 31` spans were created (`World.Numbered`); no sign adds a dash to the header, and
`decode_propagation` reads back what `encode_propagation` wrote.
-/

set_option autoImplicit false

namespace SkywalkingAgent.Trace.World

open SkywalkingAgent.Lib SkywalkingAgent.Common SkywalkingAgent.Propagation

variable {overflowChecks : Bool} {w w' : World} {e : Event}

/-- The counter counts the spans, and the ids on the active stack were drawn from it. -/
structure Numbered (w : World) : Prop where
  next : w.context.nextSpanId = wrapI32 (w.handles.length : Nat)
  active : ∀ i ∈ w.context.spanStack.active.map (fun a => a.spanId),
    ∃ k : Nat, k < w.handles.length ∧ i = wrapI32 (k : Nat)

theorem numbered_new (serviceName instanceName traceId traceSegmentId : String)
    (tracer : WeakTracer) :
    (World.new serviceName instanceName traceId traceSegmentId tracer).Numbered where
  next := (wrapI32_natCast (k := 0) (by decide)).symm
  active i hi := by cases hi

/-- A call that leaves the counter and the number of handles, and at most takes spans off the
stack. -/
theorem Numbered.of_sublist (hw : w.Numbered)
    (hnext : w'.context.nextSpanId = w.context.nextSpanId)
    (hlen : w'.handles.length = w.handles.length)
    (hactive : (w'.context.spanStack.active.map fun a => a.spanId).Sublist
      (w.context.spanStack.active.map fun a => a.spanId)) : w'.Numbered where
  next := by rw [hnext, hlen, hw.next]
  active i hi := by
    -- what is left on the stack was there before
    obtain ⟨k, hk, hki⟩ := hw.active i (hactive.subset hi)
    exact ⟨k, by rw [hlen]; exact hk, hki⟩

theorem numbered_after (hw : w.Numbered) (hop : e.op ≠ .dropContext)
    (h : w.after overflowChecks e = some w') : w'.Numbered := by
  cases after_effect hop h with
  | created obj hnext _ hhandles _ hstack _ =>
    have hlen : w'.handles.length = w.handles.length + 1 := by simp [hhandles]
    refine ⟨?_, fun i hi => ?_⟩
    · rw [hlen]
      exact succI32_wrapI32 (hw.next ▸ hnext)
    · rw [hstack, List.map_append, List.mem_append] at hi
      rcases hi with hi | hi
      -- an id drawn before
      · obtain ⟨k, hk, hki⟩ := hw.active i hi
        exact ⟨k, by omega, hki⟩
      · rw [List.map_singleton, List.mem_singleton] at hi
        -- the id of the new span is the counter before the call
        exact ⟨w.handles.length, by omega, hi.trans hw.next⟩
  | edited k x x' _ _ heq =>
    subst heq
    exact hw.of_sublist rfl (by simp [setHandle]) (List.Sublist.refl _)
  | dropped k s stack _ hdrop heq =>
    subst heq
    obtain ⟨t, a, hactive, -, rfl⟩ := SpanStack.finalizeSpan_eq_ok_iff.1 hdrop
    refine hw.of_sublist rfl (by simp [setHandle, setShared]) ?_
    rw [hactive]
    exact (List.sublist_append_left t [a]).map _
  | prepared k s a shared _ _ hprep heq =>
    subst heq
    obtain ⟨-, t, top, hactive, -, rfl⟩ := Span.prepareForAsync_eq_ok_iff.1 hprep
    refine hw.of_sublist rfl (by simp [setHandle, setShared]) ?_
    rw [hactive]
    exact (List.sublist_append_left t [top]).map _
  | asyncDropped k shared _ hactive heq =>
    subst heq
    refine hw.of_sublist rfl (by simp [setHandle, setShared]) ?_
    show (shared.1.active.map _).Sublist _
    rw [hactive]
  | lost k s _ heq =>
    subst heq
    exact hw.of_sublist rfl (by simp [setHandle, setShared]) (List.Sublist.refl _)
  | kept hhandles _ hnext _ hstack _ =>
    exact hw.of_sublist hnext (by rw [hhandles]) (by rw [hstack.spanIds])

variable {serviceName instanceName traceId traceSegmentId : String} {tracer : WeakTracer}
  {es : List Event}

/-- The numbering along every run, caught panics included. -/
theorem run_numbered (hops : ∀ e ∈ es, e.op ≠ .dropContext)
    (hrun : Execution.run (World.after overflowChecks)
      (World.new serviceName instanceName traceId traceSegmentId tracer) es = some w) :
    w.Numbered := by
  exact Execution.run_invariant_of_forall hops
    (numbered_new serviceName instanceName traceId traceSegmentId tracer)
    (fun _ _ _ hop hw hstep => numbered_after hw hop hstep) hrun

/-- The id of the innermost span is not negative while the counter has not wrapped. -/
theorem Numbered.peekActiveSpanId (hw : w.Numbered) (hn : w.handles.length < 2 ^ 31) {i : Int}
    (hi : w.context.peekActiveSpanId = some i) : ∃ k : Nat, k < w.handles.length ∧ i = k := by
  obtain ⟨a, ha, rfl⟩ := Option.map_eq_some_iff.1 hi
  obtain ⟨k, hk, hki⟩ := hw.active a.spanId (List.mem_map_of_mem (List.mem_of_getLast? ha))
  exact ⟨k, hk, hki.trans (wrapI32_natCast (Nat.lt_trans hk hn))⟩

/-- In every state of a context that has created fewer than `2 ^ 31` spans, the header decodes to
the sampled context's ids and names, the given endpoint and address, and the id of the innermost
span if there is one; it is written in the alphabet of base64 with seven dashes. -/
theorem decode_encode_propagation {base64 : Base64Engine} (hbase64 : base64.Standard)
    (hops : ∀ e ∈ es, e.op ≠ .dropContext)
    (hrun : Execution.run (World.after overflowChecks)
      (World.new serviceName instanceName traceId traceSegmentId tracer) es = some w)
    (hn : w.handles.length < 2 ^ 31) (endpoint address : String) :
    ∃ p, decodePropagation base64 (encodePropagation base64 w.context endpoint address) = .ok p ∧
      p.doSample = true ∧ p.parentTraceId = w.context.traceId ∧
      p.parentTraceSegmentId = w.context.traceSegmentId ∧
      p.parentService = w.context.service ∧
      p.parentServiceInstance = w.context.serviceInstance ∧
      p.destinationEndpoint = endpoint ∧ p.destinationAddress = address ∧
      (∀ a, w.context.activeSpan = some a → p.parentSpanId = a.spanId) ∧
      (∀ c ∈ (encodePropagation base64 w.context endpoint address).toList,
        Base64.isCode c = true ∨ c = '-') ∧
      (encodePropagation base64 w.context endpoint address).toList.count '-' = 7 := by
  have hw := run_numbered hops hrun
  obtain ⟨k, hk, hkn⟩ : ∃ k : Nat, w.context.peekActiveSpanId.getD 0 = k ∧ k < 2 ^ 31 := by
    cases hpeek : w.context.peekActiveSpanId with
    -- without an active span the header has the id zero
    | none => exact ⟨0, rfl, by decide⟩
    | some i =>
      obtain ⟨k, hk, rfl⟩ := hw.peekActiveSpanId hn hpeek
      exact ⟨k, rfl, Nat.lt_trans hk hn⟩
  obtain ⟨hdecode, hcount, hcode⟩ := decode_encode_of_spanId hbase64 endpoint address hk hkn
  refine ⟨_, hdecode, rfl, rfl, rfl, rfl, rfl, rfl, rfl, fun a ha => ?_, hcode, hcount⟩
  rw [← hk, TracingContext.peekActiveSpanId, ha]
  rfl

/-- A header with a dash, an equals sign and a line break in its fields. -/
theorem decode_encode_propagation_rfc4648 :
    ∃ w p, Execution.run (World.after true) (World.new "a-b" "=" "t" "g" none)
        [⟨fun _ => 0, .createEntrySpan "op"⟩] = some w ∧
      decodePropagation .rfc4648 (encodePropagation .rfc4648 w.context "" "\n") = .ok p ∧
      p.doSample = true ∧ p.destinationEndpoint = "" ∧ p.destinationAddress = "\n" := by
  have hrun : ∃ w, Execution.run (World.after true) (World.new "a-b" "=" "t" "g" none)
      [⟨fun _ => 0, .createEntrySpan "op"⟩] = some w ∧
      decide (w.handles.length < 2 ^ 31) = true := (Option.any_eq_true _ _).1 (by decide +kernel)
  obtain ⟨w, hrun, hn⟩ := hrun
  obtain ⟨p, hdecode, hsample, -, -, -, -, hendpoint, haddress, -⟩ :=
    decode_encode_propagation Base64Engine.standard_rfc4648 (by decide) hrun
      (of_decide_eq_true hn) "" "\n"
  exact ⟨w, p, hrun, hdecode, hsample, hendpoint, haddress⟩

end SkywalkingAgent.Trace.World
