import SkywalkingAgent.Lib.Representatives
import SkywalkingAgent.Trace.Causality
import SkywalkingAgent.Trace.Snapshots

/-!
# What a trace id tells

Every context starts with a trace id of its own and takes over another one when it imports a
position. Nothing in the code stops a context from changing its trace twice, or after it has sent
its position on; in a run in which no context does, two contexts have the same trace id exactly when
imports connect them, and so do their reported segments (`World.trace_ids_connect`); a span and its
ancestors are then reported with one trace id (`World.ancestors_share_trace`). A context that adopts
a trace after it has sent its position leaves the trace of its children
(`World.late_adoption_splits`).
-/

set_option autoImplicit false

namespace SkywalkingAgent.Trace

open SkywalkingAgent.Lib SkywalkingAgent.Common SkywalkingAgent.Proto
open SkywalkingAgent.Propagation SkywalkingAgent.Reporter

/-- An export is what a call imports, so the call names it. -/
theorem Export.ImportedBy.unique {x y : Export} {op : Op} (hx : x.ImportedBy op)
    (hy : y.ImportedBy op) : x = y := by
  cases hx with
  | header operationName propagation =>
    cases hy
    rfl
  | snapshot captured =>
    cases hy
    rfl

theorem Export.exists_importedBy {op : Op} (hadopts : op.adopts?.isSome) :
    ∃ x : Export, x.ImportedBy op := by
  cases op with
  | createEntrySpanWithPropagation operationName propagation =>
    exact ⟨.header propagation, .header operationName propagation⟩
  | continued captured => exact ⟨.snapshot captured, .snapshot captured⟩
  | _ => cases hadopts

/-- A call adopts the trace of what it imports. -/
theorem Export.ImportedBy.trace_of_adopts {x : Export} {op : Op} {traceId : String}
    (hx : x.ImportedBy op) (hadopts : op.adopts? = some traceId) :
    (∀ data, x ≠ .log data) ∧ ∃ position, x.position = some position ∧
      position.traceId = traceId := by
  cases hx with
  | header operationName propagation =>
    refine ⟨?_, _, rfl, Option.some.inj hadopts⟩
    intro data h
    cases h
  | snapshot captured =>
    refine ⟨?_, _, rfl, ?_⟩
    · intro data h
      cases h
    · exact Option.some.inj (Option.ite_none_right_eq_some.1 hadopts).2

namespace World

variable {overflowChecks : Bool} {w w' : World} {e : Event}

/-! ## The trace of one context -/

/-- The drop of a context, also one that panics, leaves its trace. -/
theorem traceId_of_dropContext {clock : Clock}
    (h : w.after overflowChecks ⟨clock, .dropContext⟩ = some w') :
    w'.context.traceId = w.context.traceId := by
  obtain ⟨o, hcall, ho⟩ := after_eq_some_iff.1 h
  replace hcall := of_contextAlive hcall
  obtain rfl := Option.some.inj hcall
  have hpanic : ∀ m c, w.context.drop = .panic m c → c.traceId = w.context.traceId := by
    intro m c hdrop
    unfold TracingContext.drop TracingContext.convertToSegmentObject at hdrop
    cases htracer : w.context.tracer with
    | none =>
      rw [htracer] at hdrop
      obtain rfl := (Outcome.panic.inj hdrop).2
      rfl
    | some tracer =>
      cases hspans : TracingContext.takeObjects w.context.spanStack.finalized with
      | none =>
        simp only [htracer, hspans, Outcome.bind] at hdrop
        obtain rfl := (Outcome.panic.inj hdrop).2
        rfl
      | some spans =>
        simp only [htracer, hspans, Outcome.bind] at hdrop
        cases hdrop
  unfold dropContext at ho
  cases hdrop : w.context.drop with
  | ok item c =>
    rw [hdrop] at ho
    obtain rfl := Outcome.eq_of_ok ho
    obtain ⟨-, spans, -, -, rfl⟩ := TracingContext.drop_eq_ok_iff.1 hdrop
    rfl
  | panic m c =>
    rw [hdrop] at ho
    rcases ho with ho | ⟨m', ho⟩
    · cases ho
    · obtain rfl := (Outcome.panic.inj ho).2
      exact hpanic m c hdrop
  | abort m =>
    rw [hdrop] at ho
    rcases ho with ho | ⟨m', ho⟩
    · cases ho
    · cases ho

/-- A call leaves the trace alone, or changes it to the one that it adopts. -/
theorem traceId_after (h : w.after overflowChecks e = some w') :
    w'.context.traceId = w.context.traceId ∨ e.op.adopts? = some w'.context.traceId := by
  by_cases hop : e.op = .dropContext
  · obtain ⟨clock, op⟩ := e
    obtain rfl : op = .dropContext := hop
    exact Or.inl (traceId_of_dropContext h)
  · exact (after_keepsTrace hop h).2

/-- Only a live context adopts a trace. -/
theorem alive_of_adopts {traceId : String} (hadopts : e.op.adopts? = some traceId)
    (h : w.after overflowChecks e = some w') : w.contextAlive = true := by
  by_contra hdead
  obtain ⟨clock, op⟩ := e
  cases op with
  | createEntrySpanWithPropagation operationName propagation =>
    simp [World.after, call, hdead] at h
  | continued snapshot => simp [World.after, call, hdead] at h
  | _ => cases hadopts

theorem run_traceId_of_quiet {es : List Event} (hquiet : ∀ e ∈ es, e.op.adopts? = none)
    (hrun : Execution.run (World.after overflowChecks) w es = some w') :
    w'.context.traceId = w.context.traceId := by
  refine Execution.run_invariant_of_forall (P := fun e => e.op.adopts? = none)
    (I := fun v => v.context.traceId = w.context.traceId) hquiet rfl ?_ hrun
  intro a b e hnone ha hstep
  rcases traceId_after hstep with hsame | hadopts
  · exact hsame.trans ha
  · rw [hnone] at hadopts
    cases hadopts

/-- The reported segments are of the trace of their context, which has been dropped then. -/
structure OfTrace (w : World) : Prop where
  dropped : w.contextAlive = true → w.reported = []
  segments : ∀ seg, .trace seg ∈ w.reported → seg.traceId = w.context.traceId

theorem OfTrace.after (h : w.OfTrace) (hstep : w.after overflowChecks e = some w') :
    w'.OfTrace := by
  by_cases hop : e.op = .dropContext
  · obtain ⟨clock, op⟩ := e
    obtain rfl : op = .dropContext := hop
    have halive : w.contextAlive = true := by
      by_contra hdead
      simp [World.after, call, hdead] at hstep
    have hnone := h.dropped halive
    obtain ⟨hdead, -⟩ := dropped_of_dropContext hstep
    refine ⟨?_, ?_⟩
    · intro halive'
      rw [hdead] at halive'
      cases halive'
    · intro seg hseg
      rw [traceId_of_dropContext hstep]
      rcases after_dropContext hstep with ⟨item, c, hdrop, rfl⟩ | hreported
      · have hitem : .trace seg = item := by simpa [hnone] using hseg
        subst hitem
        exact TracingContext.traceId_of_drop hdrop
      · rw [hreported, hnone] at hseg
        cases hseg
  · have hframe := sameFrame_after hop hstep
    refine ⟨?_, ?_⟩
    · intro halive
      rw [hframe.reported]
      exact h.dropped (hframe.alive.symm.trans halive)
    · intro seg hseg
      rw [hframe.reported] at hseg
      rcases traceId_after hstep with hsame | hadopts
      · rw [hsame]
        exact h.segments seg hseg
      · rw [h.dropped (alive_of_adopts hadopts hstep)] at hseg
        cases hseg

/-! ## The traces of a family -/

section Family

variable {ι : Type} [DecidableEq ι] (base64 : Base64Engine) (overflowChecks : Bool)
  (origin : ι → Origin)

/-- The context `i` exports `x` after the calls `sent`, while it lives and has a span active. -/
def SentAt (sent : List (ι × Event)) (i : ι) (x : Export) : Prop :=
  ∃ s k, afterAll overflowChecks (fun i => (origin i).world) sent = some s ∧
    (s i).contextAlive = true ∧ (s i).Exports base64 k x

/-- A context adopts a trace once at most, from one of the family, which has sent it, while it lived
and had a span active, and never adopts another one afterwards. -/
def Orderly (events : List (ι × Event)) : Prop :=
  ∀ pre j e post, events = pre ++ (j, e) :: post → e.op.adopts?.isSome →
    (∀ e', (j, e') ∈ pre → e'.op.adopts? = none) ∧
    ∃ i x sent mid, pre = sent ++ mid ∧ SentAt base64 overflowChecks origin sent i x ∧
      x.ImportedBy e.op ∧ ∀ e', (i, e') ∈ mid ++ (j, e) :: post → e'.op.adopts? = none

/-- The call `e` of the context `j`, made after `pre`, takes over what the context `i` has sent. -/
def TakesOver (pre : List (ι × Event)) (i j : ι) (e : Event) : Prop :=
  ∃ sent mid x s', pre = sent ++ mid ∧ SentAt base64 overflowChecks origin sent i x ∧
    x.ImportedBy e.op ∧
    afterAll overflowChecks (fun i => (origin i).world) (pre ++ [(j, e)]) = some s' ∧
    e.op.adopts? = some (s' j).context.traceId

/-- Some call of the context `j` takes over what the context `i` has sent. -/
def Joined (events : List (ι × Event)) (i j : ι) : Prop :=
  ∃ pre e post, events = pre ++ (j, e) :: post ∧
    TakesOver base64 overflowChecks origin pre i j e

/-- The contexts of a family after the calls `pre`, with `rest` to come: `root` names the context
whose trace another one has. -/
structure Rooting (pre rest : List (ι × Event)) (s : ι → World) (root : ι → ι) : Prop where
  trace : ∀ i, (s i).context.traceId = (origin (root i)).traceId
  own : ∀ i, (∀ e, (i, e) ∈ pre → e.op.adopts? = none) → root i = i
  first : ∀ i, root i = i ↔ ∀ k, ¬Joined base64 overflowChecks origin pre k i
  settled : ∀ i, root i ≠ i → ∀ e, (root i, e) ∈ rest → e.op.adopts? = none
  represents : Represents (Joined base64 overflowChecks origin pre) root

variable {base64} {overflowChecks} {origin} {pre rest events : List (ι × Event)} {i j : ι}
  {k : ι} {e : Event} {s s' : ι → World} {root : ι → ι}

theorem joined_concat_iff :
    Joined base64 overflowChecks origin (pre ++ [(j, e)]) i k ↔
      Joined base64 overflowChecks origin pre i k ∨
        k = j ∧ TakesOver base64 overflowChecks origin pre i j e := by
  constructor
  · rintro ⟨pre', e', post, hsplit, htakes⟩
    rcases List.eq_nil_or_concat' post with rfl | ⟨post, last, rfl⟩
    · obtain ⟨rfl, hlast⟩ := List.append_inj' hsplit rfl
      obtain ⟨rfl, rfl⟩ := Prod.mk.inj (List.singleton_inj.1 hlast)
      exact Or.inr ⟨rfl, htakes⟩
    · rw [← List.cons_append, ← List.append_assoc] at hsplit
      obtain ⟨rfl, -⟩ := List.append_inj' hsplit rfl
      exact Or.inl ⟨pre', e', post, rfl, htakes⟩
  · rintro (⟨pre', e', post, rfl, htakes⟩ | ⟨rfl, htakes⟩)
    · exact ⟨pre', e', post ++ [(j, e)], by simp, htakes⟩
    · exact ⟨pre, e, [], rfl, htakes⟩

/-- What a context sends that another one can adopt has its position. -/
theorem SentAt.position (hbase64 : base64.Standard) {sent later : List (ι × Event)} {x : Export}
    (hrun : afterAll overflowChecks (fun i => (origin i).world) (sent ++ later) = some s)
    (hn : ∀ i, (s i).handles.length < 2 ^ 31) (h : SentAt base64 overflowChecks origin sent i x)
    (hlog : ∀ data, x ≠ .log data) :
    ∃ s₀ k, afterAll overflowChecks (fun i => (origin i).world) sent = some s₀ ∧
      x.position = some ⟨(s₀ i).context.traceId, (origin i).traceSegmentId, k⟩ := by
  obtain ⟨s₀, k, hs₀, halive, hx⟩ := h
  obtain ⟨s₁, hs₁, hlater⟩ := Execution.run_append_iff.1 hrun
  obtain rfl := Option.some.inj (hs₀.symm.trans hs₁)
  have hlt := Nat.lt_of_le_of_lt (count_le_of_run hlater i) (hn i)
  obtain ⟨-, hposition⟩ := position_of_sent hbase64 hs₀ halive hlt hx hlog
  exact ⟨s₀, _, hs₀, hposition⟩

/-- A context that adopts no trace has the one it had. -/
theorem traceId_of_quiet {mid : List (ι × Event)}
    (hrun : afterAll overflowChecks s mid = some s')
    (hquiet : ∀ e, (i, e) ∈ mid → e.op.adopts? = none) :
    (s' i).context.traceId = (s i).context.traceId := by
  refine run_traceId_of_quiet ?_ (Execution.run_interleave_component i hrun)
  intro e he
  exact hquiet e (Execution.mem_component.1 he)

/-- The others keep their trace, and the context that is called keeps it or adopts another one. -/
theorem traceId_interleave
    (hstep : Execution.interleave (World.after overflowChecks) s (j, e) = some s') :
    (∀ k, k ≠ j → (s' k).context.traceId = (s k).context.traceId) ∧
      ((s' j).context.traceId = (s j).context.traceId ∨
        e.op.adopts? = some (s' j).context.traceId) := by
  obtain ⟨t, ht, rfl⟩ := Option.map_eq_some_iff.1 hstep
  constructor
  · intro k hk
    rw [Function.update_of_ne hk]
  · rw [Function.update_self]
    exact traceId_after ht

/-- The context whose next call adopts a trace for the first time is alone with its own. -/
theorem Rooting.alone (h : Rooting base64 overflowChecks origin pre ((j, e) :: rest) s root)
    (hadopts : e.op.adopts?.isSome) (hfirst : ∀ e', (j, e') ∈ pre → e'.op.adopts? = none) (k : ι) :
    root k = j ↔ k = j := by
  constructor
  · intro hk
    by_contra hne
    have hsettled := h.settled k (hk.trans_ne (Ne.symm hne)) e
    rw [hk] at hsettled
    rw [hsettled List.mem_cons_self] at hadopts
    cases hadopts
  · rintro rfl
    exact h.own k hfirst

/-- A call that adopts no trace. -/
theorem Rooting.keep (h : Rooting base64 overflowChecks origin pre ((j, e) :: rest) s root)
    (hrun : afterAll overflowChecks (fun i => (origin i).world) (pre ++ [(j, e)]) = some s')
    (hstep : Execution.interleave (World.after overflowChecks) s (j, e) = some s')
    (hadopts : e.op.adopts? ≠ some (s' j).context.traceId) :
    Rooting base64 overflowChecks origin (pre ++ [(j, e)]) rest s' root := by
  obtain ⟨hothers, hself⟩ := traceId_interleave hstep
  have hjoined : ∀ a b, Joined base64 overflowChecks origin (pre ++ [(j, e)]) a b ↔
      Joined base64 overflowChecks origin pre a b := by
    intro a b
    rw [joined_concat_iff]
    constructor
    · rintro (hold | ⟨-, sent, mid, x, s₁, -, -, -, hs₁, hnew⟩)
      · exact hold
      · obtain rfl := Option.some.inj (hrun.symm.trans hs₁)
        exact absurd hnew hadopts
    · exact Or.inl
  refine ⟨?_, ?_, ?_, ?_, h.represents.congr hjoined⟩
  · intro k
    rw [← h.trace k]
    by_cases hk : k = j
    · rw [hk]
      exact hself.resolve_right hadopts
    · exact hothers k hk
  · intro k hk
    exact h.own k fun e' he' => hk e' (List.mem_append_left _ he')
  · intro k
    rw [h.first k]
    exact forall_congr' fun a => not_congr (hjoined a k).symm
  · intro k hk e' he'
    exact h.settled k hk e' (List.mem_cons_of_mem _ he')

/-- A call that adopts a trace of the family. -/
theorem Rooting.adopt (hbase64 : base64.Standard)
    (hids : ∀ i j, (origin i).traceSegmentId = (origin j).traceSegmentId → i = j)
    {t : ι → World} (hn : ∀ i, (t i).handles.length < 2 ^ 31)
    (hall : afterAll overflowChecks (fun i => (origin i).world) (pre ++ (j, e) :: rest) = some t)
    (horderly : Orderly base64 overflowChecks origin (pre ++ (j, e) :: rest))
    (h : Rooting base64 overflowChecks origin pre ((j, e) :: rest) s root)
    (hpre : afterAll overflowChecks (fun i => (origin i).world) pre = some s)
    (hstep : Execution.interleave (World.after overflowChecks) s (j, e) = some s')
    (hadopts : e.op.adopts? = some (s' j).context.traceId) :
    ∃ root', Rooting base64 overflowChecks origin (pre ++ [(j, e)]) rest s' root' := by
  have hsome : e.op.adopts?.isSome := by rw [hadopts]; rfl
  obtain ⟨hfirst, i, x, sent, mid, rfl, hsent, himported, hquiet⟩ :=
    horderly pre j e rest rfl hsome
  have hrun : afterAll overflowChecks (fun i => (origin i).world) (sent ++ mid ++ [(j, e)]) =
      some s' := Execution.run_concat_iff.2 ⟨s, hpre, hstep⟩
  -- the call itself adopts, so it is not one of the sender's
  have hij : i ≠ j := by
    rintro rfl
    rw [hquiet e (by simp)] at hsome
    cases hsome
  obtain ⟨hlog, position, hposition, htrace⟩ := himported.trace_of_adopts hadopts
  have hsplit : sent ++ mid ++ (j, e) :: rest = sent ++ (mid ++ (j, e) :: rest) := by simp
  obtain ⟨s₀, k, hs₀, hsender⟩ := hsent.position hbase64 (hsplit ▸ hall) hn hlog
  have hjoined : ∀ a b, Joined base64 overflowChecks origin (sent ++ mid ++ [(j, e)]) a b ↔
      Joined base64 overflowChecks origin (sent ++ mid) a b ∨ (a = i ∧ b = j) := by
    intro a b
    rw [joined_concat_iff]
    refine or_congr_right ?_
    constructor
    · rintro ⟨rfl, sent', mid', x', s₁, hsplit', hsent', himported', -, -⟩
      obtain rfl := himported.unique himported'
      have hall' : sent ++ mid ++ (b, e) :: rest = sent' ++ (mid' ++ (b, e) :: rest) := by
        rw [hsplit', List.append_assoc]
      obtain ⟨s₂, k', -, hsender'⟩ := hsent'.position hbase64 (hall' ▸ hall) hn hlog
      have heq := Option.some.inj (hsender'.symm.trans hsender)
      exact ⟨hids a i (congrArg TraceContext.traceSegmentId heq), rfl⟩
    · rintro ⟨rfl, rfl⟩
      exact ⟨rfl, sent, mid, x, s', rfl, hsent, himported, hrun, hadopts⟩
  have halone := h.alone hsome hfirst
  refine ⟨Function.update root j (root i), ?_, ?_, ?_, ?_,
    h.represents.join hij halone hjoined⟩
  · intro k'
    by_cases hk : k' = j
    · -- the trace that was sent is still the sender's
      obtain ⟨s₁, hs₁, hmid⟩ := Execution.run_append_iff.1 hpre
      obtain rfl := Option.some.inj (hs₀.symm.trans hs₁)
      have hkept := traceId_of_quiet hmid fun e' he' =>
        hquiet e' (List.mem_append_left _ he')
      have hsent := Option.some.inj (hposition.symm.trans hsender)
      rw [hk, Function.update_self, ← h.trace i, hkept, ← htrace, hsent]
    · rw [Function.update_of_ne hk, ← h.trace k']
      exact (traceId_interleave hstep).1 k' hk
  · intro k' hk'
    have hne : k' ≠ j := by
      rintro rfl
      rw [hk' e List.mem_concat_self] at hsome
      cases hsome
    rw [Function.update_of_ne hne]
    exact h.own k' fun e' he' => hk' e' (List.mem_append_left _ he')
  · intro k'
    by_cases hk : k' = j
    · -- the context that adopts is no longer the first one of its trace
      rw [hk, Function.update_self]
      constructor
      · intro hroot
        exact absurd ((halone i).1 hroot) hij
      · intro hnone
        exact absurd ((hjoined i j).2 (Or.inr ⟨rfl, rfl⟩)) (hnone i)
    · rw [Function.update_of_ne hk, h.first k']
      refine forall_congr' fun a => not_congr ?_
      rw [hjoined]
      constructor
      · exact Or.inl
      · exact fun hor => hor.resolve_right fun hnew => hk hnew.2
  · intro k' hk' e' he'
    by_cases hk : k' = j
    · rw [hk, Function.update_self] at he'
      -- the sender has its own trace, or settled for another one
      by_cases hroot : root i = i
      · rw [hroot] at he'
        exact hquiet e' (List.mem_append_right _ (List.mem_cons_of_mem _ he'))
      · exact h.settled i hroot e' (List.mem_cons_of_mem _ he')
    · rw [Function.update_of_ne hk] at hk' he'
      exact h.settled k' hk' e' (List.mem_cons_of_mem _ he')

theorem run_ofTrace (hrun : afterAll overflowChecks (fun i => (origin i).world) events = some s)
    (i : ι) : (s i).OfTrace := by
  have horigin : (origin i).world.OfTrace := by
    refine ⟨fun _ => rfl, ?_⟩
    intro seg hseg
    cases hseg
  refine Execution.run_invariant horigin ?_ (Execution.run_interleave_component i hrun)
  intro a b e ha hstep
  exact ha.after hstep

/-- An orderly run, by induction on the calls made so far. -/
theorem exists_rooting (hbase64 : base64.Standard)
    (hids : ∀ i j, (origin i).traceSegmentId = (origin j).traceSegmentId → i = j)
    {t : ι → World} (hn : ∀ i, (t i).handles.length < 2 ^ 31)
    (hall : afterAll overflowChecks (fun i => (origin i).world) events = some t)
    (horderly : Orderly base64 overflowChecks origin events) (hsplit : events = pre ++ rest)
    (hpre : afterAll overflowChecks (fun i => (origin i).world) pre = some s) :
    ∃ root, Rooting base64 overflowChecks origin pre rest s root := by
  induction pre using List.reverseRecOn generalizing rest s with
  | nil =>
    obtain rfl := Option.some.inj hpre
    have hnone : ∀ i j, ¬Joined base64 overflowChecks origin [] i j := by
      rintro i j ⟨pre, e, post, hnil, -⟩
      simp at hnil
    refine ⟨id, fun i => rfl, fun i _ => rfl, ?_, fun i hi => absurd rfl hi, .of_isEmpty hnone⟩
    intro i
    exact ⟨fun _ k => hnone k i, fun _ => rfl⟩
  | append_singleton pre e ih =>
    obtain ⟨j, e⟩ := e
    obtain ⟨s₀, hs₀, hstep⟩ := Execution.run_concat_iff.1 hpre
    have hsplit' : events = pre ++ (j, e) :: rest := by rw [hsplit]; simp
    obtain ⟨root, hroot⟩ := ih hsplit' hs₀
    subst hsplit'
    by_cases hadopts : e.op.adopts? = some (s j).context.traceId
    · exact hroot.adopt hbase64 hids hn hall horderly hs₀ hstep hadopts
    · exact ⟨root, hroot.keep hpre hstep hadopts⟩

theorem traceId_eq_iff (hbase64 : base64.Standard)
    (htraces : ∀ i j, (origin i).traceId = (origin j).traceId → i = j)
    (hids : ∀ i j, (origin i).traceSegmentId = (origin j).traceSegmentId → i = j)
    (hrun : afterAll overflowChecks (fun i => (origin i).world) events = some s)
    (hn : ∀ i, (s i).handles.length < 2 ^ 31)
    (horderly : Orderly base64 overflowChecks origin events) (i j : ι) :
    (s i).context.traceId = (s j).context.traceId ↔
      Relation.EqvGen (Joined base64 overflowChecks origin events) i j := by
  obtain ⟨root, hroot⟩ :=
    exists_rooting hbase64 hids hn hrun horderly (List.append_nil events).symm hrun
  rw [hroot.trace i, hroot.trace j, hroot.represents.eqvGen_iff]
  constructor
  · exact htraces _ _
  · intro heq
    rw [heq]

/-- The trace of a context is that of the one context of its class that has joined no other. -/
theorem exists_first (hbase64 : base64.Standard)
    (hids : ∀ i j, (origin i).traceSegmentId = (origin j).traceSegmentId → i = j)
    (hrun : afterAll overflowChecks (fun i => (origin i).world) events = some s)
    (hn : ∀ i, (s i).handles.length < 2 ^ 31)
    (horderly : Orderly base64 overflowChecks origin events) (i : ι) :
    ∃ r, (s i).context.traceId = (origin r).traceId ∧ ∀ k,
      (Relation.EqvGen (Joined base64 overflowChecks origin events) k i ∧
        ∀ l, ¬Joined base64 overflowChecks origin events l k) ↔ k = r := by
  obtain ⟨root, hroot⟩ :=
    exists_rooting hbase64 hids hn hrun horderly (List.append_nil events).symm hrun
  refine ⟨root i, hroot.trace i, ?_⟩
  intro k
  rw [hroot.represents.eqvGen_iff, ← hroot.first k]
  constructor
  · rintro ⟨hclass, hself⟩
    exact hself.symm.trans hclass
  · rintro rfl
    have hlinked := hroot.represents.eqvGen_iff.1 (hroot.represents.linked i)
    exact ⟨hlinked, hlinked⟩

/-- In every interleaved run of a family of contexts with distinct trace and segment ids and less
than `2 ^ 31` spans each, caught panics included, in which a context adopts a trace once at most,
from one of the family that has sent it with a span active and never adopts another one afterwards:
two contexts have the same trace id exactly when calls that took over what another one had sent
connect them, and so do the segments that they report; and it is the id that the one context among
those connected which took over nothing started with. -/
theorem trace_ids_connect (hbase64 : base64.Standard)
    (htraces : ∀ i j, (origin i).traceId = (origin j).traceId → i = j)
    (hids : ∀ i j, (origin i).traceSegmentId = (origin j).traceSegmentId → i = j)
    (hrun : afterAll overflowChecks (fun i => (origin i).world) events = some s)
    (hn : ∀ i, (s i).handles.length < 2 ^ 31)
    (horderly : Orderly base64 overflowChecks origin events) (i j : ι) :
    ((s i).context.traceId = (s j).context.traceId ↔
      Relation.EqvGen (Joined base64 overflowChecks origin events) i j) ∧
    (∀ seg seg', .trace seg ∈ (s i).reported → .trace seg' ∈ (s j).reported →
      (seg.traceId = seg'.traceId ↔
        Relation.EqvGen (Joined base64 overflowChecks origin events) i j)) ∧
    ∃ r, (s i).context.traceId = (origin r).traceId ∧ ∀ k,
      (Relation.EqvGen (Joined base64 overflowChecks origin events) k i ∧
        ∀ l, ¬Joined base64 overflowChecks origin events l k) ↔ k = r := by
  have hconnect := traceId_eq_iff hbase64 htraces hids hrun hn horderly i j
  refine ⟨hconnect, ?_, exists_first hbase64 hids hrun hn horderly i⟩
  intro seg seg' hseg hseg'
  rw [(run_ofTrace hrun i).segments seg hseg, (run_ofTrace hrun j).segments seg' hseg']
  exact hconnect

/-! ## One trace above every span -/

/-- A context that adopts a trace has no other one later. -/
theorem Orderly.quiet_after (h : Orderly base64 overflowChecks origin (pre ++ (j, e) :: rest))
    (hadopts : e.op.adopts?.isSome) : ∀ e', (j, e') ∈ rest → e'.op.adopts? = none := by
  intro e' he'
  by_contra hsome
  obtain ⟨mid, post, rfl⟩ := List.append_of_mem he'
  have hsplit : pre ++ (j, e) :: (mid ++ (j, e') :: post) =
      (pre ++ (j, e) :: mid) ++ (j, e') :: post := by simp
  obtain ⟨hfirst, -⟩ := h _ j e' post hsplit (Option.isSome_iff_ne_none.2 hsome)
  rw [hfirst e (by simp)] at hadopts
  cases hadopts

/-- A reference that a context has imported is of its trace, and of the trace of the context of the
family whose segment it names. -/
theorem trace_of_import (hbase64 : base64.Standard)
    (hrun : afterAll overflowChecks (fun i => (origin i).world) events = some s)
    (hn : ∀ i, (s i).handles.length < 2 ^ 31)
    (horderly : Orderly base64 overflowChecks origin events) {k : Nat} {ref : SegmentReference}
    (himport : ImportedIn overflowChecks (origin j).world (Execution.component j events) k ref) :
    ref.traceId = (s j).context.traceId ∧
      ∃ i, ref.parentTraceSegmentId = (origin i).traceSegmentId ∧
        (s i).context.traceId = ref.traceId := by
  obtain ⟨pre, e, post, w, w', hsplit, hw, hstep, himports, htrace⟩ := himport
  obtain ⟨before, later, rfl, rfl⟩ := Execution.component_eq_append_cons hsplit
  have hsome : e.op.adopts?.isSome := by rw [himports.adopts]; rfl
  obtain ⟨s₁, hs₁, hrest⟩ := Execution.run_append_iff.1 hrun
  obtain rfl := Option.some.inj (hw.symm.trans (Execution.run_interleave_component j hs₁))
  obtain ⟨s₂, hs₂, hlater⟩ := Execution.run_cons_iff.1 hrest
  obtain ⟨t, ht, rfl⟩ := Option.map_eq_some_iff.1 hs₂
  obtain rfl := Option.some.inj (hstep.symm.trans ht)
  have hself := traceId_of_quiet hlater (horderly.quiet_after hsome)
  rw [Function.update_self, htrace] at hself
  refine ⟨hself.symm, ?_⟩
  -- the sender, which adopts nothing from then on
  obtain ⟨-, i, x, sent, mid, rfl, hsent, himported, hquiet⟩ := horderly before j e later rfl hsome
  obtain ⟨hlog, hposition⟩ := himports.position himported
  rw [List.append_assoc] at hrun
  obtain ⟨s₀, k', hs₀, hsender⟩ := hsent.position hbase64 hrun hn hlog
  have heq := Option.some.inj (hposition.symm.trans hsender)
  obtain ⟨s₀', hs₀', hmid⟩ := Execution.run_append_iff.1 hrun
  obtain rfl := Option.some.inj (hs₀.symm.trans hs₀')
  refine ⟨i, congrArg TraceContext.traceSegmentId heq, ?_⟩
  rw [traceId_of_quiet hmid hquiet]
  exact (congrArg TraceContext.traceId heq).symm

/-- The spans above a reported one are of the family and of its trace. -/
theorem trace_of_parentOf (hbase64 : base64.Standard)
    (hrun : afterAll overflowChecks (fun i => (origin i).world) events = some s)
    (hn : ∀ i, (s i).handles.length < 2 ^ 31)
    (horderly : Orderly base64 overflowChecks origin events) {p x : String × Int}
    (hparent : ParentOf (ReportedBy s) p x) :
    ∃ i j, p.1 = (origin i).traceSegmentId ∧ x.1 = (origin j).traceSegmentId ∧
      (s i).context.traceId = (s j).context.traceId := by
  cases hparent with
  | parent seg mem obj object nested =>
    obtain ⟨i, hseg⟩ := mem
    obtain ⟨hsegment, -⟩ := rooted_of_reported hrun hn hseg object
    exact ⟨i, i, hsegment, hsegment, rfl⟩
  | reference seg mem obj object ref refers =>
    obtain ⟨j, hseg⟩ := mem
    obtain ⟨hsegment, k, -, hk⟩ := rooted_of_reported hrun hn hseg object
    obtain ⟨hself, i, hi, hsender⟩ :=
      trace_of_import hbase64 hrun hn horderly (hk.refs ref refers)
    exact ⟨i, j, hi, hsegment, hsender.trans hself⟩

theorem trace_of_path (hbase64 : base64.Standard)
    (hids : ∀ i j, (origin i).traceSegmentId = (origin j).traceSegmentId → i = j)
    (hrun : afterAll overflowChecks (fun i => (origin i).world) events = some s)
    (hn : ∀ i, (s i).handles.length < 2 ^ 31)
    (horderly : Orderly base64 overflowChecks origin events) {p x : String × Int}
    (hpath : Relation.TransGen (ParentOf (ReportedBy s)) p x) :
    ∃ i j, p.1 = (origin i).traceSegmentId ∧ x.1 = (origin j).traceSegmentId ∧
      (s i).context.traceId = (s j).context.traceId := by
  induction hpath with
  | single hparent => exact trace_of_parentOf hbase64 hrun hn horderly hparent
  | tail _ hparent ih =>
    obtain ⟨i, j, hi, hj, hij⟩ := ih
    obtain ⟨j', l, hj', hl, hjl⟩ := trace_of_parentOf hbase64 hrun hn horderly hparent
    obtain rfl := hids j j' (hj.symm.trans hj')
    exact ⟨i, l, hi, hl, hij.trans hjl⟩

theorem traceId_of_ref (hbase64 : base64.Standard)
    (hrun : afterAll overflowChecks (fun i => (origin i).world) events = some s)
    (hn : ∀ i, (s i).handles.length < 2 ^ 31)
    (horderly : Orderly base64 overflowChecks origin events) {seg : SegmentObject}
    (hseg : ReportedBy s seg) {obj : SpanObject} (hobj : obj ∈ seg.spans)
    {ref : SegmentReference} (href : ref ∈ obj.refs) : ref.traceId = seg.traceId := by
  obtain ⟨j, hseg⟩ := hseg
  obtain ⟨-, k, -, hk⟩ := rooted_of_reported hrun hn hseg hobj
  obtain ⟨hself, -⟩ := trace_of_import hbase64 hrun hn horderly (hk.refs ref href)
  exact hself.trans ((run_ofTrace hrun j).segments seg hseg).symm

theorem traceId_of_path (hbase64 : base64.Standard)
    (hids : ∀ i j, (origin i).traceSegmentId = (origin j).traceSegmentId → i = j)
    (hrun : afterAll overflowChecks (fun i => (origin i).world) events = some s)
    (hn : ∀ i, (s i).handles.length < 2 ^ 31)
    (horderly : Orderly base64 overflowChecks origin events)
    {seg seg' : SegmentObject} {k k' : Int} (hseg : ReportedBy s seg) (hseg' : ReportedBy s seg')
    (hpath : Relation.TransGen (ParentOf (ReportedBy s)) (seg.traceSegmentId, k)
      (seg'.traceSegmentId, k')) : seg.traceId = seg'.traceId := by
  obtain ⟨a, hseg⟩ := hseg
  obtain ⟨b, hseg'⟩ := hseg'
  obtain ⟨i, j, hi, hj, hij⟩ := trace_of_path hbase64 hids hrun hn horderly hpath
  obtain rfl := hids a i (((run_segmentIds hrun a).2 seg hseg).symm.trans hi)
  obtain rfl := hids b j (((run_segmentIds hrun b).2 seg' hseg').symm.trans hj)
  rw [(run_ofTrace hrun a).segments seg hseg, (run_ofTrace hrun b).segments seg' hseg']
  exact hij

/-- In every such run the references of a reported segment have its trace id, and so has every
reported segment with an ancestor of one of its spans. -/
theorem ancestors_share_trace (hbase64 : base64.Standard)
    (hids : ∀ i j, (origin i).traceSegmentId = (origin j).traceSegmentId → i = j)
    (hrun : afterAll overflowChecks (fun i => (origin i).world) events = some s)
    (hn : ∀ i, (s i).handles.length < 2 ^ 31)
    (horderly : Orderly base64 overflowChecks origin events) :
    (∀ seg, ReportedBy s seg → ∀ obj ∈ seg.spans, ∀ ref ∈ obj.refs, ref.traceId = seg.traceId) ∧
    ∀ seg seg' k k', ReportedBy s seg → ReportedBy s seg' →
      Relation.TransGen (ParentOf (ReportedBy s)) (seg.traceSegmentId, k)
        (seg'.traceSegmentId, k') →
      seg.traceId = seg'.traceId := by
  constructor
  · intro seg hseg obj hobj ref href
    exact traceId_of_ref hbase64 hrun hn horderly hseg hobj href
  · intro seg seg' k k' hseg hseg' hpath
    exact traceId_of_path hbase64 hids hrun hn horderly hseg hseg' hpath

end Family

theorem sentAt_pair :
    SentAt .rfc4648 true pairOrigin pairBefore false (.snapshot pairSnapshot) := by
  have hsent : (afterAll true (fun i => (pairOrigin i).world) pairBefore).any fun s₀ =>
      (s₀ false).contextAlive && decide ((s₀ false).innermost = some 0 ∧
        (s₀ false).context.capture = pairSnapshot) := by
    decide +kernel
  obtain ⟨s₀, hs₀, hall⟩ := (Option.any_eq_true _ _).1 hsent
  obtain ⟨halive, hrest⟩ := Bool.and_eq_true_iff.1 hall
  obtain ⟨hin, hcapture⟩ := of_decide_eq_true hrest
  have hexport : (s₀ false).Exports .rfc4648 0 (.snapshot pairSnapshot) := by
    rw [← hcapture]
    exact .snapshot hin
  exact ⟨s₀, 0, hs₀, halive, hexport⟩

/-- The second context of the pair adopts the trace that the first one has sent. -/
theorem orderly_pair : Orderly .rfc4648 true pairOrigin (pairBefore ++ pairAfter) := by
  intro pre j e post hsplit hadopts
  obtain ⟨x, himport⟩ := Export.exists_importedBy hadopts
  obtain ⟨rfl, rfl, rfl, rfl⟩ := pair_split hsplit himport
  refine ⟨?_, false, .snapshot pairSnapshot, pairBefore, pairMid, rfl, sentAt_pair,
    .snapshot _, ?_⟩
  · intro e' he'
    simp [pairBefore, pairMid] at he'
    subst he'
    rfl
  · intro e' he'
    simp [pairMid, pairRest] at he'
    rcases he' with rfl | rfl
    · rfl
    · rfl

theorem trace_ids_connect_pair :
    ∃ s, afterAll true (fun i => (pairOrigin i).world) (pairBefore ++ pairAfter) = some s ∧
      Relation.EqvGen (Joined .rfc4648 true pairOrigin (pairBefore ++ pairAfter)) false true := by
  have hrun : (afterAll true (fun i => (pairOrigin i).world) (pairBefore ++ pairAfter)).any
      fun s => decide ((s true).handles.length = 1 ∧ (s false).handles.length = 1 ∧
        (s false).context.traceId = (s true).context.traceId) := by
    decide +kernel
  obtain ⟨s, hrun, hall⟩ := (Option.any_eq_true _ _).1 hrun
  obtain ⟨htrue, hfalse, htrace⟩ := of_decide_eq_true hall
  have hn : ∀ i, (s i).handles.length < 2 ^ 31 := by
    intro i
    cases i with
    | true => rw [htrue]; decide
    | false => rw [hfalse]; decide
  obtain ⟨hconnect, -⟩ := trace_ids_connect Base64Engine.standard_rfc4648 (by decide) (by decide)
    hrun hn orderly_pair false true
  exact ⟨s, hrun, hconnect.1 htrace⟩

/-- The first context of the pair goes on from elsewhere after the second one has gone on from it:
they are connected, and have different traces. -/
theorem late_adoption_splits :
    ∃ s, afterAll true (fun i => (pairOrigin i).world) (pairBefore ++ pairMid ++
        [(true, atZero (.continued pairSnapshot)),
          (false, atZero (.continued ⟨"t9", "g9", 0, "c"⟩))]) = some s ∧
      Joined .rfc4648 true pairOrigin (pairBefore ++ pairMid ++
        [(true, atZero (.continued pairSnapshot)),
          (false, atZero (.continued ⟨"t9", "g9", 0, "c"⟩))]) false true ∧
      (s false).context.traceId ≠ (s true).context.traceId := by
  have hrun : (afterAll true (fun i => (pairOrigin i).world) (pairBefore ++ pairMid ++
      [(true, atZero (.continued pairSnapshot)),
        (false, atZero (.continued ⟨"t9", "g9", 0, "c"⟩))])).any
      fun s => decide ((s false).context.traceId ≠ (s true).context.traceId) := by
    decide +kernel
  have htaken : (afterAll true (fun i => (pairOrigin i).world) (pairBefore ++ pairMid ++
      [(true, atZero (.continued pairSnapshot))])).any
      fun s' => decide ((atZero (.continued pairSnapshot)).op.adopts? =
        some (s' true).context.traceId) := by
    decide +kernel
  obtain ⟨s, hs, hne⟩ := (Option.any_eq_true _ _).1 hrun
  obtain ⟨s', hs', hadopts⟩ := (Option.any_eq_true _ _).1 htaken
  refine ⟨s, hs, ?_, of_decide_eq_true hne⟩
  exact ⟨pairBefore ++ pairMid, atZero (.continued pairSnapshot), _, rfl, pairBefore, pairMid,
    .snapshot pairSnapshot, s', rfl, sentAt_pair, .snapshot _, hs', of_decide_eq_true hadopts⟩

/-- Whether an item is a segment with the id `x`. -/
def isSegment (x : String) : CollectItem → Bool
  | .trace seg => decide (seg.traceSegmentId = x)
  | _ => false

theorem ancestors_share_trace_pair :
    ∃ s seg seg', afterAll true (fun i => (pairOrigin i).world) (pairBefore ++ pairAfter) = some s ∧
      .trace seg ∈ (s false).reported ∧ .trace seg' ∈ (s true).reported ∧
      Relation.TransGen (ParentOf (ReportedBy s)) (seg.traceSegmentId, 0)
        (seg'.traceSegmentId, 0) ∧ seg.traceId = seg'.traceId := by
  have hrun : (afterAll true (fun i => (pairOrigin i).world) (pairBefore ++ pairAfter)).any
      fun s => decide ((s true).handles.length = 1 ∧ (s false).handles.length = 1) &&
        ((s false).reported.any (isSegment "g1") && (s true).reported.any (isSegment "g2") &&
          (s true).reported.any (refersToRoot "g1" "g2")) := by
    decide +kernel
  obtain ⟨s, hrun, hall⟩ := (Option.any_eq_true _ _).1 hrun
  obtain ⟨hcount, hrest⟩ := Bool.and_eq_true_iff.1 hall
  obtain ⟨hsegments, hrefers⟩ := Bool.and_eq_true_iff.1 hrest
  obtain ⟨hfirst, hsecond⟩ := Bool.and_eq_true_iff.1 hsegments
  obtain ⟨htrue, hfalse⟩ := of_decide_eq_true hcount
  have hn : ∀ i, (s i).handles.length < 2 ^ 31 := by
    intro i
    cases i with
    | true => rw [htrue]; decide
    | false => rw [hfalse]; decide
  have hsegment : ∀ i x, (s i).reported.any (isSegment x) = true →
      ∃ seg, .trace seg ∈ (s i).reported ∧ seg.traceSegmentId = x := by
    intro i x hany
    obtain ⟨item, hitem, hid⟩ := List.any_eq_true.1 hany
    cases item with
    | trace seg => exact ⟨seg, hitem, of_decide_eq_true hid⟩
    | _ => cases hid
  obtain ⟨seg, hseg, hg1⟩ := hsegment false "g1" hfirst
  obtain ⟨seg', hseg', hg2⟩ := hsegment true "g2" hsecond
  have hpath := Relation.TransGen.single (parentOf_of_refersToRoot hrefers)
  rw [← hg1, ← hg2] at hpath
  obtain ⟨-, hshare⟩ := ancestors_share_trace Base64Engine.standard_rfc4648 (by decide) hrun hn
    orderly_pair
  exact ⟨s, seg, seg', hrun, hseg, hseg', hpath, hshare seg seg' 0 0 ⟨_, hseg⟩ ⟨_, hseg'⟩ hpath⟩

end World

end SkywalkingAgent.Trace
