import SkywalkingAgent.Reporter.Kafka

/-!
# What the Kafka topics carry

Each topic of a namespace is meant for the items of one kind (`Topic.carries`), so that a consumer
can decode every record of it. `KafkaProducer.carries_kinds_iff` says when the producer keeps to
that: `produce` sends a ping to the topic of the logs.
-/

set_option autoImplicit false

namespace SkywalkingAgent.Reporter

open SkywalkingAgent.Proto

/-- The topics. -/
inductive Topic where
  | segment
  | log
  | meter
  | management
  deriving DecidableEq, Repr

namespace Topic

/-- The name of the topic, without a namespace. -/
def baseName : Topic → String
  | segment => TopicNames.topicSegment
  | log => TopicNames.topicLog
  | meter => TopicNames.topicMeter
  | management => TopicNames.topicManagement

/-- The name under the topic's field. -/
def nameIn (names : TopicNames) : Topic → String
  | segment => names.segment
  | log => names.log
  | meter => names.meter
  | management => names.management

/-- The items that the topic is for. -/
def carries : Topic → CollectItem → Bool
  | segment, .trace _ => true
  | log, .log _ => true
  | meter, .meter _ => true
  | management, .instance _ => true
  | management, .ping _ => true
  | _, _ => false

/-- The topic that `produce` chooses. -/
def sentTo : CollectItem → Topic
  | .trace _ => segment
  | .log _ => log
  | .meter _ => meter
  | .instance _ => management
  | .ping _ => log

theorem nameIn_new (nameSpace : Option String) (t : Topic) :
    t.nameIn (.new nameSpace) = TopicNames.realTopicName nameSpace t.baseName := by
  cases t <;> rfl

theorem baseName_injective : Function.Injective baseName := by
  intro t u h
  revert h
  cases t <;> cases u <;> decide

/-- The prefix of the namespace keeps the names apart. -/
theorem nameIn_injective (nameSpace : Option String) :
    Function.Injective fun t : Topic => t.nameIn (.new nameSpace) := by
  intro t u h
  apply baseName_injective
  simp only [nameIn_new] at h
  cases nameSpace with
  | none => exact h
  | some nameSpace =>
    -- the namespace and its dash are the same in front of all names
    have htext : ∀ s : String,
        (TopicNames.realTopicName (some nameSpace) s).toList =
          nameSpace.toList ++ '-' :: s.toList := by
      intro s
      simp [TopicNames.realTopicName, toString]
    have hlist := congrArg String.toList h
    rw [htext, htext, List.append_cancel_left_eq, List.cons.injEq] at hlist
    exact String.toList_inj.1 hlist.2

end Topic

namespace KafkaProducer

variable {KafkaError : Type}

/-- The payloads sent to a topic, in order. -/
def payloads (self : KafkaProducer KafkaError) (topic : String) : List (List UInt8) :=
  (self.records.filter fun record => record.topic = topic).map fun record => record.payload

/-- The producer after a sequence of items, all sent well. -/
def produceAll (encoders : Encoders) (items : List CollectItem)
    (self : KafkaProducer KafkaError) : KafkaProducer KafkaError :=
  items.foldl (fun self item => self.produce (CollectItem.encodeToVec encoders) (.ok ()) item) self

/-- The log behind an item. -/
def log? : CollectItem → Option LogData
  | .log item => some item
  | _ => none

/-- Every topic carries the items of its kind and nothing else, and a consumer of the topic of the
logs gets the logs back. -/
structure CarriesKinds (encoders : Encoders) (nameSpace : Option String)
    (items : List CollectItem) (sent : KafkaProducer KafkaError) : Prop where
  payloads : ∀ t : Topic, sent.payloads (t.nameIn (.new nameSpace)) =
    (items.filter t.carries).map (CollectItem.encodeToVec encoders)
  decoded : ∀ decode : List UInt8 → Option LogData,
    (∀ item, decode (encoders.log item) = some item) →
      (sent.payloads (Topic.nameIn (.new nameSpace) .log)).map decode =
        (items.filterMap log?).map some

section Payloads

variable {encoders : Encoders} {nameSpace : Option String} {items : List CollectItem}
  {self : KafkaProducer KafkaError}

theorem payloads_produce (hnames : self.topicNames = .new nameSpace) (item : CollectItem)
    (t : Topic) :
    (self.produce (CollectItem.encodeToVec encoders) (.ok ()) item).payloads
        (t.nameIn (.new nameSpace)) =
      self.payloads (t.nameIn (.new nameSpace)) ++
        if Topic.sentTo item = t then [item.encodeToVec encoders] else [] := by
  have htopic : (self.address item).1 = (Topic.sentTo item).nameIn (.new nameSpace) := by
    rw [← hnames]
    cases item <;> rfl
  -- two topics of one namespace have different names, so the name says the topic
  have hiff : (self.address item).1 = t.nameIn (.new nameSpace) ↔ Topic.sentTo item = t := by
    rw [htopic]
    exact (Topic.nameIn_injective nameSpace).eq_iff
  by_cases hsent : Topic.sentTo item = t
  · simp [produce, payloads, hiff.2 hsent, hsent]
  · simp [produce, payloads, mt hiff.1 hsent, hsent]

/-- What goes to a topic is decided item by item. -/
theorem payloads_produceAll (encoders : Encoders) (items : List CollectItem)
    {self : KafkaProducer KafkaError} (hnames : self.topicNames = .new nameSpace) (t : Topic) :
    (self.produceAll encoders items).payloads (t.nameIn (.new nameSpace)) =
      self.payloads (t.nameIn (.new nameSpace)) ++
        (items.filter fun item => Topic.sentTo item = t).map
          (CollectItem.encodeToVec encoders) := by
  induction items generalizing self with
  | nil => simp [produceAll]
  | cons item items ih =>
    have hnext : (self.produce (CollectItem.encodeToVec encoders) (.ok ()) item).topicNames =
        .new nameSpace := hnames
    have hrest := ih hnext
    rw [payloads_produce hnames] at hrest
    unfold produceAll at hrest ⊢
    rw [List.foldl_cons, hrest]
    -- the first item, by its own topic
    by_cases hsent : Topic.sentTo item = t
    · simp [hsent]
    · simp [hsent]

end Payloads

/-- An item goes where it belongs, unless it is a ping. -/
theorem sentTo_eq_iff {item : CollectItem} (hping : ∀ ping, item ≠ .ping ping) (t : Topic) :
    Topic.sentTo item = t ↔ t.carries item = true := by
  cases item with
  | ping ping => exact absurd rfl (hping ping)
  | _ => cases t <;> simp [Topic.sentTo, Topic.carries]

/-- A decoder of logs reads the topic of the logs back, when it holds nothing else. -/
theorem decode_logs {encoders : Encoders} {decode : List UInt8 → Option LogData}
    (hdecode : ∀ item, decode (encoders.log item) = some item) (items : List CollectItem) :
    ((items.filter (Topic.carries .log)).map (CollectItem.encodeToVec encoders)).map decode =
      (items.filterMap log?).map some := by
  induction items with
  | nil => rfl
  | cons item items ih =>
    cases item with
    | log item =>
      have hlog : log? (.log item) = some item := rfl
      rw [List.filterMap_cons_some hlog, List.map_cons, ← ih,
        List.filter_cons_of_pos (by rfl), List.map_cons, List.map_cons]
      exact congrArg (· :: _) (hdecode item)
    | _ =>
      rw [List.filterMap_cons_none (by rfl), ← ih,
        List.filter_cons_of_neg (by simp [Topic.carries])]

/-- Every topic carries the items of its kind, in order and nothing else, exactly when no ping is
produced. -/
theorem carries_kinds_iff (encoders : Encoders) (nameSpace : Option String)
    (items : List CollectItem) :
    CarriesKinds encoders nameSpace items
        ((new nameSpace : KafkaProducer KafkaError).produceAll encoders items) ↔
      ∀ ping, .ping ping ∉ items := by
  have hnames : (new nameSpace : KafkaProducer KafkaError).topicNames = .new nameSpace := rfl
  have hsent := payloads_produceAll encoders items hnames
  constructor
  · intro h ping hmem
    -- the topic of the logs has one payload more for the ping
    have hlog := congrArg List.length ((hsent .log).symm.trans (h.payloads .log))
    have hcarried : ∀ item, Topic.carries .log item = true → Topic.sentTo item = .log := by
      intro item hitem
      cases item with
      | log item => rfl
      | _ => cases hitem
    have hfilter : (items.filter (Topic.carries .log)) =
        (items.filter fun item => Topic.sentTo item = .log).filter (Topic.carries .log) := by
      rw [List.filter_filter]
      apply List.filter_congr
      intro item _
      cases hitem : Topic.carries .log item with
      | false => rfl
      | true => simp [hcarried item hitem]
    -- equal lengths leave no room for an item that the topic does not carry
    have hall := List.length_filter_eq_length_iff.1
      (show _ = (items.filter fun item => Topic.sentTo item = .log).length by
        rw [← hfilter]
        simpa [payloads, new] using hlog.symm)
    have hcarry := hall (.ping ping) (List.mem_filter.2 ⟨hmem, by simp [Topic.sentTo]⟩)
    cases hcarry
  · intro hping
    have hkinds : ∀ t : Topic,
        ((new nameSpace : KafkaProducer KafkaError).produceAll encoders items).payloads
            (t.nameIn (.new nameSpace)) =
          (items.filter t.carries).map (CollectItem.encodeToVec encoders) := by
      intro t
      rw [hsent t, List.filter_congr fun item hitem => ?_]
      · rfl
      · have hne : ∀ ping, item ≠ .ping ping := by
          rintro ping rfl
          exact hping ping hitem
        rw [Bool.eq_iff_iff, decide_eq_true_iff]
        exact sentTo_eq_iff hne t
    refine ⟨hkinds, ?_⟩
    intro decode hdecode
    rw [hkinds .log, decode_logs hdecode]

/-- Encoders that tell the kinds apart. -/
def sampleEncoders : Encoders :=
  ⟨fun _ => [0], fun _ => [1], fun _ => [2], fun _ => [3], fun _ => [4]⟩

/-- A heartbeat. -/
def samplePing : InstancePingPkg := ⟨"service", "instance", ""⟩

theorem ping_among_logs :
    ¬ CarriesKinds sampleEncoders (some "ns") [.ping samplePing]
        ((new (some "ns") : KafkaProducer String).produceAll sampleEncoders
          [.ping samplePing]) := by
  intro h
  have hlog := h.payloads .log
  revert hlog
  decide

end KafkaProducer

end SkywalkingAgent.Reporter
