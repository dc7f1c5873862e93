import SkywalkingAgent.Lib.Multimap
import SkywalkingAgent.Proto
import Mathlib.Data.List.Induction

/-!
# Instance properties

`Properties` of `management/instance.rs`: a hash map from keys to the vectors of their values. What
the operating system says about itself is an argument. The map is compared with a list of pairs on
which the same operations work directly; whatever the order in which the hash map is gone through,
the message carries the pairs of the list (`Properties.convert_yields_reference`).
-/

set_option autoImplicit false

namespace SkywalkingAgent.Management

open SkywalkingAgent.Lib SkywalkingAgent.Lib.Pairs SkywalkingAgent.Proto

/-! ## The operating system -/

/-- What `OS_NAME`, `HOST_NAME`, `IPS` and `process::id` read. -/
structure System where
  osName : Option String
  hostName : Option String
  ips : List String
  processId : Nat
  deriving DecidableEq, Repr

/-- `Properties::KEY_HOST_NAME`. -/
def Properties.keyHostName : String := "hostname"

/-- `Properties::KEY_IPV4`. -/
def Properties.keyIpv4 : String := "ipv4"

/-- `Properties::KEY_LANGUAGE`. -/
def Properties.keyLanguage : String := "language"

/-- `Properties::KEY_OS_NAME`. -/
def Properties.keyOsName : String := "OS Name"

/-- `Properties::KEY_PROCESS_NO`. -/
def Properties.keyProcessNo : String := "Process No."

/-- `build_os_info`. -/
def buildOsInfo (system : System) : List (String × String) :=
  (system.osName.map fun osName => (Properties.keyOsName, osName)).toList ++
  (system.hostName.map fun hostName => (Properties.keyHostName, hostName)).toList ++
  system.ips.map (fun ip => (Properties.keyIpv4, ip)) ++
  [(Properties.keyProcessNo, toString system.processId), (Properties.keyLanguage, "rust")]

/-! ## The map -/

/-- `Properties`. Every key of the map has been pushed a value. -/
structure Properties where
  inner : AList fun _ : String => List String
  pushed : ∀ key, inner.lookup key ≠ some []

namespace Properties

/-- `Properties::new`. -/
def new : Properties := ⟨∅, fun key => by simp⟩

/-- The values of a key. -/
def values (self : Properties) (key : String) : List String := (self.inner.lookup key).getD []

/-- A key gets a vector with a value in it. -/
def set (self : Properties) (key : String) (values : List String) (hne : values ≠ []) :
    Properties where
  inner := self.inner.insert key values
  pushed k := by
    by_cases hk : k = key
    · subst hk
      rw [AList.lookup_insert]
      exact fun h => hne (Option.some.inj h)
    · rw [AList.lookup_insert_ne hk]
      exact self.pushed k

/-- `Properties::insert`. -/
def insert (self : Properties) (key value : String) : Properties :=
  -- `entry(key).or_default()`, then `push`
  self.set key (((self.inner.lookup key).getD []) ++ [value]) (by simp)

/-- `Properties::update`. -/
def update (self : Properties) (key value : String) : Properties :=
  match self.inner.lookup key with
  | some _ => self.set key [value] (by simp)
  | none => self

/-- `Properties::remove`. -/
def remove (self : Properties) (key : String) : Properties where
  inner := self.inner.erase key
  pushed k := by
    by_cases hk : k = key
    · subst hk
      simp
    · rw [AList.lookup_erase_ne hk]
      exact self.pushed k

/-- `Properties::insert_os_info`. -/
def insertOsInfo (self : Properties) (system : System) : Properties :=
  (buildOsInfo system).foldl (fun self item => self.insert item.1 item.2) self

/-- `Properties::convert_to_instance_properties`; the loop goes through the map in the given
order. -/
def convertToInstanceProperties (self : Properties) (order : Iteration self.inner)
    (serviceName instanceName : String) : InstanceProperties where
  service := serviceName
  serviceInstance := instanceName
  properties := order.1.flatMap fun entry => entry.2.map fun value => ⟨entry.1, value⟩
  layer := ""

end Properties

/-! ## The operations, on the map and on the reference -/

/-- A call that changes properties. -/
inductive PropertiesOp where
  | insert (key value : String)
  | update (key value : String)
  | remove (key : String)
  | insertOsInfo
  deriving DecidableEq, Repr

namespace PropertiesOp

/-- The call on the map. -/
def apply (system : System) (self : Properties) : PropertiesOp → Properties
  | .insert key value => self.insert key value
  | .update key value => self.update key value
  | .remove key => self.remove key
  | .insertOsInfo => self.insertOsInfo system

/-- The call on a list of pairs: the content that it is about. -/
def refer (system : System) (pairs : List (String × String)) :
    PropertiesOp → List (String × String)
  | .insert key value => pairs ++ [(key, value)]
  | .update key value =>
      if ∃ pair ∈ pairs, pair.1 = key then without key pairs ++ [(key, value)] else pairs
  | .remove key => without key pairs
  | .insertOsInfo => pairs ++ buildOsInfo system

/-- The keys that a call is about. -/
def keys (system : System) : PropertiesOp → List String
  | .insert key _ => [key]
  | .update key _ => [key]
  | .remove key => [key]
  | .insertOsInfo => (buildOsInfo system).map Prod.fst

/-- What a call does to the values of a key. -/
def act (system : System) (key : String) (values : List String) : PropertiesOp → List String
  | .insert k value => if key = k then values ++ [value] else values
  | .update k value => if key = k ∧ values ≠ [] then [value] else values
  | .remove k => if key = k then [] else values
  | .insertOsInfo => values ++ valuesOf key (buildOsInfo system)

end PropertiesOp

namespace Properties

variable {self : Properties} {key k value : String} {system : System}

theorem values_set_self {values : List String} {hne : values ≠ []} :
    (self.set key values hne).values key = values := by
  simp [Properties.values, set]

theorem values_set_of_ne {values : List String} {hne : values ≠ []} (h : k ≠ key) :
    (self.set key values hne).values k = self.values k := by
  simp [Properties.values, set, AList.lookup_insert_ne h]

theorem values_insert : (self.insert k value).values key =
    if key = k then self.values key ++ [value] else self.values key := by
  split
  · next hk =>
    subst hk
    exact values_set_self
  · next hk => exact values_set_of_ne hk

/-- A key is in the map when it has a value. -/
theorem lookup_eq_none_iff : self.inner.lookup key = none ↔ self.values key = [] := by
  have hpushed := self.pushed key
  unfold Properties.values
  cases hlookup : self.inner.lookup key with
  | none => simp
  | some l =>
    rw [hlookup] at hpushed
    simpa using hpushed

theorem values_update : (self.update k value).values key =
    if key = k ∧ self.values key ≠ [] then [value] else self.values key := by
  unfold update
  split
  · next l hlookup =>
    by_cases hk : key = k
    · subst hk
      have hne : self.values key ≠ [] := by
        intro hnil
        rw [lookup_eq_none_iff.2 hnil] at hlookup
        cases hlookup
      rw [values_set_self, if_pos ⟨rfl, hne⟩]
    · rw [values_set_of_ne hk, if_neg (fun h => hk h.1)]
  · next hlookup =>
    -- an absent key has no values to replace
    have hnil := lookup_eq_none_iff.1 hlookup
    rw [if_neg]
    rintro ⟨rfl, hne⟩
    exact hne hnil

theorem values_remove : (self.remove k).values key =
    if key = k then [] else self.values key := by
  split
  · next hk =>
    subst hk
    simp [Properties.values, remove]
  · next hk => simp [Properties.values, remove, AList.lookup_erase_ne hk]

/-- A sequence of inserts. -/
theorem values_foldl_insert (items : List (String × String)) :
    (items.foldl (fun self item => self.insert item.1 item.2) self).values key =
      self.values key ++ valuesOf key items := by
  induction items generalizing self with
  | nil => simp [valuesOf]
  | cons item items ih =>
    obtain ⟨k, value⟩ := item
    rw [List.foldl_cons, ih, values_insert]
    by_cases hk : k = key
    · subst hk
      rw [if_pos rfl, valuesOf_cons_self, List.append_assoc]
      rfl
    · rw [if_neg (Ne.symm hk), valuesOf_cons_of_ne hk]

end Properties

namespace PropertiesOp

variable {system : System} {op : PropertiesOp} {key : String}

/-- The calls on the map, key by key. -/
theorem values_apply (self : Properties) :
    (op.apply system self).values key = op.act system key (self.values key) := by
  cases op with
  | insert k value => exact Properties.values_insert
  | update k value => exact Properties.values_update
  | remove k => exact Properties.values_remove
  | insertOsInfo => exact Properties.values_foldl_insert (buildOsInfo system)

/-- The calls on the list, key by key. -/
theorem valuesOf_refer (pairs : List (String × String)) :
    valuesOf key (op.refer system pairs) = op.act system key (valuesOf key pairs) := by
  cases op with
  | insert k value =>
    rw [refer, act, valuesOf_append]
    by_cases hk : k = key
    · subst hk
      rw [if_pos rfl, valuesOf_cons_self]
      rfl
    · rw [if_neg (Ne.symm hk), valuesOf_cons_of_ne hk]
      exact List.append_nil _
  | update k value =>
    simp only [refer, act]
    by_cases hk : k = key
    · subst hk
      -- the key is there exactly when it has values
      have hiff : (∃ pair ∈ pairs, pair.1 = k) ↔ valuesOf k pairs ≠ [] := by
        rw [ne_eq, valuesOf_eq_nil_iff]
        push Not
        exact Iff.rfl
      by_cases hmem : ∃ pair ∈ pairs, pair.1 = k
      · rw [if_pos hmem, if_pos ⟨rfl, hiff.1 hmem⟩, valuesOf_append, valuesOf_without_self,
          valuesOf_cons_self]
        rfl
      · rw [if_neg hmem, if_neg (fun h => hmem (hiff.2 h.2))]
    · rw [if_neg (c := key = k ∧ _) (fun h => hk h.1.symm)]
      split
      · rw [valuesOf_append, valuesOf_without_of_ne (Ne.symm hk), valuesOf_cons_of_ne hk]
        exact List.append_nil _
      · rfl
  | remove k =>
    simp only [refer, act]
    by_cases hk : key = k
    · subst hk
      rw [if_pos rfl, valuesOf_without_self]
    · rw [if_neg hk, valuesOf_without_of_ne hk]
  | insertOsInfo => exact valuesOf_append key pairs _

/-- The other keys keep their values. -/
theorem act_of_notMem (h : key ∉ op.keys system) (values : List String) :
    op.act system key values = values := by
  cases op with
  | insert k value =>
    simp only [keys, List.mem_singleton] at h
    exact if_neg h
  | update k value =>
    simp only [keys, List.mem_singleton] at h
    exact if_neg (fun hk => h hk.1)
  | remove k =>
    simp only [keys, List.mem_singleton] at h
    exact if_neg h
  | insertOsInfo =>
    have hnil : valuesOf key (buildOsInfo system) = [] := by
      rw [valuesOf_eq_nil_iff]
      intro pair hpair hk
      exact h (hk ▸ List.mem_map_of_mem hpair)
    rw [act, hnil, List.append_nil]

/-- Calls about different keys act on different values. -/
theorem act_comm {op' : PropertiesOp} (h : (op.keys system).Disjoint (op'.keys system))
    (values : List String) : op'.act system key (op.act system key values) =
      op.act system key (op'.act system key values) := by
  by_cases hkey : key ∈ op.keys system
  · have hkey' : key ∉ op'.keys system := fun hmem => h hkey hmem
    rw [act_of_notMem hkey', act_of_notMem hkey']
  · rw [act_of_notMem hkey, act_of_notMem hkey]

end PropertiesOp

namespace Properties

variable {system : System}

/-- The properties after a sequence of calls. -/
def run (system : System) (ops : List PropertiesOp) : Properties :=
  ops.foldl (PropertiesOp.apply system) new

/-- The reference list after a sequence of calls. -/
def reference (system : System) (ops : List PropertiesOp) : List (String × String) :=
  ops.foldl (PropertiesOp.refer system) []

/-- The pairs of a message. -/
def pairsOf (message : InstanceProperties) : List (String × String) :=
  message.properties.map fun pair => (pair.key, pair.value)

theorem run_values (ops : List PropertiesOp) (key : String) :
    (run system ops).values key = valuesOf key (reference system ops) := by
  induction ops using List.reverseRecOn with
  | nil => simp [run, reference, new, Properties.values, valuesOf]
  | append_singleton ops op ih =>
    rw [run, reference, List.foldl_concat, List.foldl_concat, PropertiesOp.values_apply,
      PropertiesOp.valuesOf_refer]
    exact congrArg (op.act system key) ih

theorem pairsOf_convert (self : Properties) (order : Iteration self.inner)
    (serviceName instanceName : String) :
    pairsOf (self.convertToInstanceProperties order serviceName instanceName) =
      flatten order.1 := by
  simp [pairsOf, convertToInstanceProperties, flatten, List.map_flatMap, Function.comp_def]

/-- After any sequence of calls, and in whatever order the map is gone through, the message has the
given service and instance and the pairs of the reference list, up to an order that keeps the values
of each key in theirs. A call changes the values of its own keys only, and two calls about different
keys commute: the maps have the same entries. -/
theorem convert_yields_reference (system : System) (ops : List PropertiesOp)
    (order : Iteration (run system ops).inner) (serviceName instanceName : String) :
    let message := (run system ops).convertToInstanceProperties order serviceName instanceName
    message.service = serviceName ∧ message.serviceInstance = instanceName ∧
      (pairsOf message).Perm (reference system ops) ∧
      (∀ key, valuesOf key (pairsOf message) = valuesOf key (reference system ops)) ∧
      (∀ op key, key ∉ PropertiesOp.keys system op →
        (run system (ops ++ [op])).values key = (run system ops).values key) ∧
      ∀ op op', (PropertiesOp.keys system op).Disjoint (PropertiesOp.keys system op') →
        (run system (ops ++ [op, op'])).inner.entries.Perm
          (run system (ops ++ [op', op])).inner.entries := by
  intro message
  have hvalues : ∀ key, valuesOf key (pairsOf message) =
      valuesOf key (reference system ops) := by
    intro key
    rw [pairsOf_convert, valuesOf_iteration]
    exact run_values ops key
  have hlast : ∀ op, run system (ops ++ [op]) = op.apply system (run system ops) := by
    intro op
    exact List.foldl_concat _ _ _ _
  have htwo : ∀ op op', run system (ops ++ [op, op']) =
      op'.apply system (op.apply system (run system ops)) := by
    intro op op'
    simp [run]
  refine ⟨rfl, rfl, perm_of_valuesOf hvalues, hvalues, ?_, ?_⟩
  · intro op key hkey
    rw [hlast, PropertiesOp.values_apply, PropertiesOp.act_of_notMem hkey]
  · intro op op' hdisjoint
    rw [htwo, htwo]
    apply perm_entries_of_getD (Properties.pushed _) (Properties.pushed _)
    intro key
    show Properties.values _ key = Properties.values _ key
    simp only [PropertiesOp.values_apply]
    exact PropertiesOp.act_comm hdisjoint _

/-- A system with two addresses. -/
def sampleSystem : System := ⟨some "Linux", some "host", ["10.0.0.1", "10.0.0.2"], 7⟩

/-- A key that is written twice, one that is overwritten, and one that comes back. -/
def sampleOps : List PropertiesOp :=
  [.insert "a" "1", .insert "b" "2", .insert "a" "3", .update "b" "4", .update "c" "5",
    .insert "d" "6", .remove "d", .insert "d" "7"]

/-- The map gone through from its end. -/
def sampleOrder : Iteration (run sampleSystem sampleOps).inner :=
  ⟨(run sampleSystem sampleOps).inner.entries.reverse, List.reverse_perm _⟩

theorem convert_yields_reference_sample :
    (pairsOf ((run sampleSystem sampleOps).convertToInstanceProperties sampleOrder "s" "i")).Perm
      [("a", "1"), ("a", "3"), ("b", "4"), ("d", "7")] :=
  (convert_yields_reference sampleSystem sampleOps sampleOrder "s" "i").2.2.1

end Properties

end SkywalkingAgent.Management
