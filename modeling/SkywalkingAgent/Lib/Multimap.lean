import Mathlib.Data.List.AList
import Mathlib.Data.List.Perm.Basic

/-!
# Pairs by key

A list of pairs, of which only the values of each key and their order matter, and a map from keys to
lists of values, which holds the same information. Two lists of pairs with the same values under
every key are permutations of each other (`Pairs.perm_of_valuesOf`), and writing out a map in any
order of its entries gives each key the values that the map has for it
(`valuesOf_flatten`).
-/

set_option autoImplicit false

namespace SkywalkingAgent.Lib

universe u v

variable {κ : Type u} {ν : Type v} [DecidableEq κ]

namespace Pairs

/-- The values of a key, in order. -/
def valuesOf (key : κ) (pairs : List (κ × ν)) : List ν :=
  pairs.filterMap fun pair => if pair.1 = key then some pair.2 else none

/-- The pairs of the other keys. -/
def without (key : κ) (pairs : List (κ × ν)) : List (κ × ν) :=
  pairs.filter fun pair => pair.1 ≠ key

variable {key k : κ} {pairs : List (κ × ν)} {value : ν}

theorem valuesOf_cons_self (pairs : List (κ × ν)) :
    valuesOf key ((key, value) :: pairs) = value :: valuesOf key pairs := by
  simp [valuesOf]

theorem valuesOf_cons_of_ne (h : k ≠ key) (pairs : List (κ × ν)) :
    valuesOf key ((k, value) :: pairs) = valuesOf key pairs := by
  simp [valuesOf, h]

@[simp] theorem valuesOf_append (key : κ) (pairs more : List (κ × ν)) :
    valuesOf key (pairs ++ more) = valuesOf key pairs ++ valuesOf key more := by
  simp [valuesOf]

theorem valuesOf_eq_nil_iff : valuesOf key pairs = [] ↔ ∀ pair ∈ pairs, pair.1 ≠ key := by
  simp [valuesOf, List.filterMap_eq_nil_iff]

theorem valuesOf_without_self : valuesOf key (without key pairs) = [] := by
  rw [valuesOf_eq_nil_iff]
  simp [without]

theorem valuesOf_without_of_ne (h : k ≠ key) :
    valuesOf k (without key pairs) = valuesOf k pairs := by
  rw [valuesOf, without, List.filterMap_filter]
  refine List.filterMap_congr fun pair _ => ?_
  -- a pair of `k` is not one of `key`
  by_cases hk : pair.1 = k
  · have hne : pair.1 ≠ key := hk ▸ h
    simp [hne]
  · simp [hk]

/-- A pair is there as often as its value is under its key. -/
theorem count_valuesOf [DecidableEq ν] (pair : κ × ν) (pairs : List (κ × ν)) :
    (valuesOf pair.1 pairs).count pair.2 = pairs.count pair := by
  induction pairs with
  | nil => rfl
  | cons p pairs ih =>
    obtain ⟨k, value⟩ := p
    by_cases hk : k = pair.1
    · subst hk
      rw [valuesOf_cons_self, List.count_cons, List.count_cons, ih]
      simp [Prod.ext_iff]
    · rw [valuesOf_cons_of_ne hk, List.count_cons, ih]
      simp [Prod.ext_iff, hk]

/-- The values under the keys determine the pairs up to their order. -/
theorem perm_of_valuesOf {pairs' : List (κ × ν)}
    (h : ∀ key, valuesOf key pairs = valuesOf key pairs') : pairs.Perm pairs' := by
  classical
  rw [List.perm_iff_count]
  intro pair
  rw [← count_valuesOf, ← count_valuesOf, h]

end Pairs

/-! ## Maps to lists -/

/-- An order in which the entries of a map can be gone through. -/
abbrev Iteration (map : AList fun _ : κ => List ν) : Type (max u v) :=
  { entries : List (Σ _ : κ, List ν) // entries.Perm map.entries }

/-- The pairs that the entries stand for. -/
def flatten (entries : List (Σ _ : κ, List ν)) : List (κ × ν) :=
  entries.flatMap fun entry => entry.2.map fun value => (entry.1, value)

open Pairs

theorem valuesOf_map_self (key : κ) (values : List ν) :
    valuesOf key (values.map fun value => (key, value)) = values := by
  simp [valuesOf, List.filterMap_map]

theorem valuesOf_map_of_ne {key k : κ} (h : k ≠ key) (values : List ν) :
    valuesOf key (values.map fun value => (k, value)) = [] := by
  rw [valuesOf_eq_nil_iff]
  intro pair hpair
  obtain ⟨value, -, rfl⟩ := List.mem_map.1 hpair
  exact h

/-- Each key has the values of its entry. -/
theorem valuesOf_flatten {entries : List (Σ _ : κ, List ν)} (h : entries.NodupKeys) (key : κ) :
    valuesOf key (flatten entries) = (entries.dlookup key).getD [] := by
  induction entries with
  | nil => rfl
  | cons entry entries ih =>
    obtain ⟨k, values⟩ := entry
    rw [List.nodupKeys_cons] at h
    have hflatten : flatten (⟨k, values⟩ :: entries) =
        (values.map fun value => (k, value)) ++ flatten entries := rfl
    rw [hflatten, valuesOf_append, ih h.2]
    by_cases hk : k = key
    · subst hk
      have hnone : entries.dlookup k = none := List.dlookup_eq_none.2 h.1
      rw [valuesOf_map_self, hnone, List.dlookup_cons_eq, Option.getD_none, Option.getD_some,
        List.append_nil]
    · rw [valuesOf_map_of_ne hk, List.nil_append, List.dlookup_cons_ne _ _ (Ne.symm hk)]

/-- The order of the iteration does not matter for any key. -/
theorem valuesOf_iteration {map : AList fun _ : κ => List ν} (order : Iteration map) (key : κ) :
    valuesOf key (flatten order.1) = (map.lookup key).getD [] := by
  have hnodup : order.1.NodupKeys := (List.perm_nodupKeys order.2).2 map.nodupKeys
  rw [valuesOf_flatten hnodup, List.perm_dlookup key hnodup order.2]
  rfl

/-- An absent list and an empty one read the same; where no list is empty the reading is the
list. -/
theorem eq_of_getD {values values' : Option (List ν)} (hne : values ≠ some [])
    (hne' : values' ≠ some []) (h : values.getD [] = values'.getD []) : values = values' := by
  cases values with
  | none =>
    cases values' with
    | none => rfl
    | some l' => exact absurd (congrArg some h.symm) hne'
  | some l =>
    cases values' with
    | none => exact absurd (congrArg some h) hne
    | some l' => exact congrArg some h

/-- Maps without empty lists, with the same values under every key, have the same iterations. -/
theorem perm_entries_of_getD {map map' : AList fun _ : κ => List ν}
    (hne : ∀ key, map.lookup key ≠ some []) (hne' : ∀ key, map'.lookup key ≠ some [])
    (h : ∀ key, (map.lookup key).getD [] = (map'.lookup key).getD []) :
    map.entries.Perm map'.entries := by
  apply List.lookup_ext map.nodupKeys map'.nodupKeys
  intro key values
  have hkey : map.lookup key = map'.lookup key := eq_of_getD (hne key) (hne' key) (h key)
  show values ∈ map.lookup key ↔ values ∈ map'.lookup key
  rw [hkey]

end SkywalkingAgent.Lib
