import Mathlib.Data.List.Basic

/-!
# Binary search

`binarySearchBy` looks for an element that a comparator calls equal in a list that the comparator
finds sorted: first the smaller elements, then the equal ones, then the greater ones (`Ranked`). It
returns the index of an equal element, or the index at which one could be inserted
(`binarySearchBy_ok`, `binarySearchBy_error`).
-/

set_option autoImplicit false

namespace SkywalkingAgent.Lib

universe u

variable {α : Type u}

section Search

variable (f : α → Ordering) (l : List α)

/-- The search in the window from `lo` up to `hi`. -/
def searchWindow : Nat → Nat → Nat → Except Nat Nat
  | 0, lo, _ => .error lo
  | fuel + 1, lo, hi =>
      if lo < hi then
        match l[lo + (hi - lo) / 2]? with
        | none => .error lo
        | some a =>
            match f a with
            | .eq => .ok (lo + (hi - lo) / 2)
            | .lt => searchWindow fuel (lo + (hi - lo) / 2 + 1) hi
            | .gt => searchWindow fuel lo (lo + (hi - lo) / 2)
      else .error lo

/-- `slice::binary_search_by`. -/
def binarySearchBy : Except Nat Nat := searchWindow f l (l.length + 1) 0 l.length

/-- The comparator finds the list sorted. -/
def Ranked : Prop := l.Pairwise fun a b => (f b = .lt → f a = .lt) ∧ (f a = .gt → f b = .gt)

end Search

variable {f : α → Ordering} {l : List α}

/-- What is left of a smaller element is smaller, and what is right of a greater one is greater. -/
theorem Ranked.getElem? (h : Ranked f l) {i j : Nat} (hij : i ≤ j) {a b : α} (ha : l[i]? = some a)
    (hb : l[j]? = some b) : (f b = .lt → f a = .lt) ∧ (f a = .gt → f b = .gt) := by
  rcases Nat.lt_or_eq_of_le hij with hlt | rfl
  · obtain ⟨hi, rfl⟩ := List.getElem?_eq_some_iff.1 ha
    obtain ⟨hj, rfl⟩ := List.getElem?_eq_some_iff.1 hb
    exact List.pairwise_iff_getElem.1 h i j hi hj hlt
  · rw [ha, Option.some.injEq] at hb
    subst hb
    exact ⟨id, id⟩

/-- A window with the smaller elements before it and the greater ones behind it. -/
structure Window (f : α → Ordering) (l : List α) (lo hi : Nat) : Prop where
  le : lo ≤ hi
  bound : hi ≤ l.length
  before : ∀ i a, i < lo → l[i]? = some a → f a = .lt
  behind : ∀ i a, hi ≤ i → l[i]? = some a → f a = .gt

/-- The result of a search in a window. -/
def Found (f : α → Ordering) (l : List α) : Except Nat Nat → Prop
  | .ok i => ∃ a, l[i]? = some a ∧ f a = .eq
  | .error i => Window f l i i

theorem found_searchWindow (hl : Ranked f l) {fuel lo hi : Nat} (hw : Window f l lo hi)
    (hfuel : hi - lo < fuel) : Found f l (searchWindow f l fuel lo hi) := by
  induction fuel generalizing lo hi with
  | zero => omega
  | succ fuel ih =>
    unfold searchWindow
    by_cases hlt : lo < hi
    · -- the middle of a window that is not empty decides on which side the search goes on
      have hmid : lo + (hi - lo) / 2 < hi := by omega
      have hget : lo + (hi - lo) / 2 < l.length := Nat.lt_of_lt_of_le hmid hw.bound
      have hm : l[lo + (hi - lo) / 2]? = some l[lo + (hi - lo) / 2] :=
        List.getElem?_eq_getElem hget
      rw [if_pos hlt, hm]
      cases hf : f l[lo + (hi - lo) / 2] with
      | eq =>
        simp only [hf]
        exact ⟨_, hm, hf⟩
      | lt =>
        simp only [hf]
        apply ih
        · refine { le := by omega, bound := hw.bound, before := ?_, behind := hw.behind }
          intro i a hi ha
          -- what is left of a smaller middle is smaller
          exact (hl.getElem? (by omega) ha hm).1 hf
        · omega
      | gt =>
        simp only [hf]
        apply ih
        · refine { le := by omega, bound := by omega, before := hw.before, behind := ?_ }
          intro i a hi ha
          -- what is right of a greater middle is greater
          exact (hl.getElem? hi hm ha).2 hf
        · omega
    · rw [if_neg hlt]
      -- an empty window is the place of the missing element
      have heq : hi = lo := Nat.le_antisymm (Nat.le_of_not_lt hlt) hw.le
      subst heq
      exact hw

theorem found_binarySearchBy (hl : Ranked f l) : Found f l (binarySearchBy f l) := by
  apply found_searchWindow hl
  · exact { le := Nat.zero_le _, bound := Nat.le_refl _,
            before := fun i a hi => absurd hi (Nat.not_lt_zero i)
            behind := fun i a hi ha => by
              rw [List.getElem?_eq_none hi] at ha
              cases ha }
  · omega

/-- An index that the search returns is the index of an equal element. -/
theorem binarySearchBy_ok (hl : Ranked f l) {i : Nat} (h : binarySearchBy f l = .ok i) :
    ∃ a, l[i]? = some a ∧ f a = .eq := by
  have hfound := found_binarySearchBy hl
  rw [h] at hfound
  exact hfound

/-- Without an equal element, the index returned separates the smaller ones from the greater. -/
theorem binarySearchBy_error (hl : Ranked f l) {i : Nat} (h : binarySearchBy f l = .error i) :
    Window f l i i := by
  have hfound := found_binarySearchBy hl
  rw [h] at hfound
  exact hfound

end SkywalkingAgent.Lib
