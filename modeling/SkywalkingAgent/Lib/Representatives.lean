import Mathlib.Logic.Function.Basic
import Mathlib.Logic.Relation

/-!
# Representatives of the classes of a growing relation

Links between the elements of a type are added one after the other, and each new link goes to an
element that is alone in its class. `Represents r root` says that `root` picks an element of every
class that the links `r` make; `Represents.join` adds a link, and `Represents.eqvGen_iff` compares
two elements by their representatives.
-/

set_option autoImplicit false

namespace SkywalkingAgent.Lib

universe u

variable {α : Type u}

/-- `root` picks one element of every class of the equivalence that `r` generates. -/
structure Represents (r : α → α → Prop) (root : α → α) : Prop where
  joined : ∀ i j, r i j → root i = root j
  linked : ∀ i, Relation.EqvGen r (root i) i

namespace Represents

variable {r r' : α → α → Prop} {root : α → α}

theorem eqvGen_iff (h : Represents r root) {i j : α} :
    Relation.EqvGen r i j ↔ root i = root j := by
  constructor
  · intro hij
    induction hij with
    | rel i j hij => exact h.joined i j hij
    | refl i => rfl
    | symm i j _ ih => exact ih.symm
    | trans i j k _ _ ihij ihjk => exact ihij.trans ihjk
  · intro hroot
    have hi := (h.linked i).symm
    rw [hroot] at hi
    exact hi.trans _ _ _ (h.linked j)

/-- Where nothing is linked, every element represents itself. -/
theorem of_isEmpty (h : ∀ i j, ¬r i j) : Represents r id :=
  ⟨fun i j hij => absurd hij (h i j), fun i => .refl i⟩

theorem congr (h : Represents r root) (hr : ∀ i j, r' i j ↔ r i j) : Represents r' root := by
  refine ⟨?_, ?_⟩
  · intro i j hij
    exact h.joined i j ((hr i j).1 hij)
  · intro i
    exact Relation.EqvGen.mono (fun a b hab => (hr a b).2 hab) _ _ (h.linked i)

/-- A link from an element `i` to an element `j` that was alone. -/
theorem join [DecidableEq α] (h : Represents r root) {i j : α} (hij : i ≠ j)
    (halone : ∀ k, root k = j ↔ k = j) (hr : ∀ a b, r' a b ↔ r a b ∨ (a = i ∧ b = j)) :
    Represents r' (Function.update root j (root i)) := by
  have hmono : ∀ {a b}, Relation.EqvGen r a b → Relation.EqvGen r' a b := by
    intro a b hab
    exact Relation.EqvGen.mono (fun a b hab => (hr a b).2 (Or.inl hab)) _ _ hab
  refine ⟨?_, ?_⟩
  · intro a b hab
    rcases (hr a b).1 hab with hold | ⟨rfl, rfl⟩
    · have hroot := h.joined a b hold
      -- both ends of an old link are `j`, or neither is
      by_cases ha : a = j
      · have hb : b = j := (halone b).1 (hroot.symm.trans ((halone a).2 ha))
        rw [ha, hb]
      · have hb : b ≠ j := by
          intro hb
          exact ha ((halone a).1 (hroot.trans ((halone b).2 hb)))
        rw [Function.update_of_ne ha, Function.update_of_ne hb, hroot]
    · rw [Function.update_self, Function.update_of_ne hij]
  · intro k
    by_cases hk : k = j
    · subst hk
      rw [Function.update_self]
      have hlink : r' i k := (hr i k).2 (Or.inr ⟨rfl, rfl⟩)
      exact (hmono (h.linked i)).trans _ _ _ (.rel i k hlink)
    · rw [Function.update_of_ne hk]
      exact hmono (h.linked k)

end Represents

end SkywalkingAgent.Lib
