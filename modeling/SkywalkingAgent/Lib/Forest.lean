import Mathlib.Data.List.Nodup
import Mathlib.Logic.Relation
import Mathlib.Order.Lattice
import Mathlib.Tactic.Tauto

/-!
# Ordered forests, their traversals and their zippers

`Forest α` is the left-child right-sibling form of an ordered forest. The module relates the
pre-order, the post-order and the parent relation of one forest: where the pre-order is increasing,
an earlier element of the post-order is a descendant of a later one, or is smaller and is not an
ancestor of it (`pairwise_postorder`).

A `Zipper` is a forest under construction, with a path of open nodes. Opening a node appends it to
the pre-order, closing the innermost one appends it to the post-order, and neither disturbs the
edges already there; so a discipline of nested opens and closes builds one forest.
-/

set_option autoImplicit false

namespace SkywalkingAgent.Lib

universe u

variable {α : Type u}

/-- An ordered forest: empty, or a node with its children and the forest to its right. -/
inductive Forest (α : Type u) where
  | nil
  | cons (label : α) (children siblings : Forest α)

namespace Forest

/-- The labels, each node before its children. -/
def preorder : Forest α → List α
  | nil => []
  | cons a c s => a :: (preorder c ++ preorder s)

/-- The labels, each node after its children. -/
def postorder : Forest α → List α
  | nil => []
  | cons a c s => postorder c ++ a :: postorder s

/-- Each label with the label of its parent, in pre-order; `p` is the parent of the roots. -/
def edges : Option α → Forest α → List (α × Option α)
  | _, nil => []
  | p, cons a c s => (a, p) :: (edges (some a) c ++ edges p s)

/-- `g` to the right of `f`. -/
def append : Forest α → Forest α → Forest α
  | nil, g => g
  | cons a c s, g => cons a c (append s g)

/-- `x` lies strictly below `y`. -/
def Below : Forest α → α → α → Prop
  | nil, _, _ => False
  | cons a c s, x, y => (x ∈ preorder c ∧ y = a) ∨ Below c x y ∨ Below s x y

@[simp] theorem preorder_append (f g : Forest α) :
    preorder (append f g) = preorder f ++ preorder g := by
  induction f with
  | nil => rfl
  | cons a c s _ ih => simp [append, preorder, ih]

@[simp] theorem postorder_append (f g : Forest α) :
    postorder (append f g) = postorder f ++ postorder g := by
  induction f with
  | nil => rfl
  | cons a c s _ ih => simp [append, postorder, ih]

@[simp] theorem edges_append (p : Option α) (f g : Forest α) :
    edges p (append f g) = edges p f ++ edges p g := by
  induction f with
  | nil => rfl
  | cons a c s _ ih => simp [append, edges, ih]

theorem perm_postorder_preorder (f : Forest α) : (postorder f).Perm (preorder f) := by
  induction f with
  | nil => exact List.Perm.refl _
  | cons a c s ihc ihs =>
    exact (List.perm_middle).trans (List.Perm.cons a (ihc.append ihs))

theorem mem_postorder {f : Forest α} {x : α} : x ∈ postorder f ↔ x ∈ preorder f :=
  (perm_postorder_preorder f).mem_iff

/-! ## Descendants -/

theorem Below.mem {f : Forest α} {x y : α} (h : Below f x y) :
    x ∈ preorder f ∧ y ∈ preorder f := by
  induction f with
  | nil => exact h.elim
  | cons a c s ihc ihs =>
    simp only [preorder, List.mem_cons, List.mem_append]
    rcases h with ⟨hx, rfl⟩ | h | h
    · exact ⟨Or.inr (Or.inl hx), Or.inl rfl⟩
    · exact ⟨Or.inr (Or.inl (ihc h).1), Or.inr (Or.inl (ihc h).2)⟩
    · exact ⟨Or.inr (Or.inr (ihs h).1), Or.inr (Or.inr (ihs h).2)⟩

/-- An edge of `f` joins a node to the node right above it, or a root to the outer parent. -/
theorem below_of_mem_edges {q : Option α} {f : Forest α} {x y : α} (h : (x, some y) ∈ edges q f) :
    Below f x y ∨ (q = some y ∧ x ∈ preorder f) := by
  induction f generalizing q with
  | nil => simp [edges] at h
  | cons a c s ihc ihs =>
    simp only [edges, List.mem_cons, Prod.mk.injEq, List.mem_append] at h
    simp only [preorder, List.mem_cons, List.mem_append]
    rcases h with ⟨rfl, hq⟩ | h | h
    · exact Or.inr ⟨hq.symm, Or.inl rfl⟩
    · rcases ihc h with hb | ⟨ha, hx⟩
      · exact Or.inl (Or.inr (Or.inl hb))
      -- a root of the children has `a` above it
      · rw [Option.some.injEq] at ha
        exact Or.inl (Or.inl ⟨hx, ha.symm⟩)
    · rcases ihs h with hb | ⟨hq, hx⟩
      · exact Or.inl (Or.inr (Or.inr hb))
      · exact Or.inr ⟨hq, Or.inr (Or.inr hx)⟩

/-- Every node below the roots of `f` reaches the outer parent by following edges. -/
theorem transGen_outer {r : α → α → Prop} {p : α} {f : Forest α}
    (hr : ∀ x y, (x, some y) ∈ edges (some p) f → r x y) {x : α} (hx : x ∈ preorder f) :
    Relation.TransGen r x p := by
  induction f generalizing p with
  | nil => simp [preorder] at hx
  | cons a c s ihc ihs =>
    have hap : r a p := hr a p (by simp [edges])
    simp only [preorder, List.mem_cons, List.mem_append] at hx
    rcases hx with rfl | hx | hx
    · exact Relation.TransGen.single hap
    · have hxa : Relation.TransGen r x a :=
        ihc (fun u v huv => hr u v (by simp [edges, huv])) hx
      exact hxa.tail hap
    · exact ihs (fun u v huv => hr u v (by simp [edges, huv])) hx

theorem transGen_of_below {r : α → α → Prop} {q : Option α} {f : Forest α}
    (hr : ∀ x y, (x, some y) ∈ edges q f → r x y) {x y : α} (h : Below f x y) :
    Relation.TransGen r x y := by
  induction f generalizing q with
  | nil => exact h.elim
  | cons a c s ihc ihs =>
    have hc : ∀ u v, (u, some v) ∈ edges (some a) c → r u v :=
      fun u v huv => hr u v (by simp [edges, huv])
    rcases h with ⟨hx, rfl⟩ | h | h
    · exact transGen_outer hc hx
    · exact ihc hc h
    · have hs : ∀ u v, (u, some v) ∈ edges q s → r u v :=
        fun u v huv => hr u v (by simp [edges, huv])
      exact ihs hs h

section Nodup

variable {a : α} {c s : Forest α}

theorem nodup_cons_iff :
    (preorder (cons a c s)).Nodup ↔
      a ∉ preorder c ∧ a ∉ preorder s ∧ (preorder c).Nodup ∧ (preorder s).Nodup ∧
        List.Disjoint (preorder c) (preorder s) := by
  simp only [preorder, List.nodup_cons, List.mem_append, not_or, List.nodup_append']
  tauto

/-- In a forest without repeated labels, being below a node of the children is decided there. -/
theorem below_children_iff (hnd : (preorder (cons a c s)).Nodup) {x y : α}
    (hy : y ∈ preorder c) : Below (cons a c s) x y ↔ Below c x y := by
  obtain ⟨hac, -, -, -, hdisj⟩ := nodup_cons_iff.1 hnd
  constructor
  · rintro (⟨-, rfl⟩ | h | h)
    · exact absurd hy hac
    · exact h
    · exact absurd h.mem.2 (hdisj hy)
  · intro h
    exact Or.inr (Or.inl h)

theorem below_siblings_iff (hnd : (preorder (cons a c s)).Nodup) {x y : α}
    (hy : y ∈ preorder s) : Below (cons a c s) x y ↔ Below s x y := by
  obtain ⟨-, has, -, -, hdisj⟩ := nodup_cons_iff.1 hnd
  constructor
  · rintro (⟨-, rfl⟩ | h | h)
    · exact absurd hy has
    · exact absurd hy (hdisj h.mem.2)
    · exact h
  · intro h
    exact Or.inr (Or.inr h)

end Nodup

theorem Below.trans {f : Forest α} (hnd : (preorder f).Nodup) {x y z : α} (hxy : Below f x y)
    (hyz : Below f y z) : Below f x z := by
  induction f with
  | nil => exact hxy.elim
  | cons a c s ihc ihs =>
    obtain ⟨-, -, hcnd, hsnd, -⟩ := nodup_cons_iff.1 hnd
    -- `y` says in which part of the forest both relations live
    rcases hyz with ⟨hy, rfl⟩ | hyz | hyz
    · exact Or.inl ⟨((below_children_iff hnd hy).1 hxy).mem.1, rfl⟩
    · have hxy' := (below_children_iff hnd hyz.mem.1).1 hxy
      exact Or.inr (Or.inl (ihc hcnd hxy' hyz))
    · have hxy' := (below_siblings_iff hnd hyz.mem.1).1 hxy
      exact Or.inr (Or.inr (ihs hsnd hxy' hyz))

/-- `Below` is the transitive closure of the parent edges. -/
theorem below_iff_transGen {f : Forest α} (hnd : (preorder f).Nodup) {x y : α} :
    Below f x y ↔ Relation.TransGen (fun u v => (u, some v) ∈ edges none f) x y := by
  constructor
  · exact transGen_of_below fun _ _ h => h
  · intro h
    have hedge : ∀ u v, (u, some v) ∈ edges none f → Below f u v := by
      intro u v huv
      rcases below_of_mem_edges huv with hb | ⟨hq, -⟩
      · exact hb
      · simp at hq
    induction h with
    | single h => exact hedge _ _ h
    | tail _ h ih => exact ih.trans hnd (hedge _ _ h)

/-! ## Post-order against an increasing pre-order -/

section Order

variable [LinearOrder α]

/-- A descendant comes later in the pre-order. -/
theorem Below.lt {f : Forest α} (hpre : (preorder f).Pairwise (· < ·)) {x y : α}
    (h : Below f x y) : y < x := by
  induction f with
  | nil => exact h.elim
  | cons a c s ihc ihs =>
    simp only [preorder, List.pairwise_cons, List.pairwise_append, List.mem_append] at hpre
    obtain ⟨ha, hc, hs, -⟩ := hpre
    rcases h with ⟨hx, rfl⟩ | h | h
    · exact ha x (Or.inl hx)
    · exact ihc hc h
    · exact ihs hs h

/-- The post-order, element by element: what comes earlier is a descendant of what comes later, or
is smaller without being an ancestor of it. -/
theorem pairwise_postorder {f : Forest α} (hpre : (preorder f).Pairwise (· < ·)) :
    (postorder f).Pairwise fun x y => Below f x y ∨ (x < y ∧ ¬ Below f y x) := by
  induction f with
  | nil => exact List.Pairwise.nil
  | cons a c s ihc ihs =>
    have hnd : (preorder (cons a c s)).Nodup := hpre.imp fun hlt => ne_of_lt hlt
    have hlt := hpre
    simp only [preorder, List.pairwise_cons, List.pairwise_append, List.mem_append] at hlt
    obtain ⟨ha, hc, hs, hcs⟩ := hlt
    simp only [postorder, List.pairwise_append, List.pairwise_cons, List.mem_cons, mem_postorder]
    refine ⟨(ihc hc).imp_of_mem ?_, ⟨?_, (ihs hs).imp_of_mem ?_⟩, ?_⟩
    · intro x y hx hy hxy
      rw [below_children_iff hnd (mem_postorder.1 hy), below_children_iff hnd (mem_postorder.1 hx)]
      exact hxy
    -- the root against what comes after its tree
    · intro y hy
      refine Or.inr ⟨ha y (Or.inr hy), fun hb => ?_⟩
      obtain ⟨-, -, -, -, hdisj⟩ := nodup_cons_iff.1 hnd
      rcases hb with ⟨hyc, -⟩ | hb | hb
      · exact hdisj hyc hy
      · exact hdisj hb.mem.1 hy
      · exact lt_irrefl a (ha a (Or.inr hb.mem.2))
    · intro x y hx hy hxy
      rw [below_siblings_iff hnd (mem_postorder.1 hy), below_siblings_iff hnd (mem_postorder.1 hx)]
      exact hxy
    -- a child against its root, or against what comes after the tree
    · rintro x hx y (rfl | hy)
      · exact Or.inl (Or.inl ⟨hx, rfl⟩)
      · refine Or.inr ⟨hcs x hx y hy, fun hb => ?_⟩
        have hyc := ((below_children_iff hnd hx).1 hb).mem.1
        exact lt_irrefl y (hcs y hyc y hy)

end Order

end Forest

/-! ## Zippers -/

/-- A forest under construction: the finished roots, then a path of open nodes, each with the
finished forest of its children so far. -/
inductive Zipper (α : Type u) where
  | root (done : Forest α)
  | frame (outer : Zipper α) (label : α) (done : Forest α)

namespace Zipper

/-- Everything opened so far, in the order of opening. -/
def preorder : Zipper α → List α
  | root d => d.preorder
  | frame z a d => preorder z ++ a :: d.preorder

/-- Everything closed so far, in the order of closing. -/
def postorder : Zipper α → List α
  | root d => d.postorder
  | frame z _ d => postorder z ++ d.postorder

/-- The open nodes, innermost last. -/
def openLabels : Zipper α → List α
  | root _ => []
  | frame z a _ => openLabels z ++ [a]

/-- The innermost open node. -/
def innermost : Zipper α → Option α
  | root _ => none
  | frame _ a _ => some a

/-- Each node opened so far with its parent. -/
def edges : Zipper α → List (α × Option α)
  | root d => d.edges none
  | frame z a d => edges z ++ (a, innermost z) :: d.edges (some a)

/-- A finished forest under the innermost open node. -/
def attach : Zipper α → Forest α → Zipper α
  | root d, t => root (d.append t)
  | frame z a d, t => frame z a (d.append t)

/-- A new innermost open node. -/
def push (z : Zipper α) (a : α) : Zipper α := frame z a .nil

/-- The innermost open node becomes a finished tree of the node around it. -/
def pop : Zipper α → Zipper α
  | root d => root d
  | frame z a d => attach z (.cons a d .nil)

theorem innermost_eq_getLast? (z : Zipper α) : z.innermost = z.openLabels.getLast? := by
  cases z with
  | root d => rfl
  | frame z a d => simp [innermost, openLabels]

@[simp] theorem preorder_attach (z : Zipper α) (t : Forest α) :
    (z.attach t).preorder = z.preorder ++ t.preorder := by
  cases z with
  | root d => simp [attach, preorder]
  | frame z a d => simp [attach, preorder]

@[simp] theorem postorder_attach (z : Zipper α) (t : Forest α) :
    (z.attach t).postorder = z.postorder ++ t.postorder := by
  cases z with
  | root d => simp [attach, postorder]
  | frame z a d => simp [attach, postorder]

@[simp] theorem openLabels_attach (z : Zipper α) (t : Forest α) :
    (z.attach t).openLabels = z.openLabels := by
  cases z with
  | root d => rfl
  | frame z a d => rfl

@[simp] theorem edges_attach (z : Zipper α) (t : Forest α) :
    (z.attach t).edges = z.edges ++ t.edges z.innermost := by
  cases z with
  | root d => simp [attach, edges, innermost]
  | frame z a d => simp [attach, edges, innermost]

@[simp] theorem preorder_push (z : Zipper α) (a : α) : (z.push a).preorder = z.preorder ++ [a] := by
  simp [push, preorder, Forest.preorder]

@[simp] theorem postorder_push (z : Zipper α) (a : α) : (z.push a).postorder = z.postorder := by
  simp [push, postorder, Forest.postorder]

@[simp] theorem openLabels_push (z : Zipper α) (a : α) :
    (z.push a).openLabels = z.openLabels ++ [a] := rfl

@[simp] theorem edges_push (z : Zipper α) (a : α) :
    (z.push a).edges = z.edges ++ [(a, z.innermost)] := by
  simp [push, edges, Forest.edges]

/-- Closing the innermost node `a` appends `a` to the post-order and changes nothing else. -/
theorem pop_of_openLabels {z : Zipper α} {s : List α} {a : α} (h : z.openLabels = s ++ [a]) :
    z.pop.openLabels = s ∧ z.pop.preorder = z.preorder ∧ z.pop.postorder = z.postorder ++ [a] ∧
      z.pop.edges = z.edges := by
  cases z with
  | root d => simp [openLabels] at h
  | frame z b d =>
    simp only [openLabels, List.append_singleton_inj] at h
    obtain ⟨rfl, rfl⟩ := h
    simp [pop, preorder, postorder, edges, Forest.preorder, Forest.postorder, Forest.edges]

/-- With no open node left, the zipper is a forest. -/
theorem eq_root_of_openLabels {z : Zipper α} (h : z.openLabels = []) : ∃ f, z = root f := by
  cases z with
  | root f => exact ⟨f, rfl⟩
  | frame z a d => simp [openLabels] at h

end Zipper

end SkywalkingAgent.Lib
