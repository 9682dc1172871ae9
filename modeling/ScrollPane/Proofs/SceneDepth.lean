import Mathlib.Data.List.Perm.Subperm
import Mathlib.Logic.Relation
import ScrollPane.Proofs.SceneTree

/-!
# The depth of a scene

A handle is turned into a component by a number of levels. If no component contains itself, a way down
from a component never comes to the same component twice, so it ends within as many levels as the
scene has nodes. One more level draws the whole tree, and no more levels draw anything else.

## Main statements

- `Scene.componentAt_of_acyclic`: a scene without cycles is drawn to the bottom.
-/

namespace ScrollPane.Scene

variable {γ : Type}

/-- One component draws another. -/
def Draws (s : Scene γ) (h child : Handle) : Prop :=
  ∃ node, s.node? h = some node ∧ child ∈ node.children

/-- No component contains itself. -/
def Acyclic (s : Scene γ) : Prop := ∀ h, ¬ Relation.TransGen s.Draws h h

/-- A way down to a component, by the components it comes through. -/
structure Descent (s : Scene γ) (path : List Handle) (h : Handle) : Prop where
  nodup : path.Nodup
  node_of_mem : ∀ above ∈ path, above < s.nodes.size
  reaches : ∀ above ∈ path, Relation.TransGen s.Draws above h

theorem Draws.lt_size {s : Scene γ} {h child : Handle} (hDraws : s.Draws h child) :
    h < s.nodes.size := by
  obtain ⟨node, hNode, -⟩ := hDraws
  exact (Array.getElem?_eq_some_iff.mp hNode).1

namespace Descent

theorem start (s : Scene γ) (h : Handle) : s.Descent [] h where
  nodup := List.nodup_nil
  node_of_mem _ hAbove := absurd hAbove List.not_mem_nil
  reaches _ hAbove := absurd hAbove List.not_mem_nil

theorem length_le {s : Scene γ} {path : List Handle} {h : Handle} (hDescent : s.Descent path h) :
    path.length ≤ s.nodes.size := by
  have hNodes : path ⊆ List.range s.nodes.size := fun above hAbove =>
    List.mem_range.mpr (hDescent.node_of_mem above hAbove)
  have hLength := (hDescent.nodup.subperm hNodes).length_le
  rwa [List.length_range] at hLength

/-- Where there are no cycles, going down one level comes to a component not yet passed. -/
theorem down {s : Scene γ} (hAcyclic : s.Acyclic) {path : List Handle} {h child : Handle}
    (hDescent : s.Descent path h) (hDraws : s.Draws h child) : s.Descent (h :: path) child where
  nodup := List.nodup_cons.mpr
    ⟨fun hPassed => hAcyclic h (hDescent.reaches h hPassed), hDescent.nodup⟩
  node_of_mem := List.forall_mem_cons.mpr ⟨hDraws.lt_size, hDescent.node_of_mem⟩
  reaches := List.forall_mem_cons.mpr
    ⟨.single hDraws, fun above hAbove => (hDescent.reaches above hAbove).tail hDraws⟩

end Descent

variable {guestComponent : γ → Component γ}

/-- Where the levels that are left and those already passed outnumber the nodes, one more level makes
no difference. -/
theorem componentAt_succ_of_descent {s : Scene γ} (hAcyclic : s.Acyclic) {depth : Nat}
    {path : List Handle} {h : Handle} (hDescent : s.Descent path h)
    (hDepth : s.nodes.size < depth + path.length) :
    s.componentAt guestComponent (depth + 1) h = s.componentAt guestComponent depth h := by
  induction depth generalizing path h with
  | zero =>
    -- such a way down would pass more components than there are
    have hLength := hDescent.length_le
    omega
  | succ depth ih =>
    have hInner : ∀ child, s.Draws h child →
        s.componentAt guestComponent (depth + 1) child = s.componentAt guestComponent depth child := by
      intro child hDraws
      refine ih (hDescent.down hAcyclic hDraws) ?_
      rw [List.length_cons]
      omega
    rw [componentAt, componentAt]
    cases hNode : s.node? h with
    | none => rfl
    | some node =>
      cases node with
      | stack stack =>
        have hChildren : stack.children.map (s.componentAt guestComponent (depth + 1)) =
            stack.children.map (s.componentAt guestComponent depth) :=
          List.map_congr_left fun child hChild => hInner child ⟨_, hNode, hChild⟩
        simp only [hChildren]
      | sticky header child =>
        simp only [hInner child ⟨_, hNode, List.mem_cons_self⟩]
      | layout layout output fixed =>
        simp only [hInner output ⟨_, hNode, List.mem_cons_self⟩,
          hInner fixed ⟨_, hNode, List.mem_cons_of_mem _ List.mem_cons_self⟩]
      | _ => rfl

/-- **A scene without cycles is drawn to the bottom.** More levels than there are nodes draw what one
level more than there are nodes draws. -/
theorem componentAt_of_acyclic {s : Scene γ} (hAcyclic : s.Acyclic) (h : Handle) {depth : Nat}
    (hDepth : s.nodes.size < depth) :
    s.componentAt guestComponent depth h = s.component guestComponent h := by
  induction hDepth with
  | refl => rfl
  | step hDepth ih =>
    rw [← ih]
    exact componentAt_succ_of_descent hAcyclic (.start s h) hDepth

end ScrollPane.Scene
