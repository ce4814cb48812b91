import Mathlib.Logic.Relation
import Mathlib.Data.List.Pairwise

/- Orders of nodes in which each node is followed by what is below it.

   A forest is given by its roots and by the list of the nodes directly below each node. A
   list of nodes in pre-order has each node that the roots lead to (`Preorder.mem_iff`). If
   every node has a position that those of the nodes below it extend, and no sibling's position
   extends another's, it has each of them once (`Preorder.nodup`). -/
namespace Lib

/-- The nodes of the forest, in pre-order. -/
inductive Preorder {α : Type} (succ : α → List α) : List α → List α → Prop where
  | nil : Preorder succ [] []
  | cons {a : α} {as l m : List α} (hbelow : Preorder succ (succ a) l) (h : Preorder succ as m) :
      Preorder succ (a :: as) (a :: (l ++ m))

/-- Neither list extends the other. -/
def Apart {β : Type} (s t : List β) : Prop := ¬ s <+: t ∧ ¬ t <+: s

namespace Preorder
variable {α β : Type} {succ : α → List α} {as bs l m : List α} {a x : α}

theorem append (h : Preorder succ as l) (h' : Preorder succ bs m) :
    Preorder succ (as ++ bs) (l ++ m) := by
  induction h with
  | nil => exact h'
  | @cons a as l k hbelow _ _ ih =>
    rw [List.cons_append, List.cons_append, List.append_assoc]
    exact .cons hbelow ih

theorem mem_iff (h : Preorder succ as l) :
    x ∈ l ↔ ∃ a ∈ as, Relation.ReflTransGen (fun a b => b ∈ succ a) a x := by
  induction h with
  | nil => simp
  | @cons a as l m _ _ ihbelow ih =>
    rw [List.mem_cons, List.mem_append, ihbelow, ih]
    constructor
    · intro hcases
      rcases hcases with heq | ⟨b, hb, hbx⟩ | ⟨b, hb, hbx⟩
      · exact ⟨a, List.mem_cons_self, heq ▸ .refl⟩
      · exact ⟨a, List.mem_cons_self, hbx.head hb⟩
      · exact ⟨b, List.mem_cons_of_mem a hb, hbx⟩
    · intro hroot
      obtain ⟨b, hb, hbx⟩ := hroot
      cases List.mem_cons.mp hb with
      | inr hmem => exact .inr (.inr ⟨b, hmem, hbx⟩)
      | inl heq =>
        subst heq
        cases hbx.cases_head with
        | inl heq => exact .inl heq.symm
        | inr hhead =>
          obtain ⟨c, hc, hcx⟩ := hhead
          exact .inr (.inl ⟨c, hc, hcx⟩)

section Positions
variable {pos : α → List β} {node : α → Prop}

theorem extends_root (hnode : ∀ a, node a → ∀ b ∈ succ a, node b ∧ pos a <+: pos b)
    (has : ∀ a ∈ as, node a) (h : Preorder succ as l) (hx : x ∈ l) :
    ∃ a ∈ as, pos a <+: pos x := by
  obtain ⟨a, ha, hax⟩ := h.mem_iff.mp hx
  refine ⟨a, ha, ?_⟩
  have hreached : node x ∧ pos a <+: pos x := by
    induction hax with
    | refl => exact ⟨has a ha, List.prefix_rfl⟩
    | tail _ hb ih =>
      have hpos := ih (h.mem_iff.mpr ⟨a, ha, by assumption⟩)
      obtain ⟨hb', hbelow⟩ := hnode _ hpos.1 _ hb
      exact ⟨hb', hpos.2.trans hbelow⟩
  exact hreached.2

theorem nodup (hnode : ∀ a, node a → ∀ b ∈ succ a, node b ∧ pos a <+: pos b)
    (hlonger : ∀ a, node a → ∀ b ∈ succ a, ¬ pos b <+: pos a)
    (hapart : ∀ a, node a → (succ a).Pairwise fun b c => Apart (pos b) (pos c))
    (has : ∀ a ∈ as, node a) (hroots : as.Pairwise fun b c => Apart (pos b) (pos c))
    (h : Preorder succ as l) : l.Nodup := by
  induction h with
  | nil => exact List.nodup_nil
  | @cons a as l m hbelow hrest ihbelow ih =>
    obtain ⟨hfirst, hrestApart⟩ := List.pairwise_cons.mp hroots
    have ha : node a := has a List.mem_cons_self
    have hbelowNode : ∀ b ∈ succ a, node b := fun b hb => (hnode a ha b hb).1
    have hrestNode : ∀ b ∈ as, node b := fun b hb => has b (List.mem_cons_of_mem a hb)
    -- what is below `a` extends its position, what is below the other roots does not
    have hin : ∀ x ∈ l, pos a <+: pos x ∧ ¬ pos x <+: pos a := by
      intro x hx
      obtain ⟨b, hb, hbx⟩ := extends_root hnode hbelowNode hbelow hx
      refine ⟨(hnode a ha b hb).2.trans hbx, fun hxa => hlonger a ha b hb (hbx.trans hxa)⟩
    have hout : ∀ x ∈ m, ¬ pos a <+: pos x := by
      intro x hx hax
      obtain ⟨b, hb, hbx⟩ := extends_root hnode hrestNode hrest hx
      cases List.prefix_or_prefix_of_prefix hax hbx with
      | inl hab => exact (hfirst b hb).1 hab
      | inr hba => exact (hfirst b hb).2 hba
    refine List.nodup_cons.mpr ⟨fun hmem => ?_, ?_⟩
    · cases List.mem_append.mp hmem with
      | inl hl => exact (hin a hl).2 List.prefix_rfl
      | inr hm => exact hout a hm List.prefix_rfl
    · refine List.nodup_append.mpr ⟨ihbelow hbelowNode (hapart a ha), ih hrestNode hrestApart, ?_⟩
      intro x hx y hy heq
      exact hout y hy (heq ▸ (hin x hx).1)

end Positions

end Preorder

end Lib
