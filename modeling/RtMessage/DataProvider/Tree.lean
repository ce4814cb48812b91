import Mathlib.Logic.Function.Basic
import RtMessage.DataProvider.Paths

/- `buildProviderTree`: the parents, the children and the roots of the objects of the data
   model.

   The objects of `model_db` are linked in the order of their names. `m_parent` and
   `m_children` are kept by the name of the object they belong to. -/
namespace RtMessage.DataProvider

structure ProviderTree where
  parent : Bytes → Option DmProviderInfo := fun _ => none
  children : Bytes → List DmProviderInfo := fun _ => []
  /-- `model_roots` -/
  roots : ModelDb := ⟨[], ModelDb.sorted_nil⟩

/-- A turn of the loop over `model_db`. -/
def linkObject (db : ModelDb) (t : ProviderTree) (o : DmProviderInfo) : ProviderTree :=
  match db.find (trimProperty o.objectName) with
  | some p =>
    { t with
      children := Function.update t.children p.objectName (t.children p.objectName ++ [o])
      parent := Function.update t.parent o.objectName (some p) }
  | none => { t with roots := t.roots.insert o }

/-- The line is for the log; the buffer that it is put together in has 200 bytes. -/
def printTree (t : ProviderTree) : Nat → DmProviderInfo → Nat → Except Fault Unit
  | 0, _, _ => .error .outOfFuel
  | fuel+1, p, curdep =>
    if 200 ≤ curdep + p.objectName.length then .error .undefinedBehaviour
    else (t.children p.objectName).forM fun c => printTree t fuel c (curdep + 1)

def buildProviderTree (fuel : Nat) (db : ModelDb) (t : ProviderTree) : Except Fault ProviderTree := do
  let t := db.objects.foldl (linkObject db) t
  t.roots.objects.forM fun p => printTree t fuel p 0
  .ok t

/-! What the loop links. -/

/-- The objects that are linked to the object `n`. -/
def childrenOf (db : ModelDb) (os : List DmProviderInfo) (n : Bytes) : List DmProviderInfo :=
  if (db.find n).isSome then os.filter fun o => trimProperty o.objectName = n else []

section Linking
variable {db : ModelDb} {t : ProviderTree} {o p c : DmProviderInfo} {n : Bytes}

theorem mem_childrenOf : c ∈ childrenOf db db.objects n ↔
    c ∈ db.objects ∧ trimProperty c.objectName = n ∧ (db.find n).isSome := by
  unfold childrenOf
  split
  · next hfind => simp only [List.mem_filter, decide_eq_true_eq, hfind, and_true]
  · next hfind => simp [hfind]

theorem childrenOf_cons (o : DmProviderInfo) (os : List DmProviderInfo) :
    childrenOf db (o :: os) n = childrenOf db [o] n ++ childrenOf db os n := by
  unfold childrenOf
  split
  · rw [← List.filter_append, List.singleton_append]
  · rfl

theorem childrenOf_other (h : trimProperty o.objectName ≠ n) : childrenOf db [o] n = [] := by
  unfold childrenOf
  split
  · exact List.filter_cons_of_neg (by simpa using h)
  · rfl

theorem childrenOf_own (h : db.find n = some p) (ho : trimProperty o.objectName = n) :
    childrenOf db [o] n = [o] := by
  rw [childrenOf, if_pos (by rw [h]; rfl)]
  exact List.filter_cons_of_pos (by simpa using ho)

theorem childrenOf_absent (h : db.find n = none) (os : List DmProviderInfo) :
    childrenOf db os n = [] := by
  rw [childrenOf, if_neg (by rw [h]; exact Bool.false_ne_true)]

theorem linkObject_some (hp : db.find (trimProperty o.objectName) = some p) :
    linkObject db t o =
      { t with
        children := Function.update t.children p.objectName (t.children p.objectName ++ [o])
        parent := Function.update t.parent o.objectName (some p) } := by
  rw [linkObject, hp]

theorem linkObject_none (hp : db.find (trimProperty o.objectName) = none) :
    linkObject db t o = { t with roots := t.roots.insert o } := by
  rw [linkObject, hp]

theorem linkObject_children :
    (linkObject db t o).children n = t.children n ++ childrenOf db [o] n := by
  cases hp : db.find (trimProperty o.objectName) with
  | none =>
    rw [linkObject_none hp]
    by_cases hn : trimProperty o.objectName = n
    · rw [childrenOf_absent (hn ▸ hp), List.append_nil]
    · rw [childrenOf_other hn, List.append_nil]
  | some p =>
    have hname : p.objectName = trimProperty o.objectName := ModelDb.find_name hp
    rw [linkObject_some hp]
    by_cases hn : trimProperty o.objectName = n
    · rw [childrenOf_own (hn ▸ hp) hn, ← hn, ← hname]
      exact Function.update_self ..
    · rw [childrenOf_other hn, List.append_nil]
      exact Function.update_of_ne (fun heq => hn (hname ▸ heq.symm)) ..

theorem linkObject_parent :
    (linkObject db t o).parent n =
      if o.objectName = n then (db.find (trimProperty n)).or (t.parent n) else t.parent n := by
  cases hp : db.find (trimProperty o.objectName) with
  | none =>
    rw [linkObject_none hp]
    split
    · next hn =>
      rw [← hn, hp]
      rfl
    · rfl
  | some p =>
    rw [linkObject_some hp]
    split
    · next hn =>
      rw [← hn, hp]
      exact Function.update_self ..
    · next hn => exact Function.update_of_ne (Ne.symm hn) ..

theorem linked_children (os : List DmProviderInfo) (t : ProviderTree) :
    (os.foldl (linkObject db) t).children n = t.children n ++ childrenOf db os n := by
  induction os generalizing t with
  | nil => simp [childrenOf]
  | cons o os ih =>
    rw [List.foldl_cons, ih, linkObject_children, childrenOf_cons o os, List.append_assoc]

theorem linked_parent (os : List DmProviderInfo) (t : ProviderTree) :
    (os.foldl (linkObject db) t).parent n =
      if n ∈ os.map (·.objectName) then (db.find (trimProperty n)).or (t.parent n)
      else t.parent n := by
  induction os generalizing t with
  | nil => rfl
  | cons o os ih =>
    rw [List.foldl_cons, ih, linkObject_parent]
    by_cases hn : o.objectName = n
    · have hmem : n ∈ (o :: os).map (·.objectName) := List.mem_cons.mpr (.inl hn.symm)
      rw [if_pos hn, if_pos hmem]
      split
      · cases db.find (trimProperty n) <;> rfl
      · rfl
    · rw [if_neg hn]
      simp only [List.map_cons, List.mem_cons, Ne.symm hn, false_or]

theorem insertInfo_last {os : List DmProviderInfo} (h : ∀ x ∈ os, x.objectName < o.objectName) :
    ModelDb.insertInfo o os = os ++ [o] := by
  induction os with
  | nil => rfl
  | cons x os ih =>
    have hx : x.objectName < o.objectName := h x List.mem_cons_self
    have hlt : ¬ o.objectName < x.objectName := fun hlt => List.lt_asymm hlt hx
    have hne : ¬ o.objectName = x.objectName := fun heq => List.lt_irrefl _ (heq ▸ hx)
    rw [ModelDb.insertInfo, if_neg hlt, if_neg hne, ih fun y hy => h y (List.mem_cons_of_mem x hy)]
    rfl

theorem linked_roots (os : List DmProviderInfo) (t : ProviderTree)
    (hsorted : os.Pairwise fun a b => a.objectName < b.objectName)
    (hroots : ∀ x ∈ t.roots.objects, ∀ o ∈ os, x.objectName < o.objectName) :
    (os.foldl (linkObject db) t).roots.objects =
      t.roots.objects ++ os.filter fun o => (db.find (trimProperty o.objectName)).isNone := by
  induction os generalizing t with
  | nil => simp
  | cons o os ih =>
    obtain ⟨hhead, htail⟩ := List.pairwise_cons.mp hsorted
    rw [List.foldl_cons]
    cases hp : db.find (trimProperty o.objectName) with
    | none =>
      have hinsert : (t.roots.insert o).objects = t.roots.objects ++ [o] :=
        insertInfo_last fun x hx => hroots x hx o List.mem_cons_self
      rw [linkObject_none hp, ih _ htail]
      · dsimp only
        rw [hinsert, List.filter_cons_of_pos (by rw [hp]; rfl), List.append_assoc]
        rfl
      · intro x hx y hy
        dsimp only at hx
        rw [hinsert] at hx
        cases List.mem_append.mp hx with
        | inl hold => exact hroots x hold y (List.mem_cons_of_mem o hy)
        | inr hnew => exact List.mem_singleton.mp hnew ▸ hhead y hy
    | some p =>
      rw [linkObject_some hp, ih _ htail, List.filter_cons_of_neg (by rw [hp]; exact Bool.false_ne_true)]
      exact fun x hx y hy => hroots x hx y (List.mem_cons_of_mem o hy)

end Linking

/-- The tree of a first construction. -/
def firstTree (db : ModelDb) : ProviderTree := db.objects.foldl (linkObject db) {}

section FirstTree
variable {db : ModelDb} {o : DmProviderInfo} {n : Bytes}

theorem firstTree_children : (firstTree db).children n = childrenOf db db.objects n :=
  linked_children db.objects {}

theorem mem_firstTree_roots : o ∈ (firstTree db).roots.objects ↔
    o ∈ db.objects ∧ db.find (trimProperty o.objectName) = none := by
  have hroots : (firstTree db).roots.objects =
      db.objects.filter fun o => (db.find (trimProperty o.objectName)).isNone :=
    linked_roots db.objects {} db.sorted fun x hx => by cases hx
  rw [hroots, List.mem_filter, Option.isNone_iff_eq_none]

end FirstTree

end RtMessage.DataProvider
