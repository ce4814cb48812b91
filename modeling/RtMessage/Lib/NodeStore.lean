import Mathlib.Logic.Relation

/- A store of linked nodes that own their children.

   A node is known by the number of nodes allocated before it, which is never given
   to another one; its cell is empty once it is freed. `copy` and `delete` walk down
   from a node, and fail where they come to one that is freed: that they return
   means that nothing freed was read or freed again.

   `Closed` is what a program keeps that links a node only to a parent allocated before
   it, and only once. `Grown` says what an allocation of a tree leaves, `Extends` what
   happens to the nodes that are there meanwhile. -/
namespace Lib

inductive AccessError where
  | freed
  | outOfFuel
  deriving DecidableEq, Repr

structure Cell (α : Type) where
  label : α
  children : List Nat
  deriving DecidableEq, Repr

abbrev NodeStore (α : Type) := List (Option (Cell α))

namespace NodeStore
variable {α : Type} {s t u : NodeStore α} {a : α} {n p q c x : Nat}

def cell (s : NodeStore α) (n : Nat) : Option (Cell α) := (s[n]?).join

def read (s : NodeStore α) (n : Nat) : Except AccessError (Cell α) :=
  match s.cell n with
  | some c => .ok c
  | none => .error .freed

/-- With a new node, which is `s.length`. -/
def alloc (s : NodeStore α) (a : α) : NodeStore α := s ++ [some ⟨a, []⟩]

/-- With `c` as the last child of `p`. -/
def link (s : NodeStore α) (p c : Nat) : NodeStore α :=
  s.modify p (Option.map fun cell => { cell with children := cell.children ++ [c] })

def relabel (s : NodeStore α) (n : Nat) (f : α → α) : NodeStore α :=
  s.modify n (Option.map fun cell => { cell with label := f cell.label })

def free (s : NodeStore α) (n : Nat) : NodeStore α := s.set n none

/-- With a copy of the tree below `n`, whose root is `s.length`. -/
def copy : Nat → NodeStore α → Nat → Except AccessError (NodeStore α)
  | 0, _, _ => .error .outOfFuel
  | fuel + 1, s, n => do
    let cell ← s.read n
    cell.children.foldlM (fun t child => do
      let u ← copy fuel t child
      return u.link s.length t.length) (s.alloc cell.label)

/-- Without these nodes and what is below them. -/
def delete : Nat → NodeStore α → List Nat → Except AccessError (NodeStore α)
  | _, s, [] => .ok s
  | 0, _, _ :: _ => .error .outOfFuel
  | fuel + 1, s, n :: rest => do
    let cell ← s.read n
    delete fuel (s.free n) (cell.children ++ rest)

/-! The nodes and their links. -/

def Allocated (s : NodeStore α) (n : Nat) : Prop := ∃ cell, s.cell n = some cell

/-- `c` is a child of `p`. -/
def Child (s : NodeStore α) (p c : Nat) : Prop := ∃ cell, s.cell p = some cell ∧ c ∈ cell.children

def Reaches (s : NodeStore α) : Nat → Nat → Prop := Relation.ReflTransGen s.Child

/-- No node has `n` as its child. -/
def Orphan (s : NodeStore α) (n : Nat) : Prop := ∀ p, ¬ s.Child p n

theorem cell_alloc : (s.alloc a).cell n = if n = s.length then some ⟨a, []⟩ else s.cell n := by
  simp only [cell, alloc]
  split
  · next h => simp [h]
  · next h =>
    obtain hlt | hge := Nat.lt_or_gt_of_ne h
    · rw [List.getElem?_append_left hlt]
    · have hs : s[n]? = none := List.getElem?_eq_none (by omega)
      have ht : (s ++ [some (⟨a, []⟩ : Cell α)])[n]? = none :=
        List.getElem?_eq_none (by simp; omega)
      rw [hs, ht]

theorem cell_modify (f : Cell α → Cell α) : cell (s.modify p (Option.map f)) n =
    if n = p then (s.cell n).map f else s.cell n := by
  simp only [cell, List.getElem?_modify]
  by_cases h : p = n
  · subst h
    cases s[p]? with
    | none => simp
    | some o => simp
  · rw [if_neg (Ne.symm h)]
    simp [h]

theorem cell_link_of_ne (h : n ≠ p) : (s.link p c).cell n = s.cell n := by
  rw [link, cell_modify, if_neg h]

theorem cell_relabel_of_ne (f : α → α) (h : n ≠ p) : (s.relabel p f).cell n = s.cell n := by
  rw [relabel, cell_modify, if_neg h]

theorem cell_free : (s.free p).cell n = if n = p then none else s.cell n := by
  simp only [cell, free, List.getElem?_set]
  by_cases h : p = n
  · subst h
    simp only [↓reduceIte]
    split <;> rfl
  · rw [if_neg (Ne.symm h), if_neg h]

theorem Allocated.lt (h : s.Allocated n) : n < s.length := by
  obtain ⟨cell, hcell⟩ := h
  refine Nat.lt_of_not_le fun hge => ?_
  simp [NodeStore.cell, List.getElem?_eq_none hge] at hcell

theorem Allocated.read (h : s.Allocated n) :
    ∃ cell, s.cell n = some cell ∧ s.read n = .ok cell := by
  obtain ⟨cell, hcell⟩ := h
  exact ⟨cell, hcell, by simp only [NodeStore.read, hcell]⟩

theorem Child.allocated_parent (h : s.Child p c) : s.Allocated p := by
  obtain ⟨cell, hcell, _⟩ := h
  exact ⟨cell, hcell⟩

theorem child_iff {cell : Cell α} (h : s.cell p = some cell) :
    s.Child p c ↔ c ∈ cell.children := by
  simp [Child, h]

theorem child_congr (h : t.cell p = s.cell p) : t.Child p c ↔ s.Child p c := by
  simp only [Child, h]

theorem allocated_congr (h : t.cell n = s.cell n) : t.Allocated n ↔ s.Allocated n := by
  simp only [Allocated, h]

theorem allocated_alloc : (s.alloc a).Allocated n ↔ n = s.length ∨ s.Allocated n := by
  unfold Allocated
  rw [cell_alloc]
  split
  · next h => simp [h]
  · next h => simp [h]

theorem child_alloc : (s.alloc a).Child p c ↔ s.Child p c := by
  unfold Child
  rw [cell_alloc]
  split
  · next h =>
    subst h
    have hnone : s.cell s.length = none := by simp [cell]
    simp [hnone]
  · rfl

theorem allocated_modify (f : Cell α → Cell α) :
    Allocated (s.modify p (Option.map f)) n ↔ s.Allocated n := by
  unfold Allocated
  rw [cell_modify]
  split
  · cases s.cell n with
    | none => simp
    | some cell => simp
  · rfl

theorem allocated_link : (s.link p c).Allocated n ↔ s.Allocated n := allocated_modify _

theorem allocated_relabel (f : α → α) : (s.relabel p f).Allocated n ↔ s.Allocated n :=
  allocated_modify _

theorem child_link : (s.link p c).Child q x ↔ s.Child q x ∨ q = p ∧ x = c ∧ s.Allocated p := by
  unfold Child Allocated link
  rw [cell_modify]
  split
  · next h =>
    subst h
    cases s.cell q with
    | none => simp
    | some cell => simp
  · next h => simp [h]

theorem child_relabel (f : α → α) : (s.relabel p f).Child q x ↔ s.Child q x := by
  unfold Child relabel
  rw [cell_modify]
  split
  · cases s.cell q with
    | none => simp
    | some cell => simp
  · rfl

theorem child_free : (s.free n).Child p c ↔ p ≠ n ∧ s.Child p c := by
  unfold Child
  rw [cell_free]
  split
  · next h => simp [h]
  · next h => simp [h]

/-! Stores whose nodes form trees. -/

/-- Every child is there, is younger than its parent, and is linked once. -/
structure Closed (s : NodeStore α) : Prop where
  child_allocated : ∀ p c, s.Child p c → s.Allocated c
  child_later : ∀ p c, s.Child p c → p < c
  one_parent : ∀ p q c, s.Child p c → s.Child q c → p = q
  nodup : ∀ p cell, s.cell p = some cell → cell.children.Nodup

theorem Closed.allocated_of_reaches (h : s.Closed) (hn : s.Allocated n) (hx : s.Reaches n x) :
    s.Allocated x := by
  induction hx with
  | refl => exact hn
  | tail _ hchild _ => exact h.child_allocated _ _ hchild

theorem Orphan.eq_of_reaches (h : s.Orphan x) (hx : s.Reaches n x) : n = x := by
  obtain rfl | ⟨p, _, hchild⟩ := Relation.ReflTransGen.cases_tail hx
  · rfl
  · exact absurd hchild (h p)

theorem closed_nil : Closed ([] : NodeStore α) := by
  have hno : ∀ p c, ¬ Child ([] : NodeStore α) p c := by
    rintro p c ⟨cell, hcell, _⟩
    simp [NodeStore.cell] at hcell
  refine ⟨fun p c h => absurd h (hno p c), fun p c h => absurd h (hno p c),
    fun p q c h => absurd h (hno p c), fun p cell hcell => ?_⟩
  simp [NodeStore.cell] at hcell

/-- `t` is `s` with one more tree, whose root is `s.length`. -/
structure Grown (s t : NodeStore α) : Prop where
  closed : t.Closed
  same : ∀ n < s.length, t.cell n = s.cell n
  root : t.Allocated s.length
  orphan : t.Orphan s.length

theorem Grown.lt (h : Grown s t) : s.length < t.length := h.root.lt

theorem Closed.alloc (h : s.Closed) (a : α) : Grown s (s.alloc a) where
  closed :=
    { child_allocated := fun p c hchild =>
        allocated_alloc.mpr (.inr (h.child_allocated p c (child_alloc.mp hchild)))
      child_later := fun p c hchild => h.child_later p c (child_alloc.mp hchild)
      one_parent := fun p q c hp hq =>
        h.one_parent p q c (child_alloc.mp hp) (child_alloc.mp hq)
      nodup := by
        intro p cell hcell
        rw [cell_alloc] at hcell
        split at hcell
        · rw [← Option.some.inj hcell]
          exact List.nodup_nil
        · exact h.nodup p cell hcell }
  same n hn := by rw [cell_alloc, if_neg (Nat.ne_of_lt hn)]
  root := allocated_alloc.mpr (.inl rfl)
  orphan p hchild :=
    absurd (h.child_allocated _ _ (child_alloc.mp hchild)).lt (Nat.lt_irrefl _)

/-- An orphan may be linked to an older node. -/
theorem Closed.link (h : s.Closed) (hc : s.Allocated c) (horphan : s.Orphan c) (hlt : p < c) :
    (s.link p c).Closed where
  child_allocated := by
    intro q x hchild
    rw [allocated_link]
    obtain hchild | ⟨_, rfl, _⟩ := child_link.mp hchild
    · exact h.child_allocated q x hchild
    · exact hc
  child_later := by
    intro q x hchild
    obtain hchild | ⟨rfl, rfl, _⟩ := child_link.mp hchild
    · exact h.child_later q x hchild
    · exact hlt
  one_parent := by
    intro q q' x hq hq'
    obtain hold | ⟨rfl, rfl, _⟩ := child_link.mp hq
    · obtain hold' | ⟨_, rfl, _⟩ := child_link.mp hq'
      · exact h.one_parent q q' x hold hold'
      · exact absurd hold (horphan q)
    · obtain hold' | ⟨rfl, _, _⟩ := child_link.mp hq'
      · exact absurd hold' (horphan q')
      · rfl
  nodup := by
    intro q cell hcell
    by_cases hq : q = p
    · subst hq
      rw [NodeStore.link, cell_modify, if_pos rfl] at hcell
      obtain ⟨old, hold, rfl⟩ := Option.map_eq_some_iff.mp hcell
      have hnot : c ∉ old.children := fun hmem => horphan q ⟨old, hold, hmem⟩
      refine List.nodup_append.mpr ⟨h.nodup q old hold, by simp, fun x hx y hy e => hnot ?_⟩
      rw [← List.mem_singleton.mp hy, ← e]
      exact hx
    · rw [cell_link_of_ne hq] at hcell
      exact h.nodup q cell hcell

theorem Closed.relabel (h : s.Closed) (f : α → α) : (s.relabel n f).Closed where
  child_allocated p c hchild :=
    (allocated_relabel f).mpr (h.child_allocated p c ((child_relabel f).mp hchild))
  child_later p c hchild := h.child_later p c ((child_relabel f).mp hchild)
  one_parent p q c hp hq := h.one_parent p q c ((child_relabel f).mp hp) ((child_relabel f).mp hq)
  nodup := by
    intro p cell hcell
    rw [NodeStore.relabel, cell_modify] at hcell
    split at hcell
    · obtain ⟨old, hold, rfl⟩ := Option.map_eq_some_iff.mp hcell
      exact h.nodup p old hold
    · exact h.nodup p cell hcell

/-- An orphan may be freed; its children are orphans from then on. -/
theorem Closed.free (h : s.Closed) (horphan : s.Orphan n) : (s.free n).Closed where
  child_allocated := by
    intro p c hchild
    obtain ⟨_, hchild⟩ := child_free.mp hchild
    have hne : c ≠ n := fun e => horphan p (e ▸ hchild)
    exact (allocated_congr (by rw [cell_free, if_neg hne])).mpr (h.child_allocated p c hchild)
  child_later p c hchild := h.child_later p c (child_free.mp hchild).2
  one_parent p q c hp hq := h.one_parent p q c (child_free.mp hp).2 (child_free.mp hq).2
  nodup := by
    intro p cell hcell
    rw [cell_free] at hcell
    split at hcell
    · cases hcell
    · exact h.nodup p cell hcell

namespace Grown

/-- A grown tree goes below an older node when that node is its root, or is in the store that
    it has been added to. -/
theorem link (h : Grown s t) (hu : Grown t u) : Grown s (u.link s.length t.length) where
  closed := hu.closed.link hu.root hu.orphan h.lt
  same := by
    intro n hn
    rw [cell_link_of_ne (Nat.ne_of_lt hn), hu.same n (Nat.lt_trans hn h.lt), h.same n hn]
  root := allocated_link.mpr ((allocated_congr (hu.same _ h.lt)).mpr h.root)
  orphan := by
    intro p hchild
    obtain hchild | ⟨_, hroot, _⟩ := child_link.mp hchild
    · -- A parent is older than its child, and no older cell has changed.
      have hp : p < t.length := Nat.lt_trans (hu.closed.child_later _ _ hchild) h.lt
      exact h.orphan p ((child_congr (hu.same p hp)).mp hchild)
    · exact absurd hroot (Nat.ne_of_lt h.lt)

theorem relabel (h : Grown s t) (f : α → α) : Grown s (t.relabel s.length f) where
  closed := h.closed.relabel f
  same n hn := by rw [cell_relabel_of_ne f (Nat.ne_of_lt hn), h.same n hn]
  root := (allocated_relabel f).mpr h.root
  orphan p hchild := h.orphan p ((child_relabel f).mp hchild)

end Grown

/-- The nodes before `b` have their children before `b`. -/
def ClosedBelow (s : NodeStore α) (b : Nat) : Prop := ∀ p < b, ∀ c, s.Child p c → c < b

theorem Closed.closedBelow (h : s.Closed) : s.ClosedBelow s.length :=
  fun p _ c hchild => (h.child_allocated p c hchild).lt

theorem Grown.closedBelow {b : Nat} (h : Grown s t) (hb : b ≤ s.length) (hs : s.ClosedBelow b) :
    t.ClosedBelow b := by
  intro p hp c hchild
  exact hs p hp c ((child_congr (h.same p (by omega))).mp hchild)

/-- A copy is made when the depth allowed takes it past the youngest node there was. -/
theorem copy_grown {b : Nat} (fuel : Nat) (h : s.Closed) (hn : s.Allocated n) (hnb : n < b)
    (hb : b ≤ s.length) (hbelow : s.ClosedBelow b) (hfuel : b ≤ n + fuel) :
    ∃ t, copy fuel s n = .ok t ∧ Grown s t := by
  induction fuel generalizing s n with
  | zero => omega
  | succ fuel ih =>
    obtain ⟨cell, hcell, hread⟩ := hn.read
    -- The children are copied in turn, each to a store that the copy so far has grown.
    have hloop : ∀ (cs : List Nat) (t : NodeStore α), (∀ c ∈ cs, s.Child n c) → Grown s t →
        ∃ u, cs.foldlM (fun (t : NodeStore α) child => do
          let u ← copy fuel t child
          return u.link s.length t.length) t = Except.ok u ∧ Grown s u := by
      intro cs
      induction cs with
      | nil => exact fun t _ hgrown => ⟨t, rfl, hgrown⟩
      | cons c cs ihcs =>
        intro t hcs hgrown
        have hchild : s.Child n c := hcs c List.mem_cons_self
        have hc : s.Allocated c := h.child_allocated n c hchild
        have hlater : n < c := h.child_later n c hchild
        have hbt : b ≤ t.length := Nat.le_trans hb (Nat.le_of_lt hgrown.lt)
        obtain ⟨u, hu, hgrownu⟩ := ih hgrown.closed ((allocated_congr (hgrown.same c hc.lt)).mpr hc)
          (hbelow n hnb c hchild) hbt (hgrown.closedBelow hb hbelow) (by omega)
        obtain ⟨v, hv, hgrownv⟩ := ihcs (u.link s.length t.length)
          (fun c' hc' => hcs c' (List.mem_cons_of_mem c hc')) (hgrown.link hgrownu)
        refine ⟨v, ?_, hgrownv⟩
        rw [List.foldlM_cons, hu]
        exact hv
    obtain ⟨t, ht, hgrown⟩ := hloop cell.children (s.alloc cell.label)
      (fun c hc => (child_iff hcell).mpr hc) (h.alloc cell.label)
    refine ⟨t, ?_, hgrown⟩
    show (s.read n >>= _) = _
    rw [hread]
    exact ht

/-- `t` has the nodes and the links of `s`, and no link to a root of `s`. -/
structure Extends (s t : NodeStore α) : Prop where
  closed : t.Closed
  allocated : ∀ n, s.Allocated n → t.Allocated n
  child : ∀ p c, s.Child p c → t.Child p c
  orphan : ∀ n, s.Allocated n → s.Orphan n → t.Orphan n

theorem Closed.extends_refl (h : s.Closed) : Extends s s where
  closed := h
  allocated _ hn := hn
  child _ _ hchild := hchild
  orphan _ _ hn := hn

namespace Extends

theorem trans (h : Extends s t) (h' : Extends t u) : Extends s u where
  closed := h'.closed
  allocated n hn := h'.allocated n (h.allocated n hn)
  child p c hchild := h'.child p c (h.child p c hchild)
  orphan n hn horphan := h'.orphan n (h.allocated n hn) (h.orphan n hn horphan)

theorem reaches (h : Extends s t) (hx : s.Reaches n x) : t.Reaches n x := by
  induction hx with
  | refl => exact .refl
  | tail _ hchild ih => exact ih.tail (h.child _ _ hchild)

end Extends

namespace Grown

theorem extends_self (h : Grown s t) : Extends s t where
  closed := h.closed
  allocated n hn := (allocated_congr (h.same n hn.lt)).mpr hn
  child p c hchild := (child_congr (h.same p hchild.allocated_parent.lt)).mpr hchild
  orphan n hn horphan p hchild := by
    have hp : p < s.length := Nat.lt_trans (h.closed.child_later p n hchild) hn.lt
    exact horphan p ((child_congr (h.same p hp)).mp hchild)

theorem attach (h : Grown s t) (hp : s.Allocated p) : Extends s (t.link p s.length) where
  closed := h.closed.link h.root h.orphan hp.lt
  allocated n hn := allocated_link.mpr (h.extends_self.allocated n hn)
  child q c hchild := child_link.mpr (.inl (h.extends_self.child q c hchild))
  orphan := by
    intro n hn horphan q hchild
    obtain hold | ⟨_, hroot, _⟩ := child_link.mp hchild
    · exact h.extends_self.orphan n hn horphan q hold
    · exact absurd hroot (Nat.ne_of_lt hn.lt)

end Grown

/-! Deleting trees. -/

/-- Freeing an orphan cuts no path but those that start at it. -/
theorem reaches_free_iff (horphan : s.Orphan n) (hp : p ≠ n) :
    (s.free n).Reaches p x ↔ s.Reaches p x := by
  constructor
  · intro h
    induction h with
    | refl => exact .refl
    | tail _ hchild ih => exact ih.tail (child_free.mp hchild).2
  · intro h
    induction h with
    | refl => exact .refl
    | @tail y z hy hchild ih =>
      have hne : y ≠ n := fun e => hp (horphan.eq_of_reaches (e ▸ hy))
      exact ih.tail (child_free.mpr ⟨hne, hchild⟩)

theorem reaches_iff {cell : Cell α} (h : s.cell n = some cell) :
    s.Reaches n x ↔ x = n ∨ ∃ c ∈ cell.children, s.Reaches c x := by
  rw [Reaches, Relation.ReflTransGen.cases_head_iff]
  simp only [child_iff h, eq_comm]

/-- The number of nodes that are allocated. -/
def allocatedCount (s : NodeStore α) : Nat := s.countP Option.isSome

theorem allocatedCount_free (h : s.Allocated n) :
    (s.free n).allocatedCount + 1 = s.allocatedCount := by
  have hlt : n < s.length := h.lt
  obtain ⟨cell, hcell⟩ := h
  have hsome : s[n] = some cell := by
    simpa [NodeStore.cell, List.getElem?_eq_getElem hlt] using hcell
  have hpos : 0 < s.countP Option.isSome :=
    List.countP_pos_iff.mpr ⟨_, List.getElem_mem hlt, by rw [hsome]; rfl⟩
  unfold allocatedCount free
  rw [List.countP_set hlt, hsome]
  simp only [Option.isSome_some, Option.isSome_none, Bool.false_eq_true, if_true, if_false]
  omega

/-- Distinct nodes that are roots. -/
structure Roots (s : NodeStore α) (work : List Nat) : Prop where
  nodup : work.Nodup
  allocated : ∀ n ∈ work, s.Allocated n
  orphan : ∀ n ∈ work, s.Orphan n

section Work
variable {cell : Cell α} {work rest : List Nat} {m : Nat}

theorem Roots.ne_of_mem (h : Roots s (n :: rest)) (hcell : s.cell n = some cell)
    (hm : m ∈ cell.children ++ rest) : m ≠ n := by
  intro e
  obtain hm | hm := List.mem_append.mp hm
  · exact h.orphan n List.mem_cons_self n ((child_iff hcell).mpr (e ▸ hm))
  · exact (List.nodup_cons.mp h.nodup).1 (e ▸ hm)

theorem Roots.free (h : Roots s (n :: rest)) (hs : s.Closed) (hcell : s.cell n = some cell) :
    Roots (s.free n) (cell.children ++ rest) := by
  have hchild : ∀ m, m ∈ cell.children ↔ s.Child n m := fun m => (child_iff hcell).symm
  have hmem : ∀ m ∈ rest, m ∈ n :: rest := fun m hm => List.mem_cons_of_mem n hm
  refine ⟨List.nodup_append.mpr ⟨hs.nodup n cell hcell, (List.nodup_cons.mp h.nodup).2, ?_⟩,
    fun m hm => ?_, fun m hm p hp => ?_⟩
  · intro c hc m hm e
    exact h.orphan m (hmem m hm) n (e ▸ (hchild c).mp hc)
  · have hsame : (s.free n).cell m = s.cell m := by rw [cell_free, if_neg (h.ne_of_mem hcell hm)]
    rw [allocated_congr hsame]
    obtain hm | hm := List.mem_append.mp hm
    · exact hs.child_allocated n m ((hchild m).mp hm)
    · exact h.allocated m (hmem m hm)
  · obtain ⟨hpn, hp⟩ := child_free.mp hp
    obtain hm | hm := List.mem_append.mp hm
    · exact hpn (hs.one_parent p n m hp ((hchild m).mp hm))
    · exact h.orphan m (hmem m hm) p hp

/-- What is below the first root or the others, is the first root or below what is left. -/
theorem Roots.reaches_iff (h : Roots s (n :: rest)) (hcell : s.cell n = some cell) :
    (∃ m ∈ n :: rest, s.Reaches m x) ↔
      x = n ∨ ∃ m ∈ cell.children ++ rest, (s.free n).Reaches m x := by
  have hfree : ∀ m ∈ cell.children ++ rest, ((s.free n).Reaches m x ↔ s.Reaches m x) :=
    fun m hm => reaches_free_iff (h.orphan n List.mem_cons_self) (h.ne_of_mem hcell hm)
  constructor
  · rintro ⟨m, hm, hx⟩
    obtain rfl | hm := List.mem_cons.mp hm
    · obtain rfl | ⟨c, hc, hcx⟩ := (NodeStore.reaches_iff hcell).mp hx
      · exact .inl rfl
      · have hmem := List.mem_append_left rest hc
        exact .inr ⟨c, hmem, (hfree c hmem).mpr hcx⟩
    · have hmem := List.mem_append_right cell.children hm
      exact .inr ⟨m, hmem, (hfree m hmem).mpr hx⟩
  · rintro (rfl | ⟨m, hm, hx⟩)
    · exact ⟨x, List.mem_cons_self, .refl⟩
    · have hx := (hfree m hm).mp hx
      obtain hc | hm := List.mem_append.mp hm
      · exact ⟨n, List.mem_cons_self, (NodeStore.reaches_iff hcell).mpr (.inr ⟨m, hc, hx⟩)⟩
      · exact ⟨m, List.mem_cons_of_mem n hm, hx⟩

/-- Trees are deleted: every node of them is freed once, no other one changes, and what is left
    is closed. -/
theorem delete_closed (fuel : Nat) (h : s.Closed) (hroots : Roots s work)
    (hfuel : s.allocatedCount ≤ fuel) :
    ∃ t, delete fuel s work = .ok t ∧ t.Closed ∧
      (∀ x, (∃ n ∈ work, s.Reaches n x) → t.cell x = none) ∧
      ∀ x, (¬ ∃ n ∈ work, s.Reaches n x) → t.cell x = s.cell x := by
  induction fuel generalizing s work with
  | zero =>
    cases work with
    | nil => exact ⟨s, rfl, h, (by simp), (by simp)⟩
    | cons n rest =>
      have := allocatedCount_free (hroots.allocated n List.mem_cons_self)
      omega
  | succ fuel ih =>
    cases work with
    | nil => exact ⟨s, rfl, h, (by simp), (by simp)⟩
    | cons n rest =>
      have hn := hroots.allocated n List.mem_cons_self
      have horphan := hroots.orphan n List.mem_cons_self
      obtain ⟨cell, hcell, hread⟩ := hn.read
      have hcount : (s.free n).allocatedCount ≤ fuel := by
        have := allocatedCount_free hn
        omega
      obtain ⟨t, ht, hclosed, hgone, hkept⟩ :=
        ih (h.free horphan) (hroots.free h hcell) hcount
      refine ⟨t, ?_, hclosed, fun x hx => ?_, fun x hx => ?_⟩
      · show (s.read n >>= _) = _
        rw [hread]
        exact ht
      · by_cases hbelow : ∃ m ∈ cell.children ++ rest, (s.free n).Reaches m x
        · exact hgone x hbelow
        · -- The first root itself is freed by this step, and not reached by the rest.
          obtain rfl := ((hroots.reaches_iff hcell).mp hx).resolve_right hbelow
          rw [hkept x hbelow, cell_free, if_pos rfl]
      · obtain ⟨hne, hbelow⟩ := not_or.mp fun hor => hx ((hroots.reaches_iff hcell).mpr hor)
        rw [hkept x hbelow, cell_free, if_neg hne]

end Work

/-- The store `s` without the tree below `n`. -/
structure Pruned (s : NodeStore α) (n : Nat) (t : NodeStore α) : Prop where
  closed : t.Closed
  gone : ∀ x, s.Reaches n x → t.cell x = none
  kept : ∀ x, ¬ s.Reaches n x → t.cell x = s.cell x

theorem delete_pruned (h : s.Closed) (hn : s.Allocated n) (horphan : s.Orphan n) :
    ∃ t, delete s.length s [n] = .ok t ∧ Pruned s n t := by
  have hroots : Roots s [n] := ⟨by simp, by simpa using hn, by simpa using horphan⟩
  obtain ⟨t, ht, hclosed, hgone, hkept⟩ := delete_closed s.length h hroots (List.countP_le_length ..)
  exact ⟨t, ht, hclosed, fun x hx => hgone x (by simpa using hx),
    fun x hx => hkept x (by simpa using hx)⟩

namespace Pruned

theorem child (h : Pruned s n t) (hchild : t.Child p c) : s.Child p c := by
  obtain ⟨cell, hcell, hmem⟩ := hchild
  have hp : ¬ s.Reaches n p := fun hnp => by simp [h.gone p hnp] at hcell
  exact ⟨cell, (h.kept p hp).symm.trans hcell, hmem⟩

theorem allocated (h : Pruned s n t) (hx : s.Allocated x) (hnx : ¬ s.Reaches n x) :
    t.Allocated x :=
  (allocated_congr (h.kept x hnx)).mpr hx

theorem orphan (h : Pruned s n t) (hx : s.Orphan x) : t.Orphan x :=
  fun p hchild => hx p (h.child hchild)

theorem reaches (h : Pruned s n t) (hx : s.Reaches p x) (hnx : ¬ s.Reaches n x) :
    t.Reaches p x := by
  induction hx with
  | refl => exact .refl
  | @tail y z _ hchild ih =>
    have hny : ¬ s.Reaches n y := fun hny => hnx (hny.tail hchild)
    exact (ih hny).tail ((child_congr (h.kept y hny)).mpr hchild)

end Pruned

end NodeStore

end Lib
