import Mathlib.Data.List.Nodup
import RtMessage.DataProvider.GetSafety

/- The tree of the object model.

   The parent of an object is the one whose name is left when its own is trimmed at the last
   dot. A name without a dot is left as it is, so its object is its own parent and no root. If
   every name has a dot, trimming shortens it, and the objects are a forest. The lines of
   `printTree` are put together in a buffer of 200 bytes, in which each object has to fit behind
   a blank for each object above it. -/
namespace RtMessage.DataProvider

/-- `p` has the name of `o` without its last token. -/
def NamedBelow (p o : DmProviderInfo) : Prop :=
  ∃ last, dot ∉ last ∧ o.objectName = p.objectName ++ dot :: last

def ProviderTree.HasParent (t : ProviderTree) (o p : DmProviderInfo) : Prop :=
  t.parent o.objectName = some p

structure Forest (db : ModelDb) (t : ProviderTree) : Prop where
  acyclic : ∀ o ∈ db.objects, ¬ Relation.TransGen t.HasParent o o
  rooted : ∀ o ∈ db.objects, ∃ r ∈ t.roots.objects, Relation.ReflTransGen t.HasParent o r
  children : ∀ o ∈ db.objects, o ∉ t.roots.objects →
    ∃ p ∈ db.objects, NamedBelow p o ∧
      ((t.children p.objectName).map (·.objectName)).count o.objectName = 1 ∧
      ∀ q ∈ db.objects, q ≠ p → o ∉ t.children q.objectName
  roots : ∀ o, o ∈ t.roots.objects ↔ o ∈ db.objects ∧ ¬ ∃ p ∈ db.objects, NamedBelow p o

/-- After a construction the objects are a forest, and every get comes to an end. -/
def ConstructsForest (db : ModelDb) : Prop :=
  ∃ fuel t, buildProviderTree fuel db {} = .ok t ∧ Forest db t ∧
    ∀ (text : FloatText) (answers : List Nat → Bytes → DmQueryResult) (recursive : Bool)
      (c : GetEnv.Call), ∃ fuel,
      GetEnv.runGet { db, tree := t, text, answers, recursive } fuel c ≠ .error .outOfFuel

/-- The objects above `o` number `k` or more. -/
def Above (db : ModelDb) (o : DmProviderInfo) (k : Nat) : Prop :=
  ∀ i < k, (db.find (trimProperty^[i+1] o.objectName)).isSome

/-- Every name has a dot, and fits into its line of the printed tree. -/
def Printable (db : ModelDb) : Prop :=
  ∀ o ∈ db.objects, dot ∈ o.objectName ∧ ∀ k, Above db o k → o.objectName.length + k < 200

/-! Parents. -/

section Parents
variable {db : ModelDb} {o p q r : DmProviderInfo} {s : Bytes} {k : Nat}

theorem NamedBelow.trim (h : NamedBelow p o) : trimProperty o.objectName = p.objectName := by
  obtain ⟨last, hlast, hname⟩ := h
  rw [hname, trimProperty_append _ hlast]

theorem namedBelow_of_find (hdot : dot ∈ o.objectName)
    (hp : db.find (trimProperty o.objectName) = some p) : NamedBelow p o := by
  obtain ⟨last, hlast, hname⟩ := trimProperty_of_mem hdot
  exact ⟨last, hlast, by rw [ModelDb.find_name hp, ← hname]⟩

theorem firstTree_hasParent : (firstTree db).HasParent o p ↔
    o.objectName ∈ db.objects.map (·.objectName) ∧
      db.find (trimProperty o.objectName) = some p := by
  rw [ProviderTree.HasParent, firstTree, linked_parent]
  by_cases hmem : o.objectName ∈ db.objects.map (·.objectName)
  · rw [if_pos hmem, Option.or_none]
    simp [hmem]
  · rw [if_neg hmem]
    constructor
    · intro h
      cases h
    · intro h
      exact absurd h.1 hmem

theorem hasParent_length_lt (hdots : ∀ o ∈ db.objects, dot ∈ o.objectName)
    (h : (firstTree db).HasParent o p) : p.objectName.length < o.objectName.length := by
  obtain ⟨hmem, hp⟩ := firstTree_hasParent.mp h
  obtain ⟨x, hx, hname⟩ := List.mem_map.mp hmem
  rw [ModelDb.find_name hp]
  exact trimProperty_length_lt (hname ▸ hdots x hx)

theorem ancestor_length_lt (hdots : ∀ o ∈ db.objects, dot ∈ o.objectName)
    (h : Relation.TransGen (firstTree db).HasParent o p) :
    p.objectName.length < o.objectName.length := by
  induction h with
  | single h => exact hasParent_length_lt hdots h
  | tail _ h ih => exact Nat.lt_trans (hasParent_length_lt hdots h) ih

theorem reaches_root (hdots : ∀ o ∈ db.objects, dot ∈ o.objectName) (ho : o ∈ db.objects) :
    ∃ r ∈ (firstTree db).roots.objects,
      Relation.ReflTransGen (firstTree db).HasParent o r := by
  induction hn : o.objectName.length using Nat.strong_induction_on generalizing o with
  | _ n ih =>
    cases hp : db.find (trimProperty o.objectName) with
    | none => exact ⟨o, mem_firstTree_roots.mpr ⟨ho, hp⟩, .refl⟩
    | some p =>
      have hparent : (firstTree db).HasParent o p :=
        firstTree_hasParent.mpr ⟨List.mem_map_of_mem ho, hp⟩
      have hlt := hasParent_length_lt hdots hparent
      obtain ⟨r, hr, hpr⟩ := ih _ (hn ▸ hlt) (ModelDb.find_mem hp) rfl
      exact ⟨r, hr, hpr.head hparent⟩

theorem names_nodup (db : ModelDb) : (db.objects.map (·.objectName)).Nodup := by
  refine List.pairwise_map.mpr (db.sorted.imp fun hlt heq => ?_)
  rw [heq] at hlt
  exact List.lt_irrefl _ hlt

theorem mem_firstTree_children : o ∈ (firstTree db).children s ↔
    o ∈ db.objects ∧ trimProperty o.objectName = s ∧ (db.find s).isSome := by
  rw [firstTree_children, mem_childrenOf]

theorem childrenOf_names_nodup (db : ModelDb) (s : Bytes) :
    ((childrenOf db db.objects s).map (·.objectName)).Nodup := by
  rw [childrenOf]
  split
  · exact (names_nodup db).sublist (List.filter_sublist.map _)
  · exact List.nodup_nil

theorem child_once (ho : o ∈ (firstTree db).children s) :
    (((firstTree db).children s).map (·.objectName)).count o.objectName = 1 := by
  refine List.count_eq_one_of_mem ?_ (List.mem_map_of_mem ho)
  rw [firstTree_children]
  exact childrenOf_names_nodup db s

theorem forest_firstTree (hdots : ∀ o ∈ db.objects, dot ∈ o.objectName) :
    Forest db (firstTree db) where
  acyclic o ho hcycle := Nat.lt_irrefl _ (ancestor_length_lt hdots hcycle)
  rooted o ho := reaches_root hdots ho
  children o ho hroot := by
    cases hp : db.find (trimProperty o.objectName) with
    | none => exact absurd (mem_firstTree_roots.mpr ⟨ho, hp⟩) hroot
    | some p =>
      have hname : p.objectName = trimProperty o.objectName := ModelDb.find_name hp
      refine ⟨p, ModelDb.find_mem hp, namedBelow_of_find (hdots o ho) hp, ?_, fun q hq hne hmem => ?_⟩
      · apply child_once
        exact mem_firstTree_children.mpr ⟨ho, hname.symm, by rw [hname, hp]; rfl⟩
      · have hother := (mem_firstTree_children.mp hmem).2.1
        rw [hother, ModelDb.find_of_mem hq] at hp
        exact hne (Option.some.inj hp)
  roots o := by
    rw [mem_firstTree_roots]
    refine and_congr_right fun ho => ⟨fun hnone hp => ?_, fun hnot => ?_⟩
    · obtain ⟨p, hp, hbelow⟩ := hp
      rw [hbelow.trim, ModelDb.find_of_mem hp] at hnone
      cases hnone
    · cases hp : db.find (trimProperty o.objectName) with
      | none => rfl
      | some p => exact absurd ⟨p, ModelDb.find_mem hp, namedBelow_of_find (hdots o ho) hp⟩ hnot

/-- Without a dot in its name an object is its own parent. -/
theorem dot_mem_of_acyclic (h : ∀ o ∈ db.objects, ¬ Relation.TransGen (firstTree db).HasParent o o)
    (ho : o ∈ db.objects) : dot ∈ o.objectName := by
  by_contra hdot
  refine h o ho (.single (firstTree_hasParent.mpr ⟨List.mem_map_of_mem ho, ?_⟩))
  rw [trimProperty_of_not_mem hdot, ModelDb.find_of_mem ho]

end Parents

/-! The printed lines. -/

/-- `o` is `k` levels below `p`. -/
inductive Descends (t : ProviderTree) : DmProviderInfo → Nat → DmProviderInfo → Prop where
  | refl {p : DmProviderInfo} : Descends t p 0 p
  | head {p c o : DmProviderInfo} {k : Nat} (hc : c ∈ t.children p.objectName)
      (h : Descends t c k o) : Descends t p (k + 1) o

section Printing
variable {db : ModelDb} {t : ProviderTree} {o p r c : DmProviderInfo} {k depth fuel : Nat}

theorem Descends.tail (h : Descends t p k o) (hc : c ∈ t.children o.objectName) :
    Descends t p (k + 1) c := by
  induction h with
  | refl => exact .head hc .refl
  | head hfirst _ ih => exact .head hfirst (ih hc)

theorem forM_ok {α : Type} {f : α → Except Fault Unit} {as : List α} :
    as.forM f = .ok () ↔ ∀ a ∈ as, f a = .ok () := by
  induction as with
  | nil => simp [List.forM_eq_forM]
  | cons a as ih =>
    rw [List.forM_eq_forM] at ih ⊢
    rw [List.forM_cons, bind_eq_ok, List.forall_mem_cons, ← ih]
    constructor
    · intro h
      obtain ⟨_, hfirst, hrest⟩ := h
      exact ⟨hfirst, hrest⟩
    · intro h
      exact ⟨(), h.1, h.2⟩

theorem printTree_fits (h : Descends t p k o) (hprint : printTree t fuel p depth = .ok ()) :
    depth + k + o.objectName.length < 200 := by
  induction h generalizing fuel depth with
  | refl =>
    cases fuel with
    | zero => cases hprint
    | succ fuel =>
      rw [printTree] at hprint
      split at hprint
      · cases hprint
      · omega
  | head hc _ ih =>
    cases fuel with
    | zero => cases hprint
    | succ fuel =>
      rw [printTree] at hprint
      split at hprint
      · cases hprint
      · have hfits := ih (forM_ok.mp hprint _ hc)
        omega

/-- If all lines below `p` fit, they are not more than 200 levels. -/
theorem printTree_ok (hfuel : 200 ≤ fuel + depth)
    (h : ∀ k o, Descends t p k o → depth + k + o.objectName.length < 200) :
    printTree t fuel p depth = .ok () := by
  induction fuel generalizing p depth with
  | zero =>
    have hline := h 0 p .refl
    omega
  | succ fuel ih =>
    have hline := h 0 p .refl
    rw [printTree, if_neg (by omega)]
    refine forM_ok.mpr fun c hc => ih (by omega) fun k o hko => ?_
    have hbelow := h (k + 1) o (.head hc hko)
    omega

theorem Descends.above (h : Descends (firstTree db) p k o) (hp : p ∈ db.objects) :
    o ∈ db.objects ∧ trimProperty^[k] o.objectName = p.objectName ∧ Above db o k := by
  induction h with
  | refl => exact ⟨hp, rfl, fun i hi => absurd hi (Nat.not_lt_zero i)⟩
  | @head p c o k hc _ ih =>
    obtain ⟨hmem, htrim, _⟩ := mem_firstTree_children.mp hc
    obtain ⟨ho, hiter, habove⟩ := ih hmem
    have hstep : trimProperty^[k+1] o.objectName = p.objectName := by
      rw [Function.iterate_succ_apply', hiter, htrim]
    refine ⟨ho, hstep, fun i hi => ?_⟩
    by_cases hlast : i = k
    · rw [hlast, hstep, ModelDb.find_of_mem hp]
      rfl
    · exact habove i (by omega)

theorem exists_root_above (hdots : ∀ o ∈ db.objects, dot ∈ o.objectName) (ho : o ∈ db.objects) :
    ∃ r ∈ (firstTree db).roots.objects, ∃ m, Descends (firstTree db) r m o ∧
      ∀ k, Above db o k → k ≤ m := by
  induction hn : o.objectName.length using Nat.strong_induction_on generalizing o with
  | _ n ih =>
    cases hp : db.find (trimProperty o.objectName) with
    | none =>
      refine ⟨o, mem_firstTree_roots.mpr ⟨ho, hp⟩, 0, .refl, fun k hk => ?_⟩
      by_contra hpos
      have hfirst := hk 0 (by omega)
      rw [Function.iterate_one, hp] at hfirst
      cases hfirst
    | some p =>
      have hname : p.objectName = trimProperty o.objectName := ModelDb.find_name hp
      have hlt : p.objectName.length < n := by
        rw [hname, ← hn]
        exact trimProperty_length_lt (hdots o ho)
      obtain ⟨r, hr, m, hm, hdeep⟩ := ih _ hlt (ModelDb.find_mem hp) rfl
      refine ⟨r, hr, m + 1, hm.tail ?_, fun k hk => ?_⟩
      · exact mem_firstTree_children.mpr ⟨ho, hname.symm, by rw [hname, hp]; rfl⟩
      · cases k with
        | zero => exact Nat.zero_le _
        | succ k =>
          refine Nat.succ_le_succ (hdeep k fun i hi => ?_)
          have hnext := hk (i + 1) (by omega)
          rwa [Function.iterate_succ_apply, ← hname] at hnext

theorem buildProviderTree_ok {t : ProviderTree} : buildProviderTree fuel db {} = .ok t ↔
    t = firstTree db ∧
      ∀ r ∈ (firstTree db).roots.objects, printTree (firstTree db) fuel r 0 = .ok () := by
  rw [buildProviderTree]
  change ((firstTree db).roots.objects.forM fun p => printTree (firstTree db) fuel p 0) >>= _ = _ ↔ _
  rw [bind_eq_ok, ← forM_ok]
  constructor
  · intro h
    obtain ⟨_, hprint, ht⟩ := h
    exact ⟨(Except.ok.inj ht).symm, hprint⟩
  · intro h
    exact ⟨(), h.2, by rw [h.1]; rfl⟩

theorem printable_of_printed (hdots : ∀ o ∈ db.objects, dot ∈ o.objectName)
    (hprint : ∀ r ∈ (firstTree db).roots.objects, printTree (firstTree db) fuel r 0 = .ok ()) :
    Printable db := by
  intro o ho
  refine ⟨hdots o ho, fun k hk => ?_⟩
  obtain ⟨r, hr, m, hm, hdeep⟩ := exists_root_above hdots ho
  have hfits := printTree_fits hm (hprint r hr)
  have hle := hdeep k hk
  omega

theorem printed_of_printable (h : Printable db) (hr : r ∈ (firstTree db).roots.objects) :
    printTree (firstTree db) 200 r 0 = .ok () := by
  refine printTree_ok (Nat.le_refl _) fun k o hko => ?_
  obtain ⟨ho, _, habove⟩ := hko.above (mem_firstTree_roots.mp hr).1
  have hline := (h o ho).2 k habove
  omega

end Printing

/-- A construction makes a forest exactly if every name has a dot and fits into its line. -/
theorem constructs_forest_iff (db : ModelDb) (hnames : ∀ o ∈ db.objects, o.objectName ≠ []) :
    ConstructsForest db ↔ Printable db := by
  constructor
  · intro h
    obtain ⟨fuel, t, hbuild, hforest, _⟩ := h
    obtain ⟨rfl, hprint⟩ := buildProviderTree_ok.mp hbuild
    exact printable_of_printed (fun o ho => dot_mem_of_acyclic hforest.acyclic ho) hprint
  · intro h
    refine ⟨200, firstTree db, ?_, forest_firstTree fun o ho => (h o ho).1, ?_⟩
    · exact buildProviderTree_ok.mpr ⟨rfl, fun r hr => printed_of_printable h hr⟩
    · intro text answers recursive c
      exact GetEnv.get_ends hnames c

theorem constructs_forest_iff_example : ConstructsForest wifiDb ↔ Printable wifiDb :=
  constructs_forest_iff wifiDb (by decide)

/-- The object `F` is its own parent. -/
theorem dotless_name_cycles :
    ¬ ∀ db : ModelDb, (∀ o ∈ db.objects, o.objectName ≠ []) → ConstructsForest db := by
  intro h
  obtain ⟨fuel, t, hbuild, hforest, _⟩ := h fanDb (by decide)
  obtain ⟨rfl, _⟩ := buildProviderTree_ok.mp hbuild
  have hdot := dot_mem_of_acyclic hforest.acyclic (o := fanInfo) List.mem_cons_self
  exact absurd hdot (by decide)

end RtMessage.DataProvider
