import RtMessage.DataProvider.Forest

/- Several databases in one process.

   `model_db` and `model_roots` are shared by the databases of a process, and each construction
   loads the files and builds the tree again. The map does not change, nor do the roots and the
   parents, but each construction appends the children of every object once more. -/
namespace RtMessage.DataProvider

/-- The shared map, and its tree. -/
abbrev Process := ModelDb × ProviderTree

def startProcess : Process := (⟨[], ModelDb.sorted_nil⟩, {})

/-- `dmProviderDatabase::dmProviderDatabase`; `files` are what `readdir` gives. -/
def constructDatabase (J : CJsonLib) (fuel : Nat) (s : Process) (files : List Bytes) :
    Except Fault Process := do
  let db ← loadFromDir J s.1 files
  let t ← buildProviderTree fuel db s.2
  .ok (db, t)

/-- One construction after the other. -/
def constructDatabases (J : CJsonLib) (fuel : Nat) (s : Process) (readdirs : List (List Bytes)) :
    Except Fault Process :=
  readdirs.foldlM (constructDatabase J fuel) s

/-- One of the files is an object of the name. -/
def Loads (J : CJsonLib) (files : List Bytes) (n : Bytes) : Prop :=
  ∃ f ∈ files, ∃ info, makeProviderInfo J (cstr f) = .ok (some info) ∧ info.objectName = n

/-- No object of the files is the parent of another or of itself. -/
def NoParents (J : CJsonLib) (files : List Bytes) : Prop :=
  ∀ n, Loads J files n → ¬ Loads J files (trimProperty n)

/-! The map. -/

section Loading
variable {J : CJsonLib} {db db' : ModelDb} {info o : DmProviderInfo} {os : List DmProviderInfo}
  {files files' : List Bytes} {f n : Bytes}

theorem ModelDb.find_isSome : (db.find n).isSome ↔ ∃ o ∈ db.objects, o.objectName = n := by
  rw [ModelDb.find, List.find?_isSome]
  simp only [beq_iff_eq]

theorem mem_insertInfo_of_mem (h : o ∈ os) : o ∈ ModelDb.insertInfo info os := by
  induction os with
  | nil => cases h
  | cons x os ih =>
    unfold ModelDb.insertInfo
    split
    · exact List.mem_cons_of_mem info h
    · split
      · exact h
      · cases List.mem_cons.mp h with
        | inl heq => exact heq ▸ List.mem_cons_self
        | inr hmem => exact List.mem_cons_of_mem x (ih hmem)

theorem exists_insertInfo (info : DmProviderInfo) (os : List DmProviderInfo) :
    ∃ o ∈ ModelDb.insertInfo info os, o.objectName = info.objectName := by
  induction os with
  | nil => exact ⟨info, List.mem_cons_self, rfl⟩
  | cons x os ih =>
    unfold ModelDb.insertInfo
    split
    · exact ⟨info, List.mem_cons_self, rfl⟩
    · split
      · next heq => exact ⟨x, List.mem_cons_self, heq.symm⟩
      · obtain ⟨o, ho, hname⟩ := ih
        exact ⟨o, List.mem_cons_of_mem x ho, hname⟩

theorem find_insert :
    ((db.insert info).find n).isSome ↔ (db.find n).isSome ∨ info.objectName = n := by
  rw [ModelDb.find_isSome, ModelDb.find_isSome]
  constructor
  · intro h
    obtain ⟨o, ho, hname⟩ := h
    cases ModelDb.mem_insertInfo ho with
    | inl heq => exact .inr (heq ▸ hname)
    | inr hmem => exact .inl ⟨o, hmem, hname⟩
  · intro h
    cases h with
    | inl hold =>
      obtain ⟨o, ho, hname⟩ := hold
      exact ⟨o, mem_insertInfo_of_mem ho, hname⟩
    | inr hnew => exact hnew ▸ exists_insertInfo info db.objects

/-- A name that is there already is not inserted again. -/
theorem insertInfo_present (hsorted : os.Pairwise fun a b => a.objectName < b.objectName)
    (h : ∃ o ∈ os, o.objectName = info.objectName) : ModelDb.insertInfo info os = os := by
  induction os with
  | nil =>
    obtain ⟨o, ho, _⟩ := h
    cases ho
  | cons x os ih =>
    obtain ⟨hhead, htail⟩ := List.pairwise_cons.mp hsorted
    obtain ⟨o, ho, hname⟩ := h
    rw [ModelDb.insertInfo]
    cases List.mem_cons.mp ho with
    | inl heq =>
      rw [heq] at hname
      rw [if_neg (hname ▸ List.lt_irrefl _), if_pos hname.symm]
    | inr hmem =>
      have hlt : x.objectName < info.objectName := hname ▸ hhead o hmem
      have hne : ¬ info.objectName = x.objectName := fun heq => List.lt_irrefl _ (heq ▸ hlt)
      rw [if_neg fun hback => List.lt_asymm hlt hback, if_neg hne, ih htail ⟨o, hmem, hname⟩]

theorem insert_present (h : (db.find info.objectName).isSome) : db.insert info = db := by
  have hsame : ModelDb.insertInfo info db.objects = db.objects :=
    insertInfo_present db.sorted (ModelDb.find_isSome.mp h)
  cases db with
  | mk objects sorted =>
    unfold ModelDb.insert
    congr

theorem loadFile_eq : loadFile J db f = (makeProviderInfo J (cstr f)).map fun info =>
    info.elim db db.insert := by
  rw [loadFile]
  cases makeProviderInfo J (cstr f) with
  | error e => rfl
  | ok info =>
    cases info with
    | none => rfl
    | some info => rfl

theorem loadFromDir_cons (h : loadFromDir J db (f :: files) = .ok db') :
    ∃ db₁, loadFile J db f = .ok db₁ ∧ loadFromDir J db₁ files = .ok db' := by
  rw [loadFromDir, List.foldlM_cons] at h
  exact bind_eq_ok.mp h

theorem loaded_names (h : loadFromDir J db files = .ok db') :
    (db'.find n).isSome ↔ (db.find n).isSome ∨ Loads J files n := by
  induction files generalizing db with
  | nil =>
    obtain rfl := Except.ok.inj h
    constructor
    · exact .inl
    · intro hn
      refine hn.resolve_right fun hloads => ?_
      obtain ⟨f, hf, _⟩ := hloads
      cases hf
  | cons f files ih =>
    obtain ⟨db₁, hfile, hrest⟩ := loadFromDir_cons h
    have hcons : Loads J (f :: files) n ↔
        (∃ info, makeProviderInfo J (cstr f) = .ok (some info) ∧ info.objectName = n) ∨
          Loads J files n := by
      simp only [Loads, List.mem_cons, exists_eq_or_imp]
    rw [ih hrest, hcons, ← or_assoc]
    apply or_congr_left
    rw [loadFile_eq] at hfile
    cases hinfo : makeProviderInfo J (cstr f) with
    | error e =>
      rw [hinfo] at hfile
      cases hfile
    | ok info =>
      rw [hinfo] at hfile
      obtain rfl := Except.ok.inj hfile
      cases info with
      | none => simp
      | some info => simp [find_insert]

theorem readable_of_loaded (h : loadFromDir J db files = .ok db') (hf : f ∈ files) :
    ∃ info, makeProviderInfo J (cstr f) = .ok info := by
  induction files generalizing db with
  | nil => cases hf
  | cons g files ih =>
    obtain ⟨db₁, hfile, hrest⟩ := loadFromDir_cons h
    cases List.mem_cons.mp hf with
    | inl heq =>
      subst heq
      rw [loadFile_eq] at hfile
      cases hinfo : makeProviderInfo J (cstr f) with
      | error e =>
        rw [hinfo] at hfile
        cases hfile
      | ok info => exact ⟨info, rfl⟩
    | inr hmem => exact ih hrest hmem

/-- The same files in any order change nothing any more. -/
theorem load_again (h : loadFromDir J db files = .ok db') (hfiles : ∀ f ∈ files', f ∈ files) :
    loadFromDir J db' files' = .ok db' := by
  induction files' with
  | nil => rfl
  | cons f files' ih =>
    have hf := hfiles f List.mem_cons_self
    obtain ⟨info, hinfo⟩ := readable_of_loaded h hf
    have hsame : loadFile J db' f = .ok db' := by
      rw [loadFile_eq, hinfo]
      cases info with
      | none => rfl
      | some info =>
        have hloads : Loads J files info.objectName := ⟨f, hf, info, hinfo, rfl⟩
        exact congrArg Except.ok (insert_present ((loaded_names h).mpr (.inr hloads)))
    rw [loadFromDir, List.foldlM_cons, hsame]
    exact ih fun g hg => hfiles g (List.mem_cons_of_mem f hg)

end Loading

/-! The tree. -/

/-- The tree after `k` constructions. -/
def constructedTree (db : ModelDb) (k : Nat) : ProviderTree :=
  { firstTree db with
    children := fun n => (List.replicate k (childrenOf db db.objects n)).flatten }

section Trees
variable {J : CJsonLib} {db : ModelDb} {t t' : ProviderTree} {o p : DmProviderInfo}
  {os : List DmProviderInfo} {files : List Bytes} {n : Bytes} {fuel k : Nat}

theorem constructedTree_one (db : ModelDb) : constructedTree db 1 = firstTree db := by
  have hchildren : (fun n => (List.replicate 1 (childrenOf db db.objects n)).flatten) =
      (firstTree db).children := by
    funext n
    rw [firstTree_children, List.replicate_one, List.flatten_singleton]
  rw [constructedTree, hchildren]

theorem linked_roots_again (os : List DmProviderInfo) (t : ProviderTree)
    (h : ∀ o ∈ os, db.find (trimProperty o.objectName) = none → (t.roots.find o.objectName).isSome) :
    (os.foldl (linkObject db) t).roots = t.roots := by
  induction os generalizing t with
  | nil => rfl
  | cons o os ih =>
    have hsame : (linkObject db t o).roots = t.roots := by
      cases hp : db.find (trimProperty o.objectName) with
      | none =>
        rw [linkObject_none hp]
        exact insert_present (h o List.mem_cons_self hp)
      | some p => rw [linkObject_some hp]
    rw [List.foldl_cons, ih, hsame]
    intro x hx hnone
    rw [hsame]
    exact h x (List.mem_cons_of_mem o hx) hnone

/-- Linking once more appends the children once more. -/
theorem link_again (db : ModelDb) (k : Nat) :
    db.objects.foldl (linkObject db) (constructedTree db k) = constructedTree db (k + 1) := by
  have hparent : (db.objects.foldl (linkObject db) (constructedTree db k)).parent =
      (firstTree db).parent := by
    funext n
    have hfirst := @linked_parent db n db.objects {}
    rw [linked_parent]
    split
    · next hmem =>
      rw [if_pos hmem] at hfirst
      change _ = (db.objects.foldl (linkObject db) {}).parent n
      rw [hfirst, Option.or_none]
      change (db.find (trimProperty n)).or ((db.objects.foldl (linkObject db) {}).parent n) = _
      rw [hfirst, Option.or_none, Option.or_self]
    · rfl
  have hchildren : (db.objects.foldl (linkObject db) (constructedTree db k)).children =
      fun n => (List.replicate (k + 1) (childrenOf db db.objects n)).flatten := by
    funext n
    rw [linked_children, List.replicate_succ', List.flatten_concat]
    rfl
  have hroots : (db.objects.foldl (linkObject db) (constructedTree db k)).roots =
      (firstTree db).roots := by
    apply linked_roots_again
    intro o ho hnone
    exact ModelDb.find_isSome.mpr ⟨o, mem_firstTree_roots.mpr ⟨ho, hnone⟩, rfl⟩
  calc db.objects.foldl (linkObject db) (constructedTree db k)
      = ⟨(db.objects.foldl (linkObject db) (constructedTree db k)).parent,
          (db.objects.foldl (linkObject db) (constructedTree db k)).children,
          (db.objects.foldl (linkObject db) (constructedTree db k)).roots⟩ := rfl
    _ = constructedTree db (k + 1) := by rw [hparent, hchildren, hroots, constructedTree]

theorem printTree_again (hsub : ∀ n, t'.children n ⊆ t.children n) {depth : Nat}
    (h : printTree t fuel p depth = .ok ()) : printTree t' fuel p depth = .ok () := by
  induction fuel generalizing p depth with
  | zero => cases h
  | succ fuel ih =>
    rw [printTree] at h ⊢
    split
    · next hlong =>
      rw [if_pos hlong] at h
      cases h
    · next hfits =>
      rw [if_neg hfits] at h
      apply forM_ok.mpr
      intro c hc
      exact ih (forM_ok.mp h c (hsub _ hc))

theorem children_again (db : ModelDb) (k : Nat) (n : Bytes) :
    (constructedTree db k).children n ⊆ (firstTree db).children n := by
  intro c hc
  obtain ⟨l, hl, hmem⟩ := List.mem_flatten.mp hc
  rw [firstTree_children, ← (List.mem_replicate.mp hl).2]
  exact hmem

theorem constructed_first (h : constructDatabase J fuel startProcess files = .ok (db, t)) :
    loadFromDir J startProcess.1 files = .ok db ∧ t = firstTree db ∧
      ∀ r ∈ (firstTree db).roots.objects, printTree (firstTree db) fuel r 0 = .ok () := by
  unfold constructDatabase at h
  obtain ⟨db₁, hload, hrest⟩ := bind_eq_ok.mp h
  obtain ⟨t₁, hbuild, hpair⟩ := bind_eq_ok.mp hrest
  obtain ⟨rfl, rfl⟩ := Prod.mk.inj (Except.ok.inj hpair)
  exact ⟨hload, buildProviderTree_ok.mp hbuild⟩

theorem construct_again {readdir : List Bytes} (hload : loadFromDir J startProcess.1 files = .ok db)
    (hprint : ∀ r ∈ (firstTree db).roots.objects, printTree (firstTree db) fuel r 0 = .ok ())
    (hfiles : ∀ f ∈ readdir, f ∈ files) (k : Nat) :
    constructDatabase J fuel (db, constructedTree db k) readdir =
      .ok (db, constructedTree db (k + 1)) := by
  have hprinted : ((constructedTree db (k + 1)).roots.objects.forM fun p =>
      printTree (constructedTree db (k + 1)) fuel p 0) = .ok () :=
    forM_ok.mpr fun r hr => printTree_again (children_again db (k + 1)) (hprint r hr)
  rw [constructDatabase, load_again hload hfiles, ok_bind, buildProviderTree]
  dsimp only
  rw [link_again, hprinted]
  rfl

theorem constructs_again (hload : loadFromDir J startProcess.1 files = .ok db)
    (hprint : ∀ r ∈ (firstTree db).roots.objects, printTree (firstTree db) fuel r 0 = .ok ())
    (readdirs : List (List Bytes)) (hfiles : ∀ fs ∈ readdirs, ∀ f ∈ fs, f ∈ files) (k : Nat) :
    constructDatabases J fuel (db, constructedTree db k) readdirs =
      .ok (db, constructedTree db (k + readdirs.length)) := by
  induction readdirs generalizing k with
  | nil => rfl
  | cons readdir readdirs ih =>
    have hstep := construct_again hload hprint (hfiles readdir List.mem_cons_self) k
    rw [constructDatabases, List.foldlM_cons, hstep, ok_bind, ← constructDatabases,
      ih fun fs hfs => hfiles fs (List.mem_cons_of_mem readdir hfs), List.length_cons]
    congr 3
    omega

/-- The objects with a parent are those that some object has as a child. -/
theorem noParents_iff (hload : loadFromDir J startProcess.1 files = .ok db) :
    NoParents J files ↔ ∀ n, childrenOf db db.objects n = [] := by
  have hnames : ∀ n, (db.find n).isSome ↔ Loads J files n := by
    intro n
    rw [loaded_names hload]
    exact or_iff_right fun h => by cases h
  constructor
  · intro h n
    apply List.eq_nil_iff_forall_not_mem.mpr
    intro o ho
    obtain ⟨hmem, rfl, hparent⟩ := mem_childrenOf.mp ho
    have hloads := (hnames o.objectName).mp (ModelDb.find_isSome.mpr ⟨o, hmem, rfl⟩)
    exact h _ hloads ((hnames _).mp hparent)
  · intro h n hn hparent
    obtain ⟨o, hmem, rfl⟩ := ModelDb.find_isSome.mp ((hnames n).mpr hn)
    have hchild : o ∈ childrenOf db db.objects (trimProperty o.objectName) :=
      mem_childrenOf.mpr ⟨hmem, rfl, (hnames _).mpr hparent⟩
    rw [h] at hchild
    cases hchild

end Trees

/-- Further constructions over the files, which `readdir` may give in any order, change nothing
    exactly if there are none, or no object has a child. -/
theorem construct_again_iff (J : CJsonLib) (fuel : Nat) (files : List Bytes)
    (readdirs : List (List Bytes)) (db : ModelDb) (t : ProviderTree)
    (h : constructDatabase J fuel startProcess files = .ok (db, t))
    (hfiles : ∀ fs ∈ readdirs, fs.Perm files) :
    constructDatabases J fuel (db, t) readdirs = .ok (db, t) ↔ readdirs = [] ∨ NoParents J files := by
  obtain ⟨hload, rfl, hprint⟩ := constructed_first h
  have hruns := constructs_again hload hprint readdirs
    (fun fs hfs f hf => (hfiles fs hfs).subset hf) 1
  rw [constructedTree_one] at hruns
  rw [hruns, noParents_iff hload]
  constructor
  · intro heq
    have htrees := (Prod.mk.inj (Except.ok.inj heq)).2
    by_cases hmore : readdirs = []
    · exact .inl hmore
    · right
      intro n
      have hlen := congrArg (fun t : ProviderTree => (t.children n).length) htrees
      have hpos : 0 < readdirs.length := List.length_pos_of_ne_nil hmore
      simp only [constructedTree, firstTree_children, List.length_flatten, List.map_replicate,
        List.sum_replicate_nat] at hlen
      apply List.eq_nil_of_length_eq_zero
      rw [Nat.add_mul, Nat.one_mul] at hlen
      have hzero : readdirs.length * (childrenOf db db.objects n).length = 0 := by omega
      exact (Nat.mul_eq_zero.mp hzero).resolve_left (by omega)
  · intro hcases
    have hsame : constructedTree db (1 + readdirs.length) = firstTree db := by
      cases hcases with
      | inl hnone => rw [hnone, List.length_nil, Nat.add_zero, constructedTree_one]
      | inr hchildren =>
        rw [← constructedTree_one]
        simp [constructedTree, hchildren]
    rw [hsame]

/-! An object and one below it. -/

def fileOf (name : Bytes) : Bytes := ascii "\x7b\"name\":\"" ++ name ++ ascii "\"\x7d"

def jsonOf (name : Bytes) : CJson := .object [(ascii "name", .string name)]

/-- A library that knows two files. -/
def modelLib : CJsonLib where
  parse text :=
    if text = fileOf (ascii "A.B") then some (jsonOf (ascii "A.B"))
    else if text = fileOf (ascii "A.B.C") then some (jsonOf (ascii "A.B.C")) else none
  print _ := []

def upperInfo : DmProviderInfo where
  objectName := ascii "A.B"
  providerName := []
  isList := false
  properties := []
  fullNames := by decide

def lowerInfo : DmProviderInfo := { upperInfo with objectName := ascii "A.B.C", fullNames := by decide }

def upperDb : ModelDb := ⟨[upperInfo], by decide⟩

def modelDb : ModelDb := ⟨[upperInfo, lowerInfo], by decide⟩

def modelFiles : List Bytes := [fileOf (ascii "A.B"), fileOf (ascii "A.B.C")]

theorem construct_again_iff_example :
    constructDatabases modelLib 9 (upperDb, firstTree upperDb) [[fileOf (ascii "A.B")]] =
      .ok (upperDb, firstTree upperDb) ↔
    [[fileOf (ascii "A.B")]] = [] ∨ NoParents modelLib [fileOf (ascii "A.B")] :=
  construct_again_iff modelLib 9 [fileOf (ascii "A.B")] [[fileOf (ascii "A.B")]] upperDb
    (firstTree upperDb) rfl (fun fs hfs => by rw [List.mem_singleton.mp hfs])

/-- A second construction gives the object `A.B` its child a second time. -/
theorem children_doubled : ¬ ∀ (J : CJsonLib) (fuel : Nat) (files : List Bytes)
    (readdirs : List (List Bytes)) (db : ModelDb) (t : ProviderTree),
    constructDatabase J fuel startProcess files = .ok (db, t) →
    (∀ fs ∈ readdirs, fs.Perm files) →
    constructDatabases J fuel (db, t) readdirs = .ok (db, t) := by
  intro h
  have hfirst : constructDatabase modelLib 9 startProcess modelFiles =
      .ok (modelDb, firstTree modelDb) := rfl
  have hsecond : constructDatabases modelLib 9 (modelDb, firstTree modelDb) [modelFiles] =
      .ok (modelDb, modelDb.objects.foldl (linkObject modelDb) (firstTree modelDb)) := rfl
  have hagain := h modelLib 9 modelFiles [modelFiles] modelDb (firstTree modelDb) hfirst
    fun fs hfs => by rw [List.mem_singleton.mp hfs]
  have htrees := (Prod.mk.inj (Except.ok.inj (hsecond.symm.trans hagain))).2
  have hlen := congrArg (fun t : ProviderTree => (t.children (ascii "A.B")).length) htrees
  exact absurd hlen (by decide)

end RtMessage.DataProvider
