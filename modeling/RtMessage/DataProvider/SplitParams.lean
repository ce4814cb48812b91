import RtMessage.DataProvider.Utility

/- `splitParams` of `dmcli`: the parameter list of the command line, split at the commas that
   lie outside braces.

   The flag `inbracket` has no initial value, so it is an argument here. In a string whose braces
   are balanced and not nested the scan treats a group in braces as one character; a flag that
   starts out set hides the commas before the first brace. The last piece is kept only if it is
   longer than one byte. -/
namespace RtMessage.DataProvider

/-! The function. -/

/-- `s.substr(pos, n)`, for `pos` in the string. -/
def substr (s : Bytes) (pos n : Nat) : Bytes := (s.drop pos).take n

structure SplitState where
  first : Nat
  inbracket : Bool
  tokens : List Bytes
  deriving DecidableEq, Repr

/-- One turn of the scan: `c` is `params[last]`. -/
def splitTurn (params : Bytes) (last : Nat) (c : UInt8) (s : SplitState) : SplitState :=
  if c = openBrace then { s with inbracket := true }
  else if c = closeBrace then { s with inbracket := false }
  else if c = comma && !s.inbracket then
    { s with tokens := s.tokens ++ [substr params s.first (last - s.first)], first := last + 1 }
  else s

/-- The scan from index `last` on. -/
def splitScan (params : Bytes) : Nat → SplitState → Bytes → SplitState
  | _, s, [] => s
  | last, s, c :: rest => splitScan params (last+1) (splitTurn params last c s) rest

def splitParams (inbracket : Bool) (params : Bytes) (tokens : List Bytes) : List Bytes :=
  let last := params.length
  let s := splitScan params 0 ⟨0, inbracket, tokens⟩ params
  if last - s.first > 1 then s.tokens ++ [substr params s.first (last - s.first)] else s.tokens

/-! The pieces. -/

/-- Braces that are balanced and not nested. -/
inductive Flat : Bytes → Prop where
  | nil : Flat []
  | plain {c : UInt8} {s : Bytes} (hopen : c ≠ openBrace) (hclose : c ≠ closeBrace)
      (hrest : Flat s) : Flat (c :: s)
  | group {inner s : Bytes} (hopen : openBrace ∉ inner) (hclose : closeBrace ∉ inner)
      (hrest : Flat s) : Flat (openBrace :: (inner ++ closeBrace :: s))

theorem Flat.append {x s : Bytes} (hopen : openBrace ∉ x) (hclose : closeBrace ∉ x) (h : Flat s) :
    Flat (x ++ s) := by
  induction x with
  | nil => exact h
  | cons c x ih =>
    simp only [List.mem_cons, not_or] at hopen hclose
    exact .plain (Ne.symm hopen.1) (Ne.symm hclose.1) (ih hopen.2 hclose.2)

def depthAfter (depth : Nat) (c : UInt8) : Nat :=
  if c = openBrace then depth + 1 else if c = closeBrace then depth - 1 else depth

/-- The pieces between the commas outside braces, where `depth` braces are open. -/
def pieces : Nat → Bytes → List Bytes
  | _, [] => [[]]
  | depth, c :: s =>
    if c = comma ∧ depth = 0 then [] :: pieces 0 s
    else (pieces (depthAfter depth c) s).modifyHead (c :: ·)

/-- The last piece. -/
def lastPiece (params : Bytes) : Bytes := (pieces 0 params).getLastD []

/-- The pieces, without an empty last one. -/
def keptPieces (params : Bytes) : List Bytes :=
  if lastPiece params = [] then (pieces 0 params).dropLast else pieces 0 params

/-- What the caller gets are the pieces, and they are joined to the string they came from
    unless the last one is empty. -/
def SplitsExactly (inbracket : Bool) (params : Bytes) : Prop :=
  splitParams inbracket params [] = keptPieces params ∧
    (lastPiece params ≠ [] → [comma].intercalate (splitParams inbracket params []) = params)

theorem pieces_ne_nil (depth : Nat) (s : Bytes) : pieces depth s ≠ [] := by
  induction s generalizing depth with
  | nil => exact List.cons_ne_nil _ _
  | cons c s ih =>
    rw [pieces]
    split
    · exact List.cons_ne_nil _ _
    · rw [ne_eq, List.modifyHead_eq_nil_iff]
      exact ih _

theorem intercalate_pieces (depth : Nat) (s : Bytes) : [comma].intercalate (pieces depth s) = s := by
  induction s generalizing depth with
  | nil => rfl
  | cons c s ih =>
    rw [pieces]
    split
    · next h =>
      rw [List.intercalate_cons_of_ne_nil (pieces_ne_nil 0 s), ih, h.1]
      rfl
    · have hrest := ih (depthAfter depth c)
      obtain ⟨p, ps, hps⟩ := List.exists_cons_of_ne_nil (pieces_ne_nil (depthAfter depth c) s)
      rw [hps] at hrest ⊢
      rw [List.modifyHead_cons, List.intercalate_cons_cons_left, hrest]

section Groups
variable {x s : Bytes}

theorem pieces_plain (hopen : openBrace ∉ x) (hclose : closeBrace ∉ x) (hcomma : comma ∉ x) :
    pieces 0 (x ++ s) = (pieces 0 s).modifyHead (x ++ ·) := by
  induction x with
  | nil =>
    show _ = (pieces 0 s).modifyHead id
    rw [List.modifyHead_id]
    rfl
  | cons c x ih =>
    simp only [List.mem_cons, not_or] at hopen hclose hcomma
    have hdepth : depthAfter 0 c = 0 := by
      simp [depthAfter, Ne.symm hopen.1, Ne.symm hclose.1]
    rw [List.cons_append, pieces, if_neg fun h => hcomma.1 h.1.symm, hdepth,
      ih hopen.2 hclose.2 hcomma.2, List.modifyHead_modifyHead]
    rfl

theorem pieces_inside (hopen : openBrace ∉ x) (hclose : closeBrace ∉ x) :
    pieces 1 (x ++ closeBrace :: s) = (pieces 0 s).modifyHead (x ++ closeBrace :: ·) := by
  induction x with
  | nil => rfl
  | cons c x ih =>
    simp only [List.mem_cons, not_or] at hopen hclose
    have hdepth : depthAfter 1 c = 1 := by
      simp [depthAfter, Ne.symm hopen.1, Ne.symm hclose.1]
    rw [List.cons_append, pieces, if_neg fun h => Nat.one_ne_zero h.2, hdepth, ih hopen.2 hclose.2,
      List.modifyHead_modifyHead]
    rfl

theorem pieces_group (hopen : openBrace ∉ x) (hclose : closeBrace ∉ x) :
    pieces 0 (openBrace :: (x ++ closeBrace :: s)) =
      (pieces 0 s).modifyHead (fun p => openBrace :: (x ++ closeBrace :: p)) := by
  have hstep : pieces 0 (openBrace :: (x ++ closeBrace :: s)) =
      (pieces 1 (x ++ closeBrace :: s)).modifyHead (openBrace :: ·) := rfl
  rw [hstep, pieces_inside hopen hclose, List.modifyHead_modifyHead]
  rfl

end Groups

/-! The scan. -/

section Scan
variable {params x rest : Bytes} {last : Nat} {s : SplitState}

theorem splitScan_pass (hopen : openBrace ∉ x) (hclose : closeBrace ∉ x)
    (hcomma : comma ∉ x ∨ s.inbracket = true) :
    splitScan params last s (x ++ rest) = splitScan params (last + x.length) s rest := by
  induction x generalizing last with
  | nil => rfl
  | cons c x ih =>
    simp only [List.mem_cons, not_or] at hopen hclose hcomma
    have hturn : splitTurn params last c s = s := by
      have hunseen : (c = comma && !s.inbracket) = false := by
        rcases hcomma with h | h
        · simp [Ne.symm h.1]
        · simp [h]
      rw [splitTurn, if_neg (Ne.symm hopen.1), if_neg (Ne.symm hclose.1), hunseen,
        if_neg Bool.false_ne_true]
    rw [List.cons_append, splitScan, hturn, ih hopen.2 hclose.2 (hcomma.imp And.right id),
      List.length_cons]
    congr 1
    omega

theorem splitScan_group (hopen : openBrace ∉ x) (hclose : closeBrace ∉ x)
    (hflag : s.inbracket = false) :
    splitScan params last s (openBrace :: (x ++ closeBrace :: rest)) =
      splitScan params (last + (x.length + 2)) s rest := by
  have hback : splitTurn params (last + 1 + x.length) closeBrace { s with inbracket := true } = s := by
    show { s with inbracket := false } = s
    rw [← hflag]
  calc splitScan params last s (openBrace :: (x ++ closeBrace :: rest))
      = splitScan params (last + 1) { s with inbracket := true } (x ++ closeBrace :: rest) := rfl
    _ = splitScan params (last + 1 + x.length) { s with inbracket := true } (closeBrace :: rest) :=
        splitScan_pass hopen hclose (.inr rfl)
    _ = splitScan params (last + 1 + x.length + 1) s rest := by rw [splitScan, hback]
    _ = splitScan params (last + (x.length + 2)) s rest := by
        congr 1
        omega

/-- **The scan of a string in which braces are flat**, from a place outside them: what it
    collects, and the part it has not yet collected, are the pieces. -/
theorem splitScan_flat (h : Flat rest) {pre : Bytes} (hparams : params = pre ++ rest)
    (hflag : s.inbracket = false) (hfirst : s.first ≤ pre.length) :
    (splitScan params pre.length s rest).first ≤ params.length ∧
      (splitScan params pre.length s rest).tokens ++
          [params.drop (splitScan params pre.length s rest).first] =
        s.tokens ++ (pieces 0 rest).modifyHead (pre.drop s.first ++ ·) := by
  induction h generalizing pre s with
  | nil =>
    rw [hparams, List.append_nil]
    refine ⟨hfirst, ?_⟩
    simp [splitScan, pieces]
  | @plain c rest hopen hclose _ ih =>
    have hlen : (pre ++ [c]).length = pre.length + 1 := by simp
    have hparams' : params = (pre ++ [c]) ++ rest := by simp [hparams]
    by_cases hc : c = comma
    · -- the comma ends a piece, and the next one begins behind it
      subst hc
      have hturn : splitTurn params pre.length comma s =
          ⟨pre.length + 1, false, s.tokens ++ [pre.drop s.first]⟩ := by
        have hpiece : substr params s.first (pre.length - s.first) = pre.drop s.first := by
          rw [substr, hparams, List.drop_append_of_le_length hfirst]
          apply List.take_left'
          simp
        rw [splitTurn, if_neg hopen, if_neg hclose, hflag, hpiece]
        rfl
      have hrest := ih (s := ⟨pre.length + 1, false, s.tokens ++ [pre.drop s.first]⟩) hparams' rfl
        (by simp)
      have hnew : (pre ++ [comma]).drop (pre.length + 1) = [] := by simp
      rw [hlen, hnew] at hrest
      rw [splitScan, hturn]
      refine ⟨hrest.1, hrest.2.trans ?_⟩
      have hid : (pieces 0 rest).modifyHead ([] ++ ·) = pieces 0 rest :=
        congrFun List.modifyHead_id _
      have hpieces : pieces 0 (comma :: rest) = [] :: pieces 0 rest := rfl
      rw [hid, hpieces, List.modifyHead_cons, List.append_nil, List.append_assoc]
      rfl
    · -- any other byte belongs to the piece
      have hturn : splitTurn params pre.length c s = s := by
        rw [splitTurn, if_neg hopen, if_neg hclose]
        simp [hc]
      have hrest := ih (s := s) hparams' hflag (by omega)
      rw [hlen, List.drop_append_of_le_length hfirst] at hrest
      rw [splitScan, hturn]
      refine ⟨hrest.1, hrest.2.trans ?_⟩
      have hpieces : pieces 0 (c :: rest) = (pieces 0 rest).modifyHead (c :: ·) := by
        have hdepth : depthAfter 0 c = 0 := by simp [depthAfter, hopen, hclose]
        rw [pieces, if_neg fun h => hc h.1, hdepth]
      rw [hpieces, List.modifyHead_modifyHead]
      congr 2
      funext p
      show (pre.drop s.first ++ [c]) ++ p = pre.drop s.first ++ c :: p
      rw [List.append_assoc]
      rfl
  | @group inner rest hopen hclose _ ih =>
    -- no comma in a group is seen, so the piece goes on behind it
    have hlen : (pre ++ openBrace :: (inner ++ [closeBrace])).length =
        pre.length + (inner.length + 2) := by simp
    have hparams' : params = (pre ++ openBrace :: (inner ++ [closeBrace])) ++ rest := by
      simp [hparams]
    have hrest := ih (s := s) hparams' hflag (by omega)
    rw [hlen, List.drop_append_of_le_length hfirst] at hrest
    rw [splitScan_group hopen hclose hflag]
    refine ⟨hrest.1, hrest.2.trans ?_⟩
    rw [pieces_group hopen hclose, List.modifyHead_modifyHead]
    congr 2
    funext p
    show (pre.drop s.first ++ openBrace :: (inner ++ [closeBrace])) ++ p =
      pre.drop s.first ++ openBrace :: (inner ++ closeBrace :: p)
    simp

end Scan

/-! The result. -/

section Result
variable {params : Bytes} {tokens : List Bytes}

theorem getLastD_append_singleton {α : Type} (xs : List α) (x d : α) :
    (xs ++ [x]).getLastD d = x := by
  simp [List.getLastD_eq_getLast?]

/-- With the flag cleared the pieces are found, and a last one of one byte is left out too. -/
theorem splitParams_cleared (h : Flat params) (tokens : List Bytes) :
    splitParams false params tokens = tokens ++
      if 1 < (lastPiece params).length then pieces 0 params else (pieces 0 params).dropLast := by
  obtain ⟨hfirst, hscan⟩ := splitScan_flat (s := ⟨0, false, tokens⟩) h (List.nil_append params).symm
    rfl (Nat.le_refl 0)
  have hid : (pieces 0 params).modifyHead (([] : Bytes).drop 0 ++ ·) = pieces 0 params :=
    congrFun List.modifyHead_id _
  rw [hid] at hscan
  generalize ht : splitScan params ([] : Bytes).length ⟨0, false, tokens⟩ params = t at hfirst hscan
  have hpieces : pieces 0 params ≠ [] := pieces_ne_nil 0 params
  have hlast : lastPiece params = params.drop t.first := by
    have hgetLast := congrArg (·.getLastD []) hscan
    dsimp only at hgetLast
    rw [getLastD_append_singleton, ← List.dropLast_concat_getLast hpieces, ← List.append_assoc,
      getLastD_append_singleton] at hgetLast
    rw [hgetLast, lastPiece, List.getLastD_eq_getLast?, List.getLast?_eq_some_getLast hpieces]
    rfl
  have htokens : t.tokens = tokens ++ (pieces 0 params).dropLast := by
    have hdropLast := congrArg List.dropLast hscan
    rw [List.dropLast_concat, List.dropLast_append_of_ne_nil hpieces] at hdropLast
    exact hdropLast
  have hpiece : substr params t.first (params.length - t.first) = params.drop t.first := by
    apply List.take_of_length_le
    rw [List.length_drop]
  have hlen : (lastPiece params).length = params.length - t.first := by
    rw [hlast, List.length_drop]
  rw [splitParams]
  show (if params.length - (splitScan params 0 _ params).first > 1 then _ else _) = _
  rw [show splitScan params 0 ⟨0, false, tokens⟩ params = t from ht, hpiece, hlen]
  by_cases hlong : 1 < params.length - t.first
  · rw [if_pos hlong, if_pos hlong]
    exact hscan
  · rw [if_neg hlong, if_neg hlong]
    exact htokens

/-- What comes before the first brace. -/
def beforeBraces (params : Bytes) : Bytes :=
  params.takeWhile fun c => c ≠ openBrace && c ≠ closeBrace

theorem beforeBraces_free (params : Bytes) :
    openBrace ∉ beforeBraces params ∧ closeBrace ∉ beforeBraces params := by
  constructor
  · intro hmem
    have := List.mem_takeWhile_imp hmem
    simp at this
  · intro hmem
    have := List.mem_takeWhile_imp hmem
    simp at this

/-- Behind it is nothing, or a brace, after which the flag is what it is whatever it was. -/
theorem beforeBraces_rest (params : Bytes) :
    ∃ rest, params = beforeBraces params ++ rest ∧
      (rest = [] ∨ ∃ c rest', rest = c :: rest' ∧ (c = openBrace ∨ c = closeBrace)) := by
  refine ⟨params.dropWhile fun c => c ≠ openBrace && c ≠ closeBrace,
    List.takeWhile_append_dropWhile.symm, ?_⟩
  cases hrest : params.dropWhile fun c => c ≠ openBrace && c ≠ closeBrace with
  | nil => exact .inl rfl
  | cons c rest' =>
    have hc := List.head?_dropWhile_not (fun c => c ≠ openBrace && c ≠ closeBrace) params
    rw [hrest] at hc
    refine .inr ⟨c, rest', rfl, ?_⟩
    by_contra hnot
    rw [not_or] at hnot
    simp [hnot.1, hnot.2] at hc

theorem splitParams_set (hcomma : comma ∉ beforeBraces params) (tokens : List Bytes) :
    splitParams true params tokens = splitParams false params tokens := by
  obtain ⟨hopen, hclose⟩ := beforeBraces_free params
  obtain ⟨rest, hparams, hrest⟩ := beforeBraces_rest params
  have hpass : ∀ flag, splitScan params 0 ⟨0, flag, tokens⟩ params =
      splitScan params (beforeBraces params).length ⟨0, flag, tokens⟩ rest := by
    intro flag
    calc splitScan params 0 ⟨0, flag, tokens⟩ params
        = splitScan params 0 ⟨0, flag, tokens⟩ (beforeBraces params ++ rest) := by
          rw [← hparams]
      _ = splitScan params (0 + (beforeBraces params).length) ⟨0, flag, tokens⟩ rest :=
          splitScan_pass hopen hclose (.inl hcomma)
      _ = splitScan params (beforeBraces params).length ⟨0, flag, tokens⟩ rest := by
          rw [Nat.zero_add]
  rw [splitParams, splitParams, hpass true, hpass false]
  rcases hrest with rfl | ⟨c, rest', rfl, rfl | rfl⟩
  · rfl
  · rfl
  · rfl

/-- The scan has collected nothing since it began with `tokens`, or a first piece of at least
    `n` bytes. -/
def Hides (n : Nat) (tokens : List Bytes) (s : SplitState) : Prop :=
  s.first = 0 ∧ s.tokens = tokens ∨ ∃ t ts, s.tokens = tokens ++ t :: ts ∧ n ≤ t.length

theorem Hides.turn {n last : Nat} {c : UInt8} {s : SplitState} (h : Hides n tokens s)
    (hn : n ≤ last) (hlast : last ≤ params.length) : Hides n tokens (splitTurn params last c s) := by
  rw [splitTurn]
  split
  · exact h
  · split
    · exact h
    · split
      · right
        rcases h with ⟨hfirst, htokens⟩ | ⟨t, ts, htokens, hlen⟩
        · refine ⟨params.take last, [], ?_, ?_⟩
          · rw [htokens, hfirst]
            rfl
          · rw [List.length_take]
            omega
        · refine ⟨t, ts ++ [substr params s.first (last - s.first)], ?_, hlen⟩
          rw [htokens, List.append_assoc]
          rfl
      · exact h

theorem Hides.scan {n last : Nat} {rest : Bytes} {s : SplitState} (h : Hides n tokens s)
    (hn : n ≤ last) (hlast : last + rest.length ≤ params.length) :
    Hides n tokens (splitScan params last s rest) := by
  induction rest generalizing last s with
  | nil => exact h
  | cons c rest ih =>
    rw [List.length_cons] at hlast
    exact ih (h.turn hn (by omega)) (by omega) (by omega)

/-- A set flag hides what comes before the first brace: nothing is split off before it. -/
theorem splitParams_hides (params : Bytes) (tokens : List Bytes) :
    splitParams true params tokens = tokens ∨
      ∃ t ts, splitParams true params tokens = tokens ++ t :: ts ∧
        (beforeBraces params).length ≤ t.length := by
  obtain ⟨hopen, hclose⟩ := beforeBraces_free params
  obtain ⟨rest, hparams, -⟩ := beforeBraces_rest params
  have hlen : (beforeBraces params).length + rest.length = params.length := by
    rw [← List.length_append, ← hparams]
  have hpass : splitScan params 0 ⟨0, true, tokens⟩ params =
      splitScan params (beforeBraces params).length ⟨0, true, tokens⟩ rest := by
    have hscan : splitScan params 0 ⟨0, true, tokens⟩ (beforeBraces params ++ rest) =
        splitScan params (0 + (beforeBraces params).length) ⟨0, true, tokens⟩ rest :=
      splitScan_pass hopen hclose (.inr rfl)
    rw [← hparams, Nat.zero_add] at hscan
    exact hscan
  have hhides : Hides (beforeBraces params).length tokens
      (splitScan params 0 ⟨0, true, tokens⟩ params) := by
    rw [hpass]
    exact Hides.scan (.inl ⟨rfl, rfl⟩) (Nat.le_refl _) (Nat.le_of_eq hlen)
  rw [splitParams]
  generalize splitScan params 0 ⟨0, true, tokens⟩ params = s at hhides
  rcases hhides with ⟨hfirst, htokens⟩ | ⟨t, ts, htokens, hle⟩
  · rw [hfirst, htokens]
    split
    · refine .inr ⟨_, [], rfl, ?_⟩
      simp only [substr, List.drop_zero, Nat.sub_zero, List.length_take]
      omega
    · exact .inl rfl
  · right
    split
    · refine ⟨t, ts ++ [substr params s.first (params.length - s.first)], ?_, hle⟩
      rw [htokens, List.append_assoc]
      rfl
    · exact ⟨t, ts, htokens, hle⟩

theorem keptPieces_first (hcomma : comma ∈ beforeBraces params) :
    ∃ p ps, keptPieces params = p :: ps ∧ p.length < (beforeBraces params).length := by
  obtain ⟨hopen, hclose⟩ := beforeBraces_free params
  obtain ⟨rest, hparams, -⟩ := beforeBraces_rest params
  obtain ⟨p, q, hsplit, hp⟩ := List.eq_append_cons_of_mem hcomma
  have hpieces : pieces 0 params = p :: pieces 0 (q ++ rest) := by
    rw [hsplit] at hopen hclose hparams
    have hopen' : openBrace ∉ p := fun hmem => hopen (List.mem_append_left _ hmem)
    have hclose' : closeBrace ∉ p := fun hmem => hclose (List.mem_append_left _ hmem)
    rw [hparams, List.append_assoc, pieces_plain hopen' hclose' hp]
    show (pieces 0 (comma :: (q ++ rest))).modifyHead (p ++ ·) = _
    show ([] :: pieces 0 (q ++ rest)).modifyHead (p ++ ·) = _
    rw [List.modifyHead_cons, List.append_nil]
  have hlen : p.length < (beforeBraces params).length := by
    rw [hsplit, List.length_append, List.length_cons]
    omega
  rw [keptPieces, hpieces]
  split
  · rw [List.dropLast_cons_of_ne_nil (pieces_ne_nil 0 _)]
    exact ⟨p, _, rfl, hlen⟩
  · exact ⟨p, _, rfl, hlen⟩

end Result

/-- **When the parameter list is split without loss.** -/
theorem splits_exactly_iff {params : Bytes} (h : Flat params) (inbracket : Bool) :
    SplitsExactly inbracket params ↔
      (inbracket = false ∨ comma ∉ beforeBraces params) ∧ (lastPiece params).length ≠ 1 := by
  by_cases hseen : inbracket = false ∨ comma ∉ beforeBraces params
  · have hsplit : splitParams inbracket params [] =
        if 1 < (lastPiece params).length then pieces 0 params else (pieces 0 params).dropLast := by
      rw [← List.nil_append (ite _ _ _), ← splitParams_cleared h []]
      cases inbracket with
      | false => rfl
      | true => exact splitParams_set (hseen.resolve_left (fun h => by cases h)) []
    have hshort : (pieces 0 params).dropLast ≠ pieces 0 params := by
      intro heq
      have hlen := congrArg List.length heq
      have hpos := List.length_pos_iff.mpr (pieces_ne_nil 0 params)
      rw [List.length_dropLast] at hlen
      omega
    rw [SplitsExactly, hsplit, keptPieces]
    constructor
    · rintro ⟨hkept, -⟩
      refine ⟨hseen, fun hone => hshort ?_⟩
      have hne : lastPiece params ≠ [] := List.ne_nil_of_length_eq_add_one hone
      rw [if_neg (by omega), if_neg hne] at hkept
      exact hkept
    · rintro ⟨-, hone⟩
      by_cases hnil : lastPiece params = []
      · rw [if_neg (by simp [hnil]), if_pos hnil]
        exact ⟨rfl, fun hne => absurd hnil hne⟩
      · have hpos := List.length_pos_iff.mpr hnil
        rw [if_pos (by omega), if_neg hnil]
        exact ⟨rfl, fun _ => intercalate_pieces 0 params⟩
  · refine iff_of_false ?_ fun hcond => hseen hcond.1
    rw [not_or, Bool.not_eq_false, not_not] at hseen
    obtain ⟨rfl, hcomma⟩ := hseen
    rintro ⟨hkept, -⟩
    obtain ⟨p, ps, hps, hlen⟩ := keptPieces_first hcomma
    rcases splitParams_hides params [] with hnone | ⟨t, ts, hts, hle⟩
    · cases (hnone.symm.trans hkept).trans hps
    · cases (hts.symm.trans hkept).trans hps
      omega

/-- Two parameters, the first with a group: `A.{X,Y},B.Z`. -/
def groupedParams : Bytes :=
  ascii "A." ++ openBrace :: (ascii "X,Y" ++ closeBrace :: ascii ",B.Z")

theorem splits_exactly_iff_example : SplitsExactly false groupedParams := by
  have hflat : Flat groupedParams :=
    .append (by decide) (by decide) (.group (by decide) (by decide)
      (.append (x := ascii ",B.Z") (by decide) (by decide) .nil))
  exact (splits_exactly_iff hflat false).mpr ⟨.inl rfl, by decide⟩

/-- A last piece of one byte is lost. -/
theorem splits_not_exactly : ¬ ∀ (params : Bytes) (inbracket : Bool), Flat params →
    SplitsExactly inbracket params := by
  intro hclaim
  have hshort : Flat (ascii "A.X,Y") := .append (x := ascii "A.X,Y") (by decide) (by decide) .nil
  have hsplits := hclaim (ascii "A.X,Y") false hshort
  exact absurd hsplits.1 (by decide)

/-- A flag that starts out set hides the comma. -/
example : splitParams true (ascii "A.X,B.Y") [] = [ascii "A.X,B.Y"] := by decide

end RtMessage.DataProvider
