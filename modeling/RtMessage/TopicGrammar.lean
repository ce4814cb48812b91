import RtMessage.Router

/- Topic matching as the grammar of tokens.

   The loop works on characters: it drops a token of the topic at a `*`, all of the rest at a
   `>`, and one character of both otherwise. Between tokens the two strings are at their
   separators together or nowhere, so the loop is followed token by token
   (`match_at_token`, `match_at_separator`). -/
namespace RtMessage

/-- The tokens of a topic agree with those of an expression. -/
inductive TokensMatch : List Bytes → List Bytes → Prop where
  | nil : TokensMatch [] []
  /-- `*` is any one token -/
  | any {t : Bytes} {ts es : List Bytes} (h : TokensMatch ts es) :
      TokensMatch (t :: ts) (ascii "*" :: es)
  /-- a final `>` is one token or more -/
  | rest {t : Bytes} {ts : List Bytes} : TokensMatch (t :: ts) [ascii ">"]
  | same {t : Bytes} {ts es : List Bytes} (hany : t ≠ ascii "*") (hrest : t ≠ ascii ">")
      (h : TokensMatch ts es) : TokensMatch (t :: ts) (t :: es)

/-- The string made of tokens. -/
def joinTokens (tokens : List Bytes) : Bytes := (ascii ".").intercalate tokens

/-- A topic's token: not empty, and without a separator. -/
structure TopicToken (t : Bytes) : Prop where
  nonempty : t ≠ []
  dot : 46 ∉ t

/-- An expression's token: the wildcards stand alone. -/
structure ExpressionToken (e : Bytes) : Prop where
  dot : 46 ∉ e
  any : 42 ∈ e → e = ascii "*"
  rest : 62 ∈ e → e = ascii ">"

/-- `>` is the last token only. -/
structure ExpressionTokens (es : List Bytes) : Prop where
  tokens : ∀ e ∈ es, ExpressionToken e
  last : ∀ e ∈ es.dropLast, e ≠ ascii ">"

theorem ExpressionTokens.tail {e : Bytes} {es : List Bytes} (h : ExpressionTokens (e :: es)) :
    ExpressionTokens es where
  tokens := fun u hu => h.tokens u (List.mem_cons_of_mem e hu)
  last := by
    intro u hu
    cases es with
    | nil => cases hu
    | cons v es => exact h.last u (List.mem_cons_of_mem e hu)

theorem ExpressionTokens.last_nil {e : Bytes} {es : List Bytes} (h : ExpressionTokens (e :: es))
    (he : e = ascii ">") : es = [] := by
  cases es with
  | nil => rfl
  | cons v es => exact absurd he (h.last e List.mem_cons_self)

/-! The strings. -/

/-- Tokens with a separator before each. -/
def separated (tokens : List Bytes) : Bytes := tokens.flatMap (46 :: ·)

theorem joinTokens_cons (t : Bytes) (ts : List Bytes) :
    joinTokens (t :: ts) = t ++ separated ts := by
  induction ts generalizing t with
  | nil => simp [joinTokens, separated]
  | cons u ts ih =>
    have ih := ih u
    unfold joinTokens at ih ⊢
    rw [List.intercalate_cons_cons, ih, List.append_assoc]
    rfl

/-! The turns of the loop. -/

section Turns
variable {n : Nat} {a b : UInt8} {t e : Bytes}

theorem loop_nil_left : topicMatchLoop n [] e = e.isEmpty := by
  cases n <;> simp [topicMatchLoop]

theorem loop_nil_right : topicMatchLoop n t [] = t.isEmpty := by
  cases n <;> simp [topicMatchLoop]

theorem loop_literal (hany : b ≠ 42) (hrest : b ≠ 62) :
    topicMatchLoop (n + 1) (a :: t) (b :: e) = if a = b then topicMatchLoop n t e else false := by
  simp only [topicMatchLoop, List.head?_cons, Option.some.injEq, if_neg hany, if_neg hrest,
    List.isEmpty_cons, Bool.or_self, Bool.and_self, Bool.false_eq_true, if_false, List.tail_cons,
    ne_eq, ite_not]

theorem loop_rest : topicMatchLoop (n + 1) (a :: t) [62] = true := by
  simp [topicMatchLoop]

/-- A `*` drops the topic's token. -/
theorem loop_any {ts es : List Bytes} (hne : t ≠ []) (hdot : 46 ∉ t) :
    topicMatchLoop (n + 1) (t ++ separated ts) (42 :: separated es) =
      topicMatchLoop (n + 1) (separated ts) (separated es) := by
  have hdrop : (t ++ separated ts).dropWhile (· != 46) = separated ts := by
    rw [List.dropWhile_append_of_pos]
    · cases ts <;> rfl
    · intro c hc
      simp only [bne_iff_ne]
      exact fun h => hdot (h ▸ hc)
  have hne : (t ++ separated ts).isEmpty = false := by
    obtain ⟨c, t, rfl⟩ := List.exists_cons_of_ne_nil hne
    rfl
  rw [topicMatchLoop, hne]
  simp only [List.isEmpty_cons, Bool.or_self, Bool.false_eq_true, if_false, List.head?_cons, if_true,
    List.tail_cons, hdrop]
  cases ts with
  | nil => cases es <;> rfl
  | cons u ts => cases es <;> rfl

end Turns

/-! Tokens. -/

section Tokens
variable {t e : Bytes} {ts es : List Bytes}

theorem tokensMatch_any : TokensMatch (t :: ts) (ascii "*" :: es) ↔ TokensMatch ts es := by
  constructor
  · intro h
    cases h with
    | any h => exact h
    | same hany _ _ => exact absurd rfl hany
  · exact .any

theorem tokensMatch_same (hany : e ≠ ascii "*") (hrest : e ≠ ascii ">") :
    TokensMatch (t :: ts) (e :: es) ↔ t = e ∧ TokensMatch ts es := by
  constructor
  · intro h
    cases h with
    | any _ => exact absurd rfl hany
    | rest => exact absurd rfl hrest
    | same _ _ h => exact ⟨rfl, h⟩
  · rintro ⟨rfl, h⟩
    exact .same hany hrest h

/-- A token that is not a wildcard is matched character by character. -/
theorem match_literal (hdot : 46 ∉ t) (hdot' : 46 ∉ e) (hany : 42 ∉ e) (hrest : 62 ∉ e)
    (hsep : ∀ n, (separated es).length ≤ n →
      (topicMatchLoop n (separated ts) (separated es) = true ↔ TokensMatch ts es))
    {n : Nat} (hn : (e ++ separated es).length ≤ n) :
    topicMatchLoop n (t ++ separated ts) (e ++ separated es) = true ↔
      t = e ∧ TokensMatch ts es := by
  induction e generalizing t n with
  | nil =>
    cases t with
    | nil => simpa using hsep n hn
    | cons a t =>
      -- the expression's token is shorter: its separator meets a character of the topic's
      have ha : a ≠ 46 := fun h => hdot (h ▸ List.mem_cons_self)
      refine iff_of_false ?_ (fun h => by cases h.1)
      cases es with
      | nil =>
        change topicMatchLoop n (a :: (t ++ separated ts)) [] ≠ true
        rw [loop_nil_right]
        exact Bool.false_ne_true
      | cons u es =>
        obtain ⟨n, rfl⟩ : ∃ k, n = k + 1 := by
          rw [List.nil_append, separated, List.flatMap_cons] at hn
          exact ⟨n - 1, by simp at hn; omega⟩
        change topicMatchLoop (n + 1) (a :: (t ++ separated ts)) (46 :: (u ++ separated es)) ≠ true
        rw [loop_literal (by decide) (by decide), if_neg ha]
        exact Bool.false_ne_true
  | cons d e ih =>
    have hd : d ≠ 46 := fun h => hdot' (h ▸ List.mem_cons_self)
    have hd₁ : d ≠ 42 := fun h => hany (h ▸ List.mem_cons_self)
    have hd₂ : d ≠ 62 := fun h => hrest (h ▸ List.mem_cons_self)
    obtain ⟨n, rfl⟩ : ∃ k, n = k + 1 := by
      rw [List.cons_append, List.length_cons] at hn
      exact ⟨n - 1, by omega⟩
    rw [List.cons_append]
    cases t with
    | nil =>
      refine iff_of_false ?_ (fun h => by cases h.1)
      -- the topic's token is shorter
      rw [List.nil_append]
      cases ts with
      | nil =>
        change topicMatchLoop (n + 1) [] (d :: (e ++ separated es)) ≠ true
        rw [loop_nil_left]
        exact Bool.false_ne_true
      | cons u ts =>
        change topicMatchLoop (n + 1) (46 :: (u ++ separated ts)) (d :: (e ++ separated es)) ≠ true
        rw [loop_literal hd₁ hd₂, if_neg hd.symm]
        exact Bool.false_ne_true
    | cons a t =>
      rw [List.cons_append, loop_literal hd₁ hd₂]
      by_cases had : a = d
      · rw [if_pos had, ih (fun h => hdot (List.mem_cons_of_mem a h))
          (fun h => hdot' (List.mem_cons_of_mem d h)) (fun h => hany (List.mem_cons_of_mem d h))
          (fun h => hrest (List.mem_cons_of_mem d h)) (Nat.le_of_succ_le_succ hn), had]
        simp
      · rw [if_neg had]
        refine iff_of_false Bool.false_ne_true fun h => had ?_
        exact (List.cons.inj h.1).1

theorem match_at_token (ht : TopicToken t) (he : ExpressionToken e)
    (hlast : e = ascii ">" → es = [])
    (hsep : ∀ n, (separated es).length ≤ n →
      (topicMatchLoop n (separated ts) (separated es) = true ↔ TokensMatch ts es))
    {n : Nat} (hn : (e ++ separated es).length ≤ n) :
    topicMatchLoop n (t ++ separated ts) (e ++ separated es) = true ↔
      TokensMatch (t :: ts) (e :: es) := by
  by_cases hrest : e = ascii ">"
  · rw [hlast hrest, hrest] at hn ⊢
    obtain ⟨n, rfl⟩ : ∃ k, n = k + 1 := ⟨n - 1, by simp [separated, ascii] at hn; omega⟩
    obtain ⟨a, t, rfl⟩ := List.exists_cons_of_ne_nil ht.nonempty
    refine iff_of_true ?_ .rest
    change topicMatchLoop (n + 1) (a :: (t ++ separated ts)) [62] = true
    exact loop_rest
  · by_cases hany : e = ascii "*"
    · rw [hany] at hn ⊢
      obtain ⟨n, rfl⟩ : ∃ k, n = k + 1 := ⟨n - 1, by simp [ascii] at hn; omega⟩
      change topicMatchLoop (n + 1) (t ++ separated ts) (42 :: separated es) = true ↔ _
      rw [loop_any ht.nonempty ht.dot, tokensMatch_any]
      refine hsep (n + 1) (Nat.le_trans ?_ hn)
      rw [List.length_append]
      exact Nat.le_add_left _ _
    · rw [tokensMatch_same hany hrest]
      exact match_literal ht.dot he.dot (mt he.any hany) (mt he.rest hrest) hsep hn

/-- **The loop at the separators** in front of the tokens that are left. -/
theorem match_at_separator (hts : ∀ t ∈ ts, TopicToken t) (hes : ExpressionTokens es) {n : Nat}
    (hn : (separated es).length ≤ n) :
    topicMatchLoop n (separated ts) (separated es) = true ↔ TokensMatch ts es := by
  induction es generalizing ts n with
  | nil =>
    rw [separated.eq_def [], List.flatMap_nil, loop_nil_right]
    cases ts with
    | nil => exact iff_of_true rfl .nil
    | cons t ts => exact iff_of_false Bool.false_ne_true (fun h => by cases h)
  | cons e es ih =>
    cases ts with
    | nil =>
      rw [separated.eq_def [], List.flatMap_nil, loop_nil_left]
      exact iff_of_false Bool.false_ne_true (fun h => by cases h)
    | cons t ts =>
      have hes' := hes.tail
      change topicMatchLoop n (46 :: (t ++ separated ts)) (46 :: (e ++ separated es)) = true ↔ _
      have hn' : (46 :: (e ++ separated es)).length ≤ n := hn
      rw [List.length_cons] at hn'
      obtain ⟨n, rfl⟩ : ∃ k, n = k + 1 := ⟨n - 1, by omega⟩
      rw [loop_literal (by decide) (by decide), if_pos rfl]
      exact match_at_token (hts t (by simp)) (hes.tokens e (by simp)) hes.last_nil
        (fun m hm => ih (fun u hu => hts u (by simp [hu])) hes' hm) (Nat.le_of_succ_le_succ hn')

end Tokens

/-- **Matching is the grammar's.** -/
theorem isTopicMatch_iff {ts es : List Bytes} (hne : ts ≠ []) (hts : ∀ t ∈ ts, TopicToken t)
    (hes : ExpressionTokens es) :
    rtRoutedIsTopicMatch (joinTokens ts) (joinTokens es) = true ↔ TokensMatch ts es := by
  obtain ⟨t, ts, rfl⟩ := List.exists_cons_of_ne_nil hne
  have ht := hts t (by simp)
  cases es with
  | nil =>
    obtain ⟨a, t, rfl⟩ := List.exists_cons_of_ne_nil ht.nonempty
    rw [rtRoutedIsTopicMatch, show joinTokens [] = [] from rfl, loop_nil_right, joinTokens_cons]
    exact iff_of_false Bool.false_ne_true (fun h => by cases h)
  | cons e es =>
    rw [rtRoutedIsTopicMatch, joinTokens_cons, joinTokens_cons]
    exact match_at_token ht (hes.tokens e (by simp)) hes.last_nil
      (fun n hn => match_at_separator (fun u hu => hts u (by simp [hu])) hes.tail hn)
      (Nat.le_refl _)

/-- `A.B.C.FOO` against `A.*.>`. -/
theorem isTopicMatch_iff_example :
    TokensMatch [ascii "A", ascii "B", ascii "C", ascii "FOO"] [ascii "A", ascii "*", ascii ">"] := by
  have hts : ∀ t ∈ [ascii "A", ascii "B", ascii "C", ascii "FOO"], t ≠ [] ∧ 46 ∉ t := by decide
  have hes : ∀ e ∈ [ascii "A", ascii "*", ascii ">"],
      46 ∉ e ∧ (42 ∈ e → e = ascii "*") ∧ (62 ∈ e → e = ascii ">") := by decide
  exact (isTopicMatch_iff (by decide) (fun t ht => ⟨(hts t ht).1, (hts t ht).2⟩)
    ⟨fun e he => ⟨(hes e he).1, (hes e he).2.1, (hes e he).2.2⟩, by decide⟩).mp (by decide)

/-- An expression without wildcards matches itself only. -/
theorem isTopicMatch_plain {t e : Bytes} (hany : 42 ∉ e) (hrest : 62 ∉ e) :
    rtRoutedIsTopicMatch t e = true ↔ t = e := by
  unfold rtRoutedIsTopicMatch
  induction e generalizing t with
  | nil => rw [loop_nil_right, List.isEmpty_iff]
  | cons b e ih =>
    rw [List.mem_cons, not_or] at hany hrest
    cases t with
    | nil => simp [loop_nil_left]
    | cons a t =>
      rw [List.length_cons, loop_literal (Ne.symm hany.1) (Ne.symm hrest.1), List.cons.injEq]
      by_cases hab : a = b
      · rw [if_pos hab, ih hany.2 hrest.2, and_iff_right hab]
      · rw [if_neg hab, iff_false_left Bool.false_ne_true]
        exact fun h => hab h.1

end RtMessage
