import Mathlib.Logic.Relation

/- While loops with a fuel bound, and the rules they are reasoned with. The
   body may stop the loop with an error; `stop` is the error reported when the
   bound is used up, so a result other than `stop` does not depend on the bound
   (`loop_mono`, `loop_unique`). The rules are the usual ones: an invariant
   (`loop_invariant`), and a set of states the loop never leaves (`loop_diverges`).

   A run is also looked at turn by turn: `Steps` is reachability by turns, `Ends`
   that some bound is enough, and neither the end nor the result depends on where in
   the run one starts to look (`ends_iff_of_steps`, `Steps.rest`). -/
namespace Lib

variable {ε σ : Type}

/-- `while (c) f`, giving up with `stop` after `fuel` runs of the body. -/
def loop (stop : ε) (c : σ → Bool) (f : σ → Except ε σ) : Nat → σ → Except ε σ
  | 0, s => if c s then .error stop else .ok s
  | fuel+1, s => if c s then (f s).bind (loop stop c f fuel) else .ok s

variable {stop : ε} {c : σ → Bool} {f : σ → Except ε σ}

theorem loop_done {s : σ} (h : c s = false) (fuel : Nat) : loop stop c f fuel s = .ok s := by
  cases fuel <;> simp [loop, h]

theorem loop_step {s t : σ} (h : c s = true) (hf : f s = .ok t) (fuel : Nat) :
    loop stop c f (fuel+1) s = loop stop c f fuel t := by
  simp [loop, h, hf, Except.bind]

theorem loop_error {s : σ} {e : ε} (h : c s = true) (hf : f s = .error e) (fuel : Nat) :
    loop stop c f (fuel+1) s = .error e := by
  simp [loop, h, hf, Except.bind]

theorem loop_ok_cases {s t : σ} {fuel : Nat} (h : loop stop c f fuel s = .ok t) :
    (c s = false ∧ t = s) ∨
      ∃ fuel' u, fuel = fuel'+1 ∧ c s = true ∧ f s = .ok u ∧ loop stop c f fuel' u = .ok t := by
  cases hc : c s with
  | false => rw [loop_done hc] at h; exact .inl ⟨rfl, (Except.ok.inj h).symm⟩
  | true =>
    cases fuel with
    | zero => simp [loop, hc] at h
    | succ fuel' =>
      cases hf : f s with
      | error e => rw [loop_error hc hf] at h; cases h
      | ok u => rw [loop_step hc hf] at h; exact .inr ⟨fuel', u, rfl, rfl, rfl, h⟩

theorem loop_mono {s t : σ} {fuel : Nat} (h : loop stop c f fuel s = .ok t) :
    ∀ {more : Nat}, fuel ≤ more → loop stop c f more s = .ok t := by
  induction fuel generalizing s with
  | zero =>
    intro more _
    rcases loop_ok_cases h with ⟨hc, rfl⟩ | ⟨_, _, h0, _⟩
    · exact loop_done hc more
    · cases h0
  | succ fuel ih =>
    intro more hle
    rcases loop_ok_cases h with ⟨hc, rfl⟩ | ⟨fuel', u, h1, hc, hf, hr⟩
    · exact loop_done hc more
    · cases h1
      cases more with
      | zero => omega
      | succ more => rw [loop_step hc hf]; exact ih hr (by omega)

theorem loop_unique {s t u : σ} {a b : Nat} (ha : loop stop c f a s = .ok t)
    (hb : loop stop c f b s = .ok u) : t = u := by
  have h1 := loop_mono ha (Nat.le_max_left a b)
  rw [loop_mono hb (Nat.le_max_right a b)] at h1
  exact (Except.ok.inj h1).symm

theorem loop_invariant (I : σ → Prop)
    (hstep : ∀ s t, I s → c s = true → f s = .ok t → I t) {fuel : Nat} {s t : σ}
    (hs : I s) (h : loop stop c f fuel s = .ok t) : I t ∧ c t = false := by
  induction fuel generalizing s with
  | zero =>
    rcases loop_ok_cases h with ⟨hc, rfl⟩ | ⟨_, _, h0, _⟩
    · exact ⟨hs, hc⟩
    · cases h0
  | succ fuel ih =>
    rcases loop_ok_cases h with ⟨hc, rfl⟩ | ⟨fuel', u, h1, hc, hf, hr⟩
    · exact ⟨hs, hc⟩
    · cases h1; exact ih (hstep s u hs hc hf) hr

/-- A set of states in which the loop goes on and stays keeps it going for ever. -/
theorem loop_diverges (I : σ → Prop)
    (hstep : ∀ s, I s → c s = true ∧ ∃ t, f s = .ok t ∧ I t) {s : σ} (hs : I s) :
    ∀ fuel, loop stop c f fuel s = .error stop := by
  intro fuel
  induction fuel generalizing s with
  | zero => simp [loop, (hstep s hs).1]
  | succ fuel ih =>
    obtain ⟨hc, t, hf, hI⟩ := hstep s hs
    rw [loop_step hc hf]
    exact ih hI

/-! Turn by turn. -/

/-- `t` is reached from `s` by turns of the loop. -/
def Steps (c : σ → Bool) (f : σ → Except ε σ) : σ → σ → Prop :=
  Relation.ReflTransGen fun s t => c s = true ∧ f s = .ok t

/-- The loop ends, in a state or with an error of the body. -/
def Ends (stop : ε) (c : σ → Bool) (f : σ → Except ε σ) (s : σ) : Prop :=
  ∃ fuel, loop stop c f fuel s ≠ .error stop

theorem Steps.refl (s : σ) : Steps c f s s := Relation.ReflTransGen.refl

theorem Steps.one {s t : σ} (h : c s = true) (hf : f s = .ok t) : Steps c f s t :=
  Relation.ReflTransGen.single ⟨h, hf⟩

theorem Steps.trans {s t u : σ} (h : Steps c f s t) (h' : Steps c f t u) : Steps c f s u :=
  Relation.ReflTransGen.trans h h'

theorem loop_steps (stop : ε) {s t : σ} (h : Steps c f s t) :
    ∃ m, ∀ fuel, loop stop c f (fuel + m) s = loop stop c f fuel t := by
  induction h using Relation.ReflTransGen.head_induction_on with
  | refl => exact ⟨0, fun fuel => rfl⟩
  | head hstep _ ih =>
    obtain ⟨m, hm⟩ := ih
    exact ⟨m+1, fun fuel => by rw [← Nat.add_assoc, loop_step hstep.1 hstep.2, hm]⟩

theorem loop_enough {s : σ} {fuel : Nat} (h : loop stop c f fuel s ≠ .error stop) :
    ∀ {more : Nat}, fuel ≤ more → loop stop c f more s = loop stop c f fuel s := by
  induction fuel generalizing s with
  | zero =>
    intro more _
    cases hc : c s with
    | false => rw [loop_done hc, loop_done hc]
    | true => simp [loop, hc] at h
  | succ fuel ih =>
    intro more hle
    cases hc : c s with
    | false => rw [loop_done hc, loop_done hc]
    | true =>
      obtain ⟨more, rfl⟩ : ∃ k, more = k+1 := ⟨more - 1, by omega⟩
      cases hf : f s with
      | error e => rw [loop_error hc hf, loop_error hc hf]
      | ok u =>
        rw [loop_step hc hf] at h
        rw [loop_step hc hf, loop_step hc hf]
        exact ih h (by omega)

theorem ends_iff_of_steps {s t : σ} (h : Steps c f s t) : Ends stop c f s ↔ Ends stop c f t := by
  obtain ⟨m, hm⟩ := loop_steps stop h
  constructor
  · rintro ⟨fuel, hfuel⟩
    refine ⟨fuel, ?_⟩
    rw [← hm, loop_enough hfuel (by omega)]
    exact hfuel
  · rintro ⟨fuel, hfuel⟩
    exact ⟨fuel + m, by rw [hm]; exact hfuel⟩

theorem ends_done {s : σ} (h : c s = false) : Ends stop c f s := by
  refine ⟨0, ?_⟩
  rw [loop_done h]
  exact fun e => by cases e

theorem ends_error {s : σ} {e : ε} (h : c s = true) (hf : f s = .error e) (he : e ≠ stop) :
    Ends stop c f s := by
  refine ⟨1, ?_⟩
  rw [loop_error h hf]
  exact fun h' => he (Except.error.inj h')

theorem not_ends {s : σ} (I : σ → Prop) (hstep : ∀ s, I s → c s = true ∧ ∃ t, f s = .ok t ∧ I t)
    (hs : I s) : ¬ Ends stop c f s := by
  rintro ⟨fuel, hfuel⟩
  exact hfuel (loop_diverges I hstep hs fuel)

theorem steps_of_loop_ok {s t : σ} {fuel : Nat} (h : loop stop c f fuel s = .ok t) :
    Steps c f s t ∧ c t = false := by
  induction fuel generalizing s with
  | zero =>
    rcases loop_ok_cases h with ⟨hc, rfl⟩ | ⟨_, _, h0, _⟩
    · exact ⟨.refl t, hc⟩
    · cases h0
  | succ fuel ih =>
    rcases loop_ok_cases h with ⟨hc, rfl⟩ | ⟨fuel', u, h1, hc, hf, hr⟩
    · exact ⟨.refl t, hc⟩
    · cases h1
      exact ⟨(Steps.one hc hf).trans (ih hr).1, (ih hr).2⟩

theorem loop_of_steps (stop : ε) {s t : σ} (h : Steps c f s t) (ht : c t = false) :
    ∃ fuel, loop stop c f fuel s = .ok t := by
  obtain ⟨m, hm⟩ := loop_steps stop h
  exact ⟨0 + m, by rw [hm, loop_done ht]⟩

theorem Steps.invariant {s t : σ} (I : σ → Prop)
    (hstep : ∀ s t, I s → c s = true → f s = .ok t → I t) (hs : I s) (h : Steps c f s t) : I t := by
  induction h with
  | refl => exact hs
  | tail _ hst ih => exact hstep _ _ ih hst.1 hst.2

theorem Steps.turn {s t : σ} (h : Steps c f s t) (hs : c s = true) (ht : c t = false) :
    ∃ u, f s = .ok u := by
  rcases Relation.ReflTransGen.cases_head h with rfl | ⟨u, hu, -⟩
  · cases hs.symm.trans ht
  · exact ⟨u, hu.2⟩

theorem Steps.ends {s t : σ} (h : Steps c f s t) (ht : c t = false) : Ends stop c f s :=
  (ends_iff_of_steps h).mpr (ends_done ht)

theorem Steps.total {s t u : σ} (ht : Steps c f s t) (hu : Steps c f s u) :
    Steps c f t u ∨ Steps c f u t := by
  induction ht using Relation.ReflTransGen.head_induction_on with
  | refl => exact .inl hu
  | head hst hrest ih =>
    rcases Relation.ReflTransGen.cases_head hu with rfl | ⟨v, hv, hvu⟩
    · exact .inr ((Steps.one hst.1 hst.2).trans hrest)
    · cases hst.2.symm.trans hv.2
      exact ih hvu

/-- A state of a run lies on a part of it whose turns are all of one kind, or behind it. -/
theorem Steps.on_path {R : σ → σ → Prop} (hR : ∀ s t, R s t → c s = true ∧ f s = .ok t)
    {s t u : σ} (h : Relation.ReflTransGen R s t) (hu : Steps c f s u) :
    Relation.ReflTransGen R u t ∨ Steps c f t u := by
  induction h using Relation.ReflTransGen.head_induction_on with
  | refl => exact .inr hu
  | head hst hrest ih =>
    rcases Relation.ReflTransGen.cases_head hu with rfl | ⟨v, hv, hvu⟩
    · exact .inl (hrest.head hst)
    · cases (hR _ _ hst).2.symm.trans hv.2
      exact ih hvu

/-- From a state in which the loop stops nothing else is reached. -/
theorem Steps.of_done {s t : σ} (h : Steps c f s t) (hs : c s = false) : t = s := by
  rcases Relation.ReflTransGen.cases_head h with rfl | ⟨u, hu, -⟩
  · rfl
  · cases hu.1.symm.trans hs

theorem Steps.done_unique {s t u : σ} (ht : Steps c f s t) (hu : Steps c f s u)
    (hct : c t = false) (hcu : c u = false) : t = u := by
  rcases ht.total hu with h | h
  · exact (h.of_done hct).symm
  · exact h.of_done hcu

theorem Steps.rest {s t u : σ} (ht : Steps c f s t) (hu : Steps c f s u) (hcu : c u = false) :
    Steps c f t u := by
  rcases ht.total hu with h | h
  · exact h
  · rw [h.of_done hcu]
    exact .refl u

end Lib
