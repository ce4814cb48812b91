/- Runs of a step relation whose steps carry an event.

   A run is the list of its events, the last one at the end, so that a statement about a
   state and what has happened up to it is a statement about the state and this list.
   `Run.invariant` is the induction along a run. -/
namespace Lib

/-- `step` leads from the first state to the second by these events. -/
inductive Run {σ ε : Type} (step : σ → ε → σ → Prop) (s : σ) : List ε → σ → Prop where
  | nil : Run step s [] s
  | snoc {es : List ε} {e : ε} {t u : σ} (h : Run step s es t) (hstep : step t e u) :
      Run step s (es ++ [e]) u

/-- The steps of a relation that a condition on the state before the step allows. -/
def Allowing {σ ε : Type} (allowed : σ → ε → Prop) (step : σ → ε → σ → Prop) (s : σ) (e : ε)
    (t : σ) : Prop :=
  allowed s e ∧ step s e t

/-- Every event of a history is allowed after those before it. -/
def AllowedAfter {ε : Type} (allowed : List ε → ε → Prop) (es : List ε) : Prop :=
  ∀ before e after, es = before ++ e :: after → allowed before e

theorem allowedAfter_nil {ε : Type} {allowed : List ε → ε → Prop} : AllowedAfter allowed [] := by
  intro before e after he
  simp at he

theorem allowedAfter_append {ε : Type} {allowed : List ε → ε → Prop} {es : List ε} {e : ε} :
    AllowedAfter allowed (es ++ [e]) ↔ AllowedAfter allowed es ∧ allowed es e := by
  constructor
  · intro h
    refine ⟨fun before e' after he => ?_, h es e [] rfl⟩
    exact h before e' (after ++ [e]) (by rw [he]; simp)
  · rintro ⟨hes, hlast⟩ before e' after he
    -- The event is the last one, or one of those before it.
    obtain rfl | ⟨after', last, rfl⟩ := List.eq_nil_or_concat after
    · obtain ⟨rfl, hee⟩ := List.append_inj' he rfl
      rw [← (List.cons.inj hee).1]
      exact hlast
    · have he' : es ++ [e] = (before ++ e' :: after') ++ [last] := by simpa using he
      exact hes before e' after' (List.append_inj' he' rfl).1

namespace Run
variable {σ ε : Type} {step : σ → ε → σ → Prop} {s t u : σ} {es es' : List ε} {e : ε}

theorem single (h : step s e t) : Run step s [e] t := snoc nil h

theorem trans (h : Run step s es t) (h' : Run step t es' u) : Run step s (es ++ es') u := by
  induction h' with
  | nil => simpa using h
  | snoc _ hstep ih =>
    rw [← List.append_assoc]
    exact ih.snoc hstep

theorem allowed {p : ε → Prop} (h : Run (Allowing (fun _ e => p e) step) s es t) :
    ∀ e ∈ es, p e := by
  induction h with
  | nil => exact fun e he => by cases he
  | snoc _ hstep ih =>
    intro e he
    cases List.mem_append.mp he with
    | inl he => exact ih e he
    | inr he =>
      rw [List.mem_singleton.mp he]
      exact hstep.1

/-- What holds at the start and is kept by every step holds at the end. -/
theorem invariant {I : List ε → σ → Prop} (hnil : I [] s)
    (hsnoc : ∀ es t e u, I es t → step t e u → I (es ++ [e]) u) (h : Run step s es t) :
    I es t := by
  induction h with
  | nil => exact hnil
  | snoc _ hstep ih => exact hsnoc _ _ _ _ ih hstep

/-- Steps that lessen a measure, one of which there is as long as it is not zero, come to where
    it is zero. -/
theorem drain {I : List ε → σ → Prop} (measure : σ → Nat) (hstep : ∀ es t, I es t →
      0 < measure t → ∃ e u, step t e u ∧ I (es ++ [e]) u ∧ measure u < measure t)
    (h : I es s) : ∃ es' u, Run step s es' u ∧ I (es ++ es') u ∧ measure u = 0 := by
  generalize hleft : measure s = left
  induction left using Nat.strongRecOn generalizing es s with
  | ind left ih =>
    by_cases hzero : left = 0
    · exact ⟨[], s, nil, by simpa using h, hleft.trans hzero⟩
    · obtain ⟨e, t, hfirst, ht, hless⟩ := hstep es s h (by omega)
      obtain ⟨es', u, hrun, hu, hdone⟩ := ih (measure t) (hleft ▸ hless) ht rfl
      exact ⟨e :: es', u, (single hfirst).trans hrun, by simpa using hu, hdone⟩

/-- Where no run is longer than a bound, every run goes on to a state in which no step can be
    taken. -/
theorem comes_to_rest {bound : Nat} (hbound : ∀ es t, Run step s es t → es.length ≤ bound)
    (h : Run step s es t) : ∃ es' u, Run step t es' u ∧ ∀ e v, ¬step u e v := by
  induction hleft : bound - es.length generalizing es t with
  | zero =>
    refine ⟨[], t, nil, fun e v hstep => ?_⟩
    have hlength := hbound _ _ (h.snoc hstep)
    rw [List.length_append, List.length_singleton] at hlength
    omega
  | succ left ih =>
    by_cases hgoes : ∃ e v, step t e v
    · obtain ⟨e, v, hstep⟩ := hgoes
      obtain ⟨es', u, hrun, hrest⟩ := ih (h.snoc hstep) (by
        rw [List.length_append, List.length_singleton]
        omega)
      exact ⟨e :: es', u, (single hstep).trans hrun, hrest⟩
    · exact ⟨[], t, nil, fun e v hstep => hgoes ⟨e, v, hstep⟩⟩

theorem mono {step' : σ → ε → σ → Prop} (hstep : ∀ s e t, step s e t → step' s e t)
    (h : Run step s es t) : Run step' s es t := by
  induction h with
  | nil => exact nil
  | snoc _ hs ih => exact ih.snoc (hstep _ _ _ hs)

end Run

end Lib
