/- Data refinement.

   An implementation `exec` carries out calls on its own states, and `spec` says what the
   calls do to the abstract value that a state stands for. A call may only be made where it
   is allowed, which may depend on both; an implementation may fail elsewhere. `Legal` is a
   sequence of calls each of which is allowed where it is made, and `run_of_legal` carries
   what one call keeps to a sequence of any length. -/
namespace Lib

section
variable {σ α ω φ : Type} (exec : σ → ω → Except φ σ) (spec : α → ω → α)
  (allowed : σ → α → ω → Prop)

/-- Every call is allowed in the states that those before it lead to. -/
def Legal : σ → α → List ω → Prop
  | _, _, [] => True
  | s, a, c :: cs => allowed s a c ∧ ∀ s', exec s c = .ok s' → Legal s' (spec a c) cs

variable {exec spec allowed}

/-- **A legal sequence is carried out**, and its last state stands for the abstract value. -/
theorem run_of_legal {Rep : σ → α → Prop}
    (hstep : ∀ s a c, Rep s a → allowed s a c → ∃ s', exec s c = .ok s' ∧ Rep s' (spec a c))
    {cs : List ω} {s : σ} {a : α} (hrep : Rep s a) (hlegal : Legal exec spec allowed s a cs) :
    ∃ s', cs.foldlM exec s = .ok s' ∧ Rep s' (cs.foldl spec a) := by
  induction cs generalizing s a with
  | nil => exact ⟨s, rfl, hrep⟩
  | cons c cs ih =>
    obtain ⟨hallowed, hrest⟩ := hlegal
    obtain ⟨t, ht, hrep'⟩ := hstep s a c hrep hallowed
    obtain ⟨s', hs', hend⟩ := ih hrep' (hrest t ht)
    refine ⟨s', ?_, hend⟩
    rw [List.foldlM_cons, ht]
    exact hs'

end

end Lib
