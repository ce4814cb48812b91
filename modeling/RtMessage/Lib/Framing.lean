import Mathlib.Data.List.Infix

/- Streams made of encoded frames, for any encoding to lists: what a writer may leave
   on a wire that a reader of frames can follow to its end. -/
namespace Lib

variable {φ β : Type} {enc : φ → List β}

/-- A sequence of complete frames. -/
def Whole (enc : φ → List β) (bs : List β) : Prop := ∃ fs : List φ, bs = fs.flatMap enc

/-- A sequence of complete frames, and a frame cut short after them. -/
def UpToCut (enc : φ → List β) (bs : List β) : Prop :=
  ∃ (fs : List φ) (f : φ) (cut : List β), cut <+: enc f ∧ bs = fs.flatMap enc ++ cut

theorem whole_nil : Whole enc [] := ⟨[], rfl⟩

theorem Whole.append {bs : List β} (h : Whole enc bs) (f : φ) : Whole enc (bs ++ enc f) := by
  obtain ⟨fs, rfl⟩ := h
  exact ⟨fs ++ [f], by simp⟩

theorem Whole.append_cut {bs cut : List β} (h : Whole enc bs) {f : φ} (hcut : cut <+: enc f) :
    UpToCut enc (bs ++ cut) := by
  obtain ⟨fs, rfl⟩ := h
  exact ⟨fs, f, cut, hcut, rfl⟩

/-- An encoding whose first frame can be told from what follows it. -/
def PrefixFree (enc : φ → List β) : Prop :=
  ∀ f g x y, enc f ++ x = enc g ++ y → f = g ∧ x = y

/-- A stream is made of one sequence of frames only. -/
theorem PrefixFree.flatMap_inj (h : PrefixFree enc) (hne : ∀ f, enc f ≠ []) :
    ∀ {fs gs : List φ}, fs.flatMap enc = gs.flatMap enc → fs = gs
  | [], [], _ => rfl
  | [], g :: gs, heq => by
    rw [List.flatMap_nil, List.flatMap_cons] at heq
    exact absurd (List.append_eq_nil_iff.mp heq.symm).1 (hne g)
  | f :: fs, [], heq => by
    rw [List.flatMap_nil, List.flatMap_cons] at heq
    exact absurd (List.append_eq_nil_iff.mp heq).1 (hne f)
  | f :: fs, g :: gs, heq => by
    rw [List.flatMap_cons, List.flatMap_cons] at heq
    obtain ⟨rfl, hrest⟩ := h f g _ _ heq
    rw [h.flatMap_inj hne hrest]

end Lib
