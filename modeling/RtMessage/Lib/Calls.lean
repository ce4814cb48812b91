import Mathlib.Logic.Relation
import Mathlib.Order.WellFounded

/- Recursive procedures.

   A call does its acts in order: it emits an event, makes a further call, or fails. What it
   returns is put together from the events it emits and from what its calls return; the
   events of a call are its own and those of its calls, in order. `run` bounds the depth of
   the recursion, and gives up with `stop`.

   1. `Performs` is the same without a bound (`run_ok_iff`).
   2. A call returns exactly if its calls are well-founded and none that it comes to fails
      (`returns_iff`).
   3. Its events are those that the calls it comes to emit (`Performs.mem_events`). -/
namespace Lib

inductive Act (ε α φ : Type) where
  | emit (e : ε)
  | call (a : α)
  | fail (f : φ)

/-- The event of an act of the call itself. -/
def Act.event? {ε α φ : Type} : Act ε α φ → Option ε
  | .emit e => some e
  | _ => none

structure Procedure (α ε β φ : Type) where
  acts : α → List (Act ε α φ)
  start : β
  /-- the result after an event -/
  emitted : β → ε → β
  /-- the result after a call -/
  returned : β → β → β

namespace Procedure
variable {α ε β φ : Type} (p : Procedure α ε β φ)

def perform (call : α → Except φ (β × List ε)) :
    List (Act ε α φ) → β × List ε → Except φ (β × List ε)
  | [], s => .ok s
  | .emit e :: acts, s => perform call acts (p.emitted s.1 e, s.2 ++ [e])
  | .call a :: acts, s =>
    (call a).bind fun r => perform call acts (p.returned s.1 r.1, s.2 ++ r.2)
  | .fail f :: _, _ => .error f

def run (stop : φ) : Nat → α → Except φ (β × List ε)
  | 0, _ => .error stop
  | fuel+1, a => p.perform (run stop fuel) (p.acts a) (p.start, [])

/-- Acts that return. -/
inductive Performs : List (Act ε α φ) → β × List ε → β × List ε → Prop where
  | nil {s : β × List ε} : Performs [] s s
  | emit {e : ε} {acts : List (Act ε α φ)} {s r : β × List ε}
      (h : Performs acts (p.emitted s.1 e, s.2 ++ [e]) r) : Performs (.emit e :: acts) s r
  | call {a : α} {acts : List (Act ε α φ)} {s t r : β × List ε}
      (hcall : Performs (p.acts a) (p.start, []) t)
      (h : Performs acts (p.returned s.1 t.1, s.2 ++ t.2) r) : Performs (.call a :: acts) s r

/-- The call returns `r`. -/
def Returns (a : α) (r : β × List ε) : Prop := p.Performs (p.acts a) (p.start, []) r

/-- The first call makes the second. -/
def Calls (a b : α) : Prop := .call b ∈ p.acts a

/-- The first call comes to the second. -/
def Reaches : α → α → Prop := Relation.ReflTransGen p.Calls

def Fails (a : α) : Prop := ∃ f, .fail f ∈ p.acts a

/-- The calls that `a` comes to are well-founded, and none of them fails. -/
def Grounded (a : α) : Prop :=
  Acc (fun x y => p.Calls y x) a ∧ ∀ b, p.Reaches a b → ¬ p.Fails b

section Rules
variable {p} {a b : α} {e : ε} {s t r : β × List ε} {acts acts' : List (Act ε α φ)} {stop : φ}
  {call call' : α → Except φ (β × List ε)} {fuel more : Nat}

theorem perform_append (acts acts' : List (Act ε α φ)) (s : β × List ε) :
    p.perform call (acts ++ acts') s = (p.perform call acts s).bind (p.perform call acts') := by
  induction acts generalizing s with
  | nil => rfl
  | cons act acts ih =>
    cases act with
    | emit e => exact ih _
    | call a =>
      simp only [List.cons_append, perform]
      cases call a with
      | error f => rfl
      | ok r => exact ih _
    | fail f => rfl

/-! The bound. -/

/-- Calls that give up less often change nothing for what did not give up. -/
theorem perform_mono (hcall : ∀ a, call a ≠ .error stop → call' a = call a)
    (acts : List (Act ε α φ)) (s : β × List ε) (h : p.perform call acts s ≠ .error stop) :
    p.perform call' acts s = p.perform call acts s := by
  induction acts generalizing s with
  | nil => rfl
  | cons act acts ih =>
    cases act with
    | emit e => exact ih _ h
    | call a =>
      simp only [perform] at h ⊢
      cases hr : call a with
      | error f =>
        have hne : call a ≠ .error stop := by
          intro heq
          rw [heq] at h
          exact h rfl
        rw [hcall a hne, hr]
        rfl
      | ok r =>
        rw [hr] at h
        rw [hcall a (by rw [hr]; exact fun heq => by cases heq), hr]
        exact ih _ h
    | fail f => rfl

theorem run_succ (h : p.run stop fuel a ≠ .error stop) :
    p.run stop (fuel + 1) a = p.run stop fuel a := by
  induction fuel generalizing a with
  | zero => exact absurd rfl h
  | succ fuel ih => exact perform_mono (fun _ hb => ih hb) _ _ h

theorem run_mono (h : p.run stop fuel a ≠ .error stop) (hle : fuel ≤ more) :
    p.run stop more a = p.run stop fuel a := by
  induction hle with
  | refl => rfl
  | step _ ih => rw [run_succ (ih ▸ h), ih]

theorem performs_of_perform (hcall : ∀ a r, call a = .ok r → p.Returns a r)
    (h : p.perform call acts s = .ok r) : p.Performs acts s r := by
  induction acts generalizing s with
  | nil =>
    cases h
    exact .nil
  | cons act acts ih =>
    cases act with
    | emit e => exact .emit (ih h)
    | call a =>
      simp only [perform] at h
      cases ht : call a with
      | error f =>
        rw [ht] at h
        cases h
      | ok t =>
        rw [ht] at h
        exact .call (hcall a t ht) (ih h)
    | fail f => cases h

theorem returns_of_run (h : p.run stop fuel a = .ok r) : p.Returns a r := by
  induction fuel generalizing a r with
  | zero => cases h
  | succ fuel ih => exact performs_of_perform (fun b t hb => ih hb) h

theorem run_of_performs (h : p.Performs acts s r) :
    ∃ fuel, p.perform (p.run stop fuel) acts s = .ok r := by
  induction h with
  | nil => exact ⟨0, rfl⟩
  | emit _ ih => exact ih
  | @call a acts s t r _ _ ihcall ih =>
    obtain ⟨m, hm⟩ := ihcall
    obtain ⟨n, hn⟩ := ih
    have hrun : p.run stop (m + 1) a = .ok t := hm
    have hmore : p.run stop (max (m + 1) n) a = .ok t := by
      rw [run_mono (by rw [hrun]; exact fun heq => by cases heq) (Nat.le_max_left _ _), hrun]
    refine ⟨max (m + 1) n, ?_⟩
    simp only [perform, hmore]
    refine (perform_mono (fun b hb => run_mono hb (Nat.le_max_right _ _)) acts _ ?_).trans hn
    rw [hn]
    exact fun heq => by cases heq

theorem run_ok_iff : (∃ fuel, p.run stop fuel a = .ok r) ↔ p.Returns a r := by
  constructor
  · intro h
    obtain ⟨fuel, hrun⟩ := h
    exact returns_of_run hrun
  · intro h
    obtain ⟨fuel, hrun⟩ := run_of_performs h
    exact ⟨fuel + 1, hrun⟩

theorem Performs.unique (h : p.Performs acts s r) (h' : p.Performs acts s t) : r = t := by
  induction h generalizing t with
  | nil =>
    cases h'
    rfl
  | emit _ ih =>
    cases h' with
    | emit h' => exact ih h'
  | call _ _ ihcall ih =>
    cases h' with
    | call hcall' h' =>
      have heq := ihcall hcall'
      exact ih (heq ▸ h')

theorem Performs.append (h : p.Performs acts s t) (h' : p.Performs acts' t r) :
    p.Performs (acts ++ acts') s r := by
  induction h with
  | nil => exact h'
  | emit _ ih => exact .emit (ih h')
  | call hcall _ _ ih => exact .call hcall (ih h')

/-! Which calls return. -/

theorem grounded_of_calls (hcalls : ∀ b, p.Calls a b → p.Grounded b) (hfail : ¬ p.Fails a) :
    p.Grounded a := by
  refine ⟨.intro a fun b hb => (hcalls b hb).1, fun c hc => ?_⟩
  cases hc.cases_head with
  | inl heq => exact heq ▸ hfail
  | inr hhead =>
    obtain ⟨b, hb, hbc⟩ := hhead
    exact (hcalls b hb).2 c hbc

theorem Grounded.calls (h : p.Grounded a) (hb : p.Calls a b) : p.Grounded b :=
  ⟨h.1.inv hb, fun c hc => h.2 c (hc.head hb)⟩

/-- No act of acts that return fails, nor does a call that they come to. -/
theorem Performs.grounded (h : p.Performs acts s r) :
    (∀ b, .call b ∈ acts → p.Grounded b) ∧ ∀ f, .fail f ∉ acts := by
  induction h with
  | nil => exact ⟨fun b hb => (by cases hb), fun f hf => (by cases hf)⟩
  | emit _ ih =>
    refine ⟨fun b hb => ?_, fun f hf => ?_⟩
    · cases hb with
      | tail _ hb => exact ih.1 b hb
    · cases hf with
      | tail _ hf => exact ih.2 f hf
  | @call a _ _ _ _ _ _ ihcall ih =>
    refine ⟨fun b hb => ?_, fun f hf => ?_⟩
    · cases hb with
      | head => exact grounded_of_calls ihcall.1 fun hfails => hfails.elim ihcall.2
      | tail _ hb => exact ih.1 b hb
    · cases hf with
      | tail _ hf => exact ih.2 f hf

theorem performs_of_calls (hcalls : ∀ b, .call b ∈ acts → ∃ t, p.Returns b t)
    (hfail : ∀ f, .fail f ∉ acts) (s : β × List ε) : ∃ r, p.Performs acts s r := by
  induction acts generalizing s with
  | nil => exact ⟨s, .nil⟩
  | cons act acts ih =>
    have hrest := ih (fun b hb => hcalls b (List.mem_cons_of_mem _ hb))
      (fun f hf => hfail f (List.mem_cons_of_mem _ hf))
    cases act with
    | emit e =>
      obtain ⟨r, hr⟩ := hrest (p.emitted s.1 e, s.2 ++ [e])
      exact ⟨r, .emit hr⟩
    | call b =>
      obtain ⟨t, ht⟩ := hcalls b List.mem_cons_self
      obtain ⟨r, hr⟩ := hrest (p.returned s.1 t.1, s.2 ++ t.2)
      exact ⟨r, .call ht hr⟩
    | fail f => exact absurd List.mem_cons_self (hfail f)

theorem returns_iff : (∃ r, p.Returns a r) ↔ p.Grounded a := by
  constructor
  · intro h
    obtain ⟨r, hr⟩ := h
    exact grounded_of_calls hr.grounded.1 fun hfails => hfails.elim hr.grounded.2
  · intro h
    obtain ⟨hacc, hfails⟩ := h
    induction hacc with
    | intro a _ ih =>
      refine performs_of_calls (fun b hb => ?_) (fun f hf => ?_) _
      · exact ih b hb fun c hc => hfails c (hc.head hb)
      · exact hfails a .refl ⟨f, hf⟩

theorem perform_ends (hcalls : ∀ b, .call b ∈ acts → ∃ fuel, p.run stop fuel b ≠ .error stop)
    (hfail : .fail stop ∉ acts) :
    ∃ fuel, ∀ s, p.perform (p.run stop fuel) acts s ≠ .error stop := by
  induction acts with
  | nil => exact ⟨0, fun s heq => by cases heq⟩
  | cons act acts ih =>
    obtain ⟨n, hn⟩ := ih (fun b hb => hcalls b (List.mem_cons_of_mem _ hb))
      (fun hf => hfail (List.mem_cons_of_mem _ hf))
    cases act with
    | emit e => exact ⟨n, fun s => hn _⟩
    | call b =>
      obtain ⟨m, hm⟩ := hcalls b List.mem_cons_self
      refine ⟨max m n, fun s => ?_⟩
      simp only [perform]
      rw [run_mono hm (Nat.le_max_left m n)]
      cases hb : p.run stop m b with
      | error f => exact fun heq => hm (hb.trans heq)
      | ok r =>
        have hrest := hn (p.returned s.1 r.1, s.2 ++ r.2)
        have hmore := perform_mono (fun c hc => run_mono hc (Nat.le_max_right m n)) acts _ hrest
        exact fun heq => hrest (hmore.symm.trans heq)
    | fail f =>
      refine ⟨0, fun s heq => ?_⟩
      cases heq
      exact hfail List.mem_cons_self

theorem run_ends (hacc : Acc (fun x y => p.Calls y x) a) (hstop : ∀ b, .fail stop ∉ p.acts b) :
    ∃ fuel, p.run stop fuel a ≠ .error stop := by
  induction hacc with
  | intro a _ ih =>
    obtain ⟨fuel, hfuel⟩ := perform_ends (fun b hb => ih b hb) (hstop a)
    exact ⟨fuel + 1, hfuel _⟩

/-! Its events. -/

/-- An event of a call is its own or one of a call that it makes. -/
theorem reaches_emits : (∃ c, p.Reaches a c ∧ .emit e ∈ p.acts c) ↔
    .emit e ∈ p.acts a ∨ ∃ b c, .call b ∈ p.acts a ∧ p.Reaches b c ∧ .emit e ∈ p.acts c := by
  constructor
  · intro h
    obtain ⟨c, hac, hc⟩ := h
    cases hac.cases_head with
    | inl heq => exact .inl (heq ▸ hc)
    | inr hhead =>
      obtain ⟨b, hb, hbc⟩ := hhead
      exact .inr ⟨b, c, hb, hbc, hc⟩
  · intro h
    cases h with
    | inl hown => exact ⟨a, .refl, hown⟩
    | inr hcalls =>
      obtain ⟨b, c, hb, hbc, hc⟩ := hcalls
      exact ⟨c, hbc.head hb, hc⟩

theorem Performs.mem_events (h : p.Performs acts s r) (e : ε) :
    e ∈ r.2 ↔ e ∈ s.2 ∨ .emit e ∈ acts ∨
      ∃ b c, .call b ∈ acts ∧ p.Reaches b c ∧ .emit e ∈ p.acts c := by
  induction h with
  | nil => simp
  | emit _ ih =>
    rw [ih]
    simp [or_assoc]
  | @call a acts s t r _ _ ihcall ih =>
    have hcall : e ∈ t.2 ↔ ∃ c, p.Reaches a c ∧ .emit e ∈ p.acts c := by
      rw [ihcall, reaches_emits]
      simp
    rw [ih, List.mem_append, hcall]
    constructor
    · intro hcases
      rcases hcases with (hs | ⟨c, hac, hc⟩) | hown | ⟨b, c, hb, hbc, hc⟩
      · exact .inl hs
      · exact .inr (.inr ⟨a, c, List.mem_cons_self, hac, hc⟩)
      · exact .inr (.inl (List.mem_cons_of_mem _ hown))
      · exact .inr (.inr ⟨b, c, List.mem_cons_of_mem _ hb, hbc, hc⟩)
    · intro hcases
      rcases hcases with hs | hown | ⟨b, c, hb, hbc, hc⟩
      · exact .inl (.inl hs)
      · cases hown with
        | tail _ hown => exact .inr (.inl hown)
      · cases hb with
        | head => exact .inl (.inr ⟨c, hbc, hc⟩)
        | tail _ hb => exact .inr (.inr ⟨b, c, hb, hbc, hc⟩)

theorem Returns.mem_events (h : p.Returns a r) (e : ε) :
    e ∈ r.2 ↔ ∃ c, p.Reaches a c ∧ .emit e ∈ p.acts c := by
  rw [Performs.mem_events h, reaches_emits]
  simp

/-- Of events that its calls do not have, a call has its own, in the order of its acts. -/
theorem Performs.filterMap_events {γ : Type} {f : ε → Option γ} (h : p.Performs acts s r)
    (hcalls : ∀ b, .call b ∈ acts → ∀ c, p.Reaches b c → ∀ e, .emit e ∈ p.acts c → f e = none) :
    r.2.filterMap f = s.2.filterMap f ++ (acts.filterMap Act.event?).filterMap f := by
  induction h with
  | nil => simp
  | @emit e _ _ _ _ ih =>
    rw [ih fun b hb => hcalls b (List.mem_cons_of_mem _ hb), List.filterMap_append,
      List.append_assoc, ← List.filterMap_append]
    rfl
  | @call a acts s t r hcall _ _ ih =>
    have hnone : t.2.filterMap f = [] := by
      apply List.filterMap_eq_nil_iff.mpr
      intro e he
      obtain ⟨c, hac, hc⟩ := (Returns.mem_events hcall e).mp he
      exact hcalls a List.mem_cons_self c hac e hc
    rw [ih fun b hb => hcalls b (List.mem_cons_of_mem _ hb), List.filterMap_append, hnone,
      List.append_nil]
    rfl

end Rules

end Procedure

end Lib
