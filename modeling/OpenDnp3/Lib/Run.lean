import Mathlib.Data.List.Basic

/-!
# Runs of a state machine

A machine is a total step function on states and events. A run folds the step over a list of
events. An invariant that every step keeps, where the step meets a condition, holds in every state
that a run reaches through such steps.
-/

namespace Machine

variable {σ ε : Type*} (step : σ → ε → σ)

/-- The state that a list of events reaches. -/
def run (s : σ) (events : List ε) : σ := events.foldl step s

/-- Every step of the run meets the condition in the state that it starts from. -/
def StepsMeet (P : σ → ε → Prop) : σ → List ε → Prop
  | _, [] => True
  | s, e :: events => P s e ∧ StepsMeet P (step s e) events

/-- A run without events ends where it begins. -/
@[simp]
theorem run_nil (s : σ) : run step s [] = s := rfl

/-- The first event of a run. -/
@[simp]
theorem run_cons (s : σ) (e : ε) (events : List ε) :
    run step s (e :: events) = run step (step s e) events := rfl

/-- A run goes on from where a part of it has come. -/
theorem run_append (s : σ) (events events' : List ε) :
    run step s (events ++ events') = run step (run step s events) events' :=
  List.foldl_append ..

/-- The last event of a run. -/
theorem run_concat (s : σ) (events : List ε) (e : ε) :
    run step s (events ++ [e]) = step (run step s events) e := by
  rw [run_append, run_cons, run_nil]

/-- The condition holds of the later steps in the state that the earlier ones reach. -/
theorem StepsMeet.of_append {P : σ → ε → Prop} {s : σ} {events events' : List ε}
    (h : StepsMeet step P s (events ++ events')) :
    StepsMeet step P (run step s events) events' := by
  induction events generalizing s with
  | nil => exact h
  | cons e events ih => exact ih h.2

/-- The steps of a part of a run meet the condition. -/
theorem StepsMeet.left {P : σ → ε → Prop} {s : σ} {events events' : List ε}
    (h : StepsMeet step P s (events ++ events')) : StepsMeet step P s events := by
  induction events generalizing s with
  | nil => trivial
  | cons e events ih => exact ⟨h.1, ih h.2⟩

/-- The steps of two runs, one after the other. -/
theorem StepsMeet.append {P : σ → ε → Prop} {s : σ} {events events' : List ε}
    (h : StepsMeet step P s events) (h' : StepsMeet step P (run step s events) events') :
    StepsMeet step P s (events ++ events') := by
  induction events generalizing s with
  | nil => exact h'
  | cons e events ih => exact ⟨h.1, ih h.2 h'⟩

/-- Conditions that are equivalent on every step are equivalent on every run. -/
theorem StepsMeet.congr {P Q : σ → ε → Prop} (h : ∀ s e, P s e ↔ Q s e) (s : σ)
    (events : List ε) : StepsMeet step P s events ↔ StepsMeet step Q s events := by
  induction events generalizing s with
  | nil => exact Iff.rfl
  | cons e events ih => exact and_congr (h s e) (ih (step s e))

/-- The steps meet two conditions where they meet each of them. -/
theorem stepsMeet_and {P Q : σ → ε → Prop} (s : σ) (events : List ε) :
    StepsMeet step (fun s e => P s e ∧ Q s e) s events ↔
      StepsMeet step P s events ∧ StepsMeet step Q s events := by
  induction events generalizing s with
  | nil => exact (and_iff_left trivial).symm
  | cons e events ih => exact (and_congr_right' (ih (step s e))).trans and_and_and_comm

/-- An invariant that every step with the condition keeps holds after every run of such steps. -/
theorem run_invariant {Inv : σ → Prop} {P : σ → ε → Prop}
    (hstep : ∀ s e, Inv s → P s e → Inv (step s e)) (s : σ) (events : List ε) (h : Inv s)
    (hP : StepsMeet step P s events) : Inv (run step s events) := by
  induction events generalizing s with
  | nil => exact h
  | cons e events ih => exact ih (step s e) (hstep s e h hP.1) hP.2

/-- What every step with the condition does from a state with the invariant holds of every step of a
run of such steps. -/
theorem StepsMeet.of_invariant {Inv : σ → Prop} {P Q : σ → ε → Prop}
    (hstep : ∀ s e, Inv s → P s e → Inv (step s e) ∧ Q s e) {s : σ} {events : List ε} (h : Inv s)
    (hP : StepsMeet step P s events) : StepsMeet step Q s events := by
  induction events generalizing s with
  | nil => trivial
  | cons e events ih =>
    obtain ⟨hinv, hQ⟩ := hstep s e h hP.1
    exact ⟨hQ, ih hinv hP.2⟩

/-- What every step does from a state with an invariant that every step keeps holds of every step of
every run. -/
theorem StepsMeet.of_step {Inv : σ → Prop} {Q : σ → ε → Prop}
    (hstep : ∀ s e, Inv s → Inv (step s e) ∧ Q s e) {s : σ} (h : Inv s) (events : List ε) :
    StepsMeet step Q s events := by
  induction events generalizing s with
  | nil => trivial
  | cons e events ih =>
    obtain ⟨hinv, hQ⟩ := hstep s e h
    exact ⟨hQ, ih hinv⟩

/-- Two conditions that are equivalent on the steps from an invariant, which the steps with the
conditions keep, are equivalent on every run. -/
theorem StepsMeet.iff_of_invariant {Inv : σ → Prop} {P Q : σ → ε → Prop}
    (hiff : ∀ s e, Inv s → (P s e ↔ Q s e)) (hstep : ∀ s e, Inv s → Q s e → Inv (step s e)) {s : σ}
    (h : Inv s) (events : List ε) : StepsMeet step P s events ↔ StepsMeet step Q s events := by
  induction events generalizing s with
  | nil => exact Iff.rfl
  | cons e events ih =>
    constructor
    · rintro ⟨hP, hrest⟩
      have hQ := (hiff s e h).1 hP
      exact ⟨hQ, (ih (hstep s e h hQ)).1 hrest⟩
    · rintro ⟨hQ, hrest⟩
      exact ⟨(hiff s e h).2 hQ, (ih (hstep s e h hQ)).2 hrest⟩

/-- Where a step keeps a property exactly when it meets a condition, the property holds after a run
exactly when all steps meet the condition. -/
theorem run_iff_stepsMeet {Inv Q : σ → Prop} {P : σ → ε → Prop}
    (hstep : ∀ s e, Inv s → Inv (step s e) ∧ (Q (step s e) ↔ Q s ∧ P s e)) {s : σ} (h : Inv s)
    (events : List ε) : Q (run step s events) ↔ Q s ∧ StepsMeet step P s events := by
  induction events generalizing s with
  | nil => exact (and_iff_left trivial).symm
  | cons e events ih =>
    obtain ⟨hinv, hiff⟩ := hstep s e h
    rw [run_cons, ih hinv, hiff, and_assoc]
    rfl

/-- A condition on the events alone. -/
theorem StepsMeet.of_forall {Q : ε → Prop} {events : List ε} (h : ∀ e ∈ events, Q e) (s : σ) :
    StepsMeet step (fun _ e => Q e) s events := by
  induction events generalizing s with
  | nil => trivial
  | cons e events ih =>
    exact ⟨h e List.mem_cons_self, ih (fun e' hmem => h e' (List.mem_cons_of_mem _ hmem)) _⟩

/-- An invariant that every step keeps holds after every run. -/
theorem run_of_step {Inv : σ → Prop} (hstep : ∀ s e, Inv s → Inv (step s e)) {s : σ} (h : Inv s)
    (events : List ε) : Inv (run step s events) := by
  induction events generalizing s with
  | nil => exact h
  | cons e events ih => exact ih (hstep s e h)

instance StepsMeet.decidable (P : σ → ε → Prop) [∀ s e, Decidable (P s e)] :
    ∀ (s : σ) (events : List ε), Decidable (StepsMeet step P s events)
  | _, [] => instDecidableTrue
  | s, e :: events =>
    @instDecidableAnd _ _ inferInstance (StepsMeet.decidable P (step s e) events)

end Machine
