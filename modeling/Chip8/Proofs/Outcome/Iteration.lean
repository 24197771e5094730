import Chip8.Outcome

namespace Chip8.Outcome

variable {σ α : Type} {step : σ → Outcome σ Unit} {o : Outcome σ Unit} {e : Error}

def beeps (o : Outcome σ α) : List Nat := o.events.toList.filterMap Event.beepCycles?

@[simp]
theorem beeps_after (events : Array Event) (o : Outcome σ α) :
    (o.after events).beeps = events.toList.filterMap Event.beepCycles? ++ o.beeps := by
  simp [beeps, after]

theorem iterate_of_error (h : o.answer = .error e) (n : Nat) : iterate step n o = o := by
  cases n with
  | zero => rfl
  | succ n => simp only [iterate, h]

theorem iterate_one_of_ok (h : o.answer = .ok ()) :
    iterate step 1 o = (step o.state).after o.events := by
  simp only [iterate, h]

theorem iterate_add (k n : Nat) (o : Outcome σ Unit) :
    iterate step (k + n) o = iterate step n (iterate step k o) := by
  induction k generalizing o with
  | zero => rw [Nat.zero_add, iterate]
  | succ k ih =>
    rw [Nat.succ_add]
    cases answer : o.answer with
    | error e => rw [iterate_of_error answer, iterate_of_error answer, iterate_of_error answer]
    | ok value =>
      simp only [iterate, answer]
      exact ih _

theorem iterate_succ_of_ok {n : Nat} (h : (iterate step n o).answer = .ok ()) :
    iterate step (n + 1) o = (step (iterate step n o).state).after (iterate step n o).events := by
  rw [iterate_add, iterate_one_of_ok h]

theorem iterate_succ (n : Nat) (o : Outcome σ Unit) :
    iterate step (n + 1) o = (iterate step n o).andThen fun _ => step := by
  unfold andThen
  cases answer : (iterate step n o).answer with
  | error e =>
    rw [iterate_add, iterate_of_error answer]
    show _ = Outcome.mk (.error e) _ _
    rw [← answer]
  | ok => rw [iterate_succ_of_ok answer]

theorem iterate_of_step_error {k n : Nat} (h : k < n)
    (through : (iterate step k o).answer = .ok ())
    (stopped : (step (iterate step k o).state).answer = .error e) :
    iterate step n o = (step (iterate step k o).state).after (iterate step k o).events := by
  obtain ⟨rest, rfl⟩ := Nat.exists_eq_add_of_lt h
  rw [show k + rest + 1 = k + (1 + rest) by omega, iterate_add, iterate_add,
    iterate_one_of_ok through]
  apply iterate_of_error
  exact stopped

theorem exists_step_error_of_iterate {n : Nat} (start : o.answer = .ok ())
    (h : (iterate step n o).answer = .error e) :
    ∃ k < n, (iterate step k o).answer = .ok () ∧
      (step (iterate step k o).state).answer = .error e := by
  induction n with
  | zero => exact absurd (h.symm.trans start) (by simp)
  | succ n ih =>
    cases before : (iterate step n o).answer with
    | ok value =>
      refine ⟨n, Nat.lt_succ_self n, before, ?_⟩
      rw [iterate_succ_of_ok before] at h
      exact h
    | error e' =>
      have same : iterate step (n + 1) o = iterate step n o := by
        rw [iterate_add, iterate_of_error before]
      rw [same] at h
      obtain ⟨k, below, through, stopped⟩ := ih h
      exact ⟨k, Nat.lt_succ_of_lt below, through, stopped⟩

theorem iterate_induction (Inv : σ → Prop) (preserved : ∀ s, Inv s → Inv (step s).state)
    (start : Inv o.state) (n : Nat) : Inv (iterate step n o).state := by
  induction n generalizing o with
  | zero => exact start
  | succ n ih =>
    cases answer : o.answer with
    | error e => rwa [iterate_of_error answer]
    | ok =>
      simp only [iterate, answer]
      exact ih (preserved _ start)

theorem iterate_keeps {τ : Type} {f : σ → τ} {quiet : σ → Prop}
    (keeps : ∀ s, quiet s → f (step s).state = f s) {n : Nat}
    (h : ∀ k < n, (iterate step k o).answer = .ok () → quiet (iterate step k o).state) :
    f (iterate step n o).state = f o.state := by
  induction n with
  | zero => rfl
  | succ n ih =>
    have before := ih fun k below => h k (Nat.lt_succ_of_lt below)
    cases answer : (iterate step n o).answer with
    | error e => rwa [iterate_add, iterate_of_error answer]
    | ok =>
      rw [iterate_succ_of_ok answer]
      exact (keeps _ (h n (Nat.lt_succ_self n) answer)).trans before

/-- Adds up over the states in which an iteration begins a step. -/
def total (step : σ → Outcome σ Unit) (f : σ → Nat) (o : Outcome σ Unit) : Nat → Nat
  | 0 => 0
  | n + 1 =>
    match (iterate step n o).answer with
    | .ok () => total step f o n + f (iterate step n o).state
    | .error _ => total step f o n

theorem total_induction {p : σ → Prop} {R : σ → Nat → Array Event → Prop} {f : σ → Nat}
    (start : R o.state 0 o.events)
    (preserved : ∀ s n events, p s → R s n events →
      R (step s).state (n + f s) (events ++ (step s).events)) {n : Nat}
    (h : ∀ k < n, (iterate step k o).answer = .ok () → p (iterate step k o).state) :
    R (iterate step n o).state (total step f o n) (iterate step n o).events := by
  induction n with
  | zero => exact start
  | succ n ih =>
    have before := ih fun k below => h k (Nat.lt_succ_of_lt below)
    rw [total]
    cases answer : (iterate step n o).answer with
    | error e => rwa [iterate_add, iterate_of_error answer]
    | ok =>
      rw [iterate_succ_of_ok answer]
      exact preserved _ _ _ (h n (Nat.lt_succ_self n) answer) before

theorem iterate_within {τ : Type} {step' : τ → Outcome τ Unit} {put : σ → τ}
    (commutes : ∀ s, step' (put s) = (step s).within put) (n : Nat) :
    iterate step' n (o.within put) = (iterate step n o).within put := by
  induction n generalizing o with
  | zero => rfl
  | succ n ih =>
    cases answer : o.answer with
    | error e =>
      have stopped : (o.within put).answer = .error e := answer
      rw [iterate_of_error answer, iterate_of_error stopped]
    | ok =>
      have through : (o.within put).answer = .ok () := answer
      simp only [iterate, answer, through]
      show iterate step' n ((step' (put o.state)).after o.events) = _
      rw [commutes]
      exact ih (o := (step o.state).after o.events)

end Chip8.Outcome
