import Chip8.Proofs.Outcome.Iteration

namespace Chip8.Outcome

variable {σ τ α : Type} {view : σ → τ} {shows : Event → Bool}

structure Alike (view : σ → τ) (shows : Event → Bool) (o o' : Outcome σ α) : Prop where
  answer : o'.answer = o.answer
  state : view o'.state = view o.state
  events : o'.events.filter shows = o.events.filter shows

theorem shown_append {before before' events events' : Array Event}
    (first : before'.filter shows = before.filter shows)
    (last : events'.filter shows = events.filter shows) :
    (before' ++ events').filter shows = (before ++ events).filter shows := by
  rw [Array.filter_append Array.size_append, Array.filter_append Array.size_append, first, last]

namespace Alike

variable {o o' o'' : Outcome σ α}

theorem symm (h : Alike view shows o o') : Alike view shows o' o :=
  ⟨h.answer.symm, h.state.symm, h.events.symm⟩

theorem trans (h : Alike view shows o o') (h' : Alike view shows o' o'') :
    Alike view shows o o'' :=
  ⟨h'.answer.trans h.answer, h'.state.trans h.state, h'.events.trans h.events⟩

theorem after {events events' : Array Event}
    (before : events'.filter shows = events.filter shows) (h : Alike view shows o o') :
    Alike view shows (o.after events) (o'.after events') where
  answer := h.answer
  state := h.state
  events := shown_append before h.events

theorem andThen {β : Type} {next next' : α → σ → Outcome σ β} (h : Alike view shows o o')
    (both : ∀ value, o.answer = .ok value → o'.answer = .ok value →
      Alike view shows (next value o.state) (next' value o'.state)) :
    Alike view shows (o.andThen next) (o'.andThen next') := by
  unfold Outcome.andThen
  cases answer : o.answer with
  | error e =>
    rw [h.answer.trans answer]
    exact ⟨rfl, h.state, h.events⟩
  | ok value =>
    have answer' := h.answer.trans answer
    rw [answer']
    exact (both value answer answer').after h.events

theorem of_view {view : σ → σ} {f : σ → Outcome σ α} {s s' : σ}
    (h : Alike view shows (f s) (f (view s))) (h' : Alike view shows (f s') (f (view s')))
    (same : view s' = view s) : Alike view shows (f s) (f s') := by
  rw [same] at h'
  exact h.trans h'.symm

end Alike

theorem iterate_alike {step : σ → Outcome σ Unit} {p : σ → σ → Prop} {o o' : Outcome σ Unit}
    (step_alike : ∀ s s', view s' = view s → p s s' → Alike view shows (step s) (step s'))
    (start : Alike view shows o o') {n : Nat}
    (h : ∀ k < n, (iterate step k o).answer = .ok () → (iterate step k o').answer = .ok () →
      p (iterate step k o).state (iterate step k o').state) :
    Alike view shows (iterate step n o) (iterate step n o') := by
  induction n with
  | zero => exact start
  | succ n ih =>
    have before := ih fun k below => h k (Nat.lt_succ_of_lt below)
    -- The last steps begin in states that look the same, or neither of them is made.
    rw [iterate_succ, iterate_succ]
    apply before.andThen
    intro _ through through'
    exact step_alike _ _ before.state (h n (Nat.lt_succ_self n) through through')

theorem while_of_alike {run run' : Nat → Outcome σ Unit} {n : Nat} {p : σ → Prop}
    (alike : ∀ k < n, Alike view shows (run k) (run' k))
    (seen : ∀ s s', view s' = view s → p s → p s')
    (h : ∀ k < n, (run k).answer = .ok () → p (run k).state) :
    ∀ k < n, (run' k).answer = .ok () → p (run' k).state := by
  intro k below through'
  have through := (alike k below).answer.symm.trans through'
  exact seen _ _ (alike k below).state (h k below through)

end Chip8.Outcome
