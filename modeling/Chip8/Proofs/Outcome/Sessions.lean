import Chip8.Outcome

namespace Chip8

structure Entry (α τ : Type) where
  answer : Except Error α
  events : Array Event
  seen : τ

def Outcome.quiet {σ α : Type} (result : Except Error α × σ) : Outcome σ α :=
  ⟨result.1, result.2, #[]⟩

namespace Session

variable {σ τ ι α : Type} (perform : ι → σ → Outcome σ α) (see : σ → τ)

def final : List ι → σ → σ
  | [], s => s
  | op :: rest, s => final rest (perform op s).state

def transcript : List ι → σ → List (Entry α τ)
  | [], _ => []
  | op :: rest, s =>
    ⟨(perform op s).answer, (perform op s).events, see (perform op s).state⟩ ::
      transcript rest (perform op s).state

/-- Counts along a session, by what each operation makes of the count before it. -/
def tally (count : ι → σ → Nat → Nat) : List ι → σ → Nat → Nat
  | [], _, n => n
  | op :: rest, s, n => tally count rest (perform op s).state (count op s n)

def journal : List ι → σ → Array Event
  | [], _ => #[]
  | op :: rest, s => (perform op s).events ++ journal rest (perform op s).state

/-- What is asked of each operation and of the state in which it is performed. -/
def Throughout (p : ι → σ → Prop) : List ι → σ → Prop
  | [], _ => True
  | op :: rest, s => p op s ∧ Throughout p rest (perform op s).state

instance decidableThroughout (p : ι → σ → Prop) [∀ op s, Decidable (p op s)] :
    ∀ ops s, Decidable (Throughout perform p ops s)
  | [], _ => .isTrue trivial
  | op :: rest, s =>
    have := decidableThroughout p rest (perform op s).state
    inferInstanceAs (Decidable (_ ∧ _))

variable {perform see} {s : σ}

theorem journal_induction {p : ι → σ → Prop} {R : σ → Nat → Array Event → Prop}
    {count : ι → σ → Nat → Nat} {ops : List ι} {n : Nat} {events : Array Event}
    (start : R s n events) (holds : Throughout perform p ops s)
    (preserved : ∀ op ∈ ops, ∀ s n events, p op s → R s n events →
      R (perform op s).state (count op s n) (events ++ (perform op s).events)) :
    R (final perform ops s) (tally perform count ops s n) (events ++ journal perform ops s) := by
  induction ops generalizing s n events with
  | nil =>
    rw [journal, Array.append_empty]
    exact start
  | cons op rest ih =>
    rw [journal, ← Array.append_assoc]
    apply ih
    · exact preserved op List.mem_cons_self s n events holds.1 start
    · exact holds.2
    · intro op' member
      exact preserved op' (List.mem_cons_of_mem op member)

theorem throughout_of_forall {p : ι → σ → Prop} {ops : List ι} (h : ∀ op ∈ ops, ∀ s, p op s) :
    Throughout perform p ops s := by
  induction ops generalizing s with
  | nil => trivial
  | cons op rest ih =>
    exact ⟨h op List.mem_cons_self s, ih fun op' member => h op' (List.mem_cons_of_mem op member)⟩

theorem tally_induction {R : σ → Nat → Prop} {count : ι → σ → Nat → Nat} {ops : List ι} {n : Nat}
    (start : R s n)
    (preserved : ∀ op ∈ ops, ∀ s n, R s n → R (perform op s).state (count op s n)) :
    R (final perform ops s) (tally perform count ops s n) := by
  let R' : σ → Nat → Array Event → Prop := fun s n _ => R s n
  have begun : R' s n #[] := start
  have holds : Throughout perform (fun _ _ => True) ops s :=
    throughout_of_forall fun _ _ _ => trivial
  exact journal_induction begun holds fun op member s n _ _ => preserved op member s n

theorem final_induction (Inv : σ → Prop) {ops : List ι} (start : Inv s)
    (preserved : ∀ op ∈ ops, ∀ s, Inv s → Inv (perform op s).state) :
    Inv (final perform ops s) := by
  induction ops generalizing s with
  | nil => exact start
  | cons op rest ih =>
    apply ih
    · exact preserved op List.mem_cons_self s start
    · intro op' member
      exact preserved op' (List.mem_cons_of_mem op member)

/-- A view of the states that commutes with every operation leaves a transcript as it is. -/
theorem transcript_view {σ' : Type} {perform' : ι → σ' → Outcome σ' α} {see' : σ' → τ}
    {view : σ → σ'} (shown : ∀ s, see' (view s) = see s)
    (commutes : ∀ op s, perform' op (view s) = (perform op s).within view) (ops : List ι) :
    transcript perform' see' ops (view s) = transcript perform see ops s := by
  induction ops generalizing s with
  | nil => rfl
  | cons op rest ih =>
    have first : see' (view (perform op s).state) = see (perform op s).state := shown _
    simp only [transcript, commutes, Outcome.within]
    rw [first, ih]

theorem transcript_within {put : σ → σ} (hidden : ∀ s, see (put s) = see s)
    (commutes : ∀ op s, perform op (put s) = (perform op s).within put) (ops : List ι) :
    transcript perform see ops (put s) = transcript perform see ops s :=
  transcript_view hidden commutes ops

end Session
end Chip8
