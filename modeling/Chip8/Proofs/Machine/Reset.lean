import Chip8.Proofs.Machine.Atomicity
import Chip8.Proofs.Machine.Operations

namespace Chip8

namespace RandomSource

def origin : RandomSource → RandomSource
  | seeded seed _ => ofSeed seed
  | stream bytes _ => .stream bytes 0

theorem origin_next (source : RandomSource) : source.next.2.origin = source.origin := by
  cases source with
  | seeded seed generator =>
    unfold next
    cases generator.nextByte
    rfl
  | stream => rfl

theorem origin_ofSeed (seed : Int) : (ofSeed seed).origin = ofSeed seed := by
  simp only [ofSeed, origin]

theorem origin_rewind (source : RandomSource) : source.rewind.origin = source.origin := by
  cases source with
  | seeded seed generator => exact origin_ofSeed seed
  | stream => rfl

theorem origin_reseed (source : RandomSource) (seed : Int) :
    (source.reseed seed).origin = source.origin.reseed seed := by
  cases source with
  | seeded old generator =>
    simp only [reseed, origin_ofSeed]
    simp only [origin, ofSeed]
  | stream => rfl

theorem rewind_of_origin_eq_ofSeed {source : RandomSource} {seed : Int}
    (h : source.origin = .ofSeed seed) : source.rewind = .ofSeed seed := by
  cases source with
  | seeded => exact h
  | stream => cases h

theorem eq_stream_of_origin_eq {source : RandomSource} {bytes : Nat → UInt8}
    (h : source.origin = .stream bytes 0) : ∃ taken, source = .stream bytes taken := by
  cases source with
  | seeded => cases h
  | stream bytes' taken =>
    cases h
    exact ⟨taken, rfl⟩

def SameOrigin (source : RandomSource) (reseeds? : Option Int) : Prop :=
  ∀ seed, reseeds? = some seed → source.origin.reseed seed = source.origin

theorem sameOrigin_of_seeded {source : RandomSource} {seed : Int} {generator : Twister}
    (h : source = .seeded seed generator) {reseeds? : Option Int}
    (keeps : ∀ other, reseeds? = some other → other = seed) : source.SameOrigin reseeds? := by
  subst h
  intro other reseeds
  cases keeps other reseeds
  simp only [origin, ofSeed, reseed]

theorem sameOrigin_of_stream {source : RandomSource} {bytes : Nat → UInt8} {taken : Nat}
    (h : source = .stream bytes taken) (reseeds? : Option Int) : source.SameOrigin reseeds? := by
  subst h
  intro other reseeds
  rfl

section Sessions

variable {σ ι α : Type} {perform : ι → σ → Outcome σ α} {source : σ → RandomSource}
  {reseeds? : ι → Option Int} {s : σ} {history : List ι}

def Keeps (perform : ι → σ → Outcome σ α) (source : σ → RandomSource)
    (reseeds? : ι → Option Int) : Prop :=
  ∀ op s, (source s).SameOrigin (reseeds? op) →
    (source (perform op s).state).origin = (source s).origin

theorem origin_final (keeps : Keeps perform source reseeds?)
    (h : ∀ op ∈ history, (source s).SameOrigin (reseeds? op)) :
    (source (Session.final perform history s)).origin = (source s).origin := by
  -- How far a source has been read is no part of its origin, so it stays along the session.
  apply Session.final_induction (fun used => (source used).origin = (source s).origin) rfl
  intro op member used same
  have kept : (source used).SameOrigin (reseeds? op) := by
    intro seed reseeds
    rw [same]
    exact h op member seed reseeds
  exact (keeps op used kept).trans same

theorem rewind_final_of_seeded (keeps : Keeps perform source reseeds?) {seed : Int}
    {generator : Twister} (seeded : source s = .seeded seed generator)
    (h : ∀ op ∈ history, ∀ other, reseeds? op = some other → other = seed) :
    (source (Session.final perform history s)).rewind = .ofSeed seed := by
  apply rewind_of_origin_eq_ofSeed
  have kept := origin_final keeps fun op member => sameOrigin_of_seeded seeded (h op member)
  rw [kept, seeded]
  rfl

theorem final_of_stream (keeps : Keeps perform source reseeds?) {bytes : Nat → UInt8}
    {position : Nat} (scripted : source s = .stream bytes position) (history : List ι) :
    ∃ taken, source (Session.final perform history s) = .stream bytes taken := by
  apply eq_stream_of_origin_eq
  have same (op : ι) (_ : op ∈ history) : (source s).SameOrigin (reseeds? op) :=
    sameOrigin_of_stream scripted (reseeds? op)
  have kept := origin_final keeps same
  rw [kept, scripted]
  rfl

end Sessions

end RandomSource

namespace Machine

variable {m : Machine}

theorem origin_execute (m : Machine) (ins : Instruction) (pc : Int) :
    (m.execute ins pc).state.random.origin = m.random.origin := by
  cases drawn : ins with
  | random x nn => exact m.random.origin_next
  | _ =>
    subst drawn
    apply congrArg RandomSource.origin
    exact (execute_frame m _ pc).random nofun

theorem origin_cycle (m : Machine) : m.cycle.state.random.origin = m.random.origin := by
  refine cycle_induction (P := fun after => after.random.origin = m.random.origin) (fun _ => rfl) ?_
  intro word pc timers cycles completes
  exact origin_execute (m.fetch word) _ _

namespace Operation

def reseeds? : Operation → Option Int
  | random (.reseed seed) => some seed
  | _ => none

theorem keeps_random : RandomSource.Keeps perform Machine.random reseeds? := by
  intro op m h
  cases op with
  | cycle => exact m.origin_cycle
  | execute ins pc => exact m.origin_execute ins pc
  | loadRom rom =>
    obtain ⟨memory, eq⟩ := m.state_loadRom rom
    exact congrArg (fun m => m.random.origin) eq
  | reset => exact m.random.origin_rewind
  | random op =>
    cases op with
    | next => exact m.random.origin_next
    | reseed seed => exact (m.random.origin_reseed seed).trans (h seed rfl)
  | _ => rfl

end Operation

/-- The devices of the host in another machine, and that machine's memory if it is to be kept. -/
def adopt (fresh used : Machine) (clearMemory : Bool) : Machine :=
  { fresh with
    keySource := used.keySource
    listening := used.listening
    tickPerCycle := used.tickPerCycle
    memory := if clearMemory then fresh.memory else used.memory }

theorem reset_eq_adopt (m : Machine) (clearMemory : Bool) :
    m.reset clearMemory = (initial m.random.rewind).adopt m clearMemory := rfl

end Machine
end Chip8
