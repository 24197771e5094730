import Chip8.Headless.Run

namespace Chip8

theorem mapM_eq_ok {ε α β : Type} {f : α → Except ε β} {l : List α} {values : List β}
    (h : l.map f = values.map .ok) : l.mapM f = .ok values := by
  induction l generalizing values with
  | nil =>
    rw [List.map_nil, eq_comm, List.map_eq_nil_iff] at h
    rw [h]
    rfl
  | cons first rest ih =>
    cases values with
    | nil => cases h
    | cons value values =>
      obtain ⟨head, tail⟩ := List.cons.inj h
      rw [List.mapM_cons, head, ih tail]
      rfl

theorem mapM_eq_error {ε α β : Type} {f : α → Except ε β} {before after : List α} {x : α} {e : ε}
    (accepted : ∀ y ∈ before, ∃ value, f y = .ok value) (rejected : f x = .error e) :
    (before ++ x :: after).mapM f = .error e := by
  induction before with
  | nil =>
    rw [List.nil_append, List.mapM_cons, rejected]
    rfl
  | cons first rest ih =>
    obtain ⟨value, head⟩ := accepted first List.mem_cons_self
    have tail := ih fun y mem => accepted y (List.mem_cons_of_mem _ mem)
    rw [List.cons_append, List.mapM_cons, head, tail]
    rfl

theorem all_ok_or_first_error {ε α β : Type} (f : α → Except ε β) (l : List α) :
    (∃ values : List β, l.map f = values.map .ok) ∨
      ∃ before x after e, l = before ++ x :: after ∧ (∀ y ∈ before, ∃ value, f y = .ok value) ∧
        f x = .error e := by
  induction l with
  | nil => exact Or.inl ⟨[], rfl⟩
  | cons first rest ih =>
    cases head : f first with
    | error e => exact Or.inr ⟨[], first, rest, e, rfl, nofun, head⟩
    | ok value =>
      rcases ih with ⟨values, tail⟩ | ⟨before, x, after, e, rfl, accepted, rejected⟩
      · exact Or.inl ⟨value :: values, by rw [List.map_cons, List.map_cons, head, tail]⟩
      · refine Or.inr ⟨first :: before, x, after, e, rfl, ?_, rejected⟩
        exact List.forall_mem_cons.2 ⟨⟨value, head⟩, accepted⟩

def BadKey.text : BadKey → String
  | notNumeral text | notOnKeypad text | unmapped text => text

theorem Key.eq_badKey_of_ofNumeral {text : String} {e : Error} (h : ofNumeral text = .error e) :
    ∃ cause : BadKey, e = .badKey cause ∧ cause.text = text := by
  unfold ofNumeral at h
  split at h
  · cases h
    exact ⟨_, rfl, rfl⟩
  · split at h
    · cases h
    · cases h
      exact ⟨_, rfl, rfl⟩

theorem Key.eq_badKey_of_ofHostName {text : String} {e : Error} (h : ofHostName text = .error e) :
    ∃ cause : BadKey, e = .badKey cause ∧ cause.text = text := by
  unfold ofHostName at h
  split at h
  · cases h
  · cases h
    exact ⟨_, rfl, rfl⟩

namespace Headless.Invocation

variable {inv : Invocation}

def readings (inv : Invocation) : List (String × Except Error Key) :=
  inv.keys.map (fun text => (text, Key.ofNumeral text)) ++
    inv.hostKeys.map fun text => (text, Key.ofHostName text)

def Holds (inv : Invocation) (held : List Key) : Prop :=
  inv.readings.map Prod.snd = held.map .ok

def RejectsFirst (inv : Invocation) (text : String) (cause : BadKey) : Prop :=
  ∃ before after, inv.readings = before ++ (text, .error (.badKey cause)) :: after ∧
    ∀ reading ∈ before, ∃ key, reading.2 = .ok key

theorem heldKeys_eq (inv : Invocation) : inv.heldKeys = inv.readings.mapM Prod.snd := by
  simp only [readings, List.mapM_append, List.mapM_map]
  rfl

theorem heldKeys_of_holds {held : List Key} (h : inv.Holds held) : inv.heldKeys = .ok held := by
  rw [heldKeys_eq]
  exact mapM_eq_ok h

theorem heldKeys_of_rejectsFirst {text : String} {cause : BadKey}
    (h : inv.RejectsFirst text cause) : inv.heldKeys = .error (.badKey cause) := by
  obtain ⟨before, after, split, accepted⟩ := h
  rw [heldKeys_eq, split]
  exact mapM_eq_error accepted rfl

theorem eq_badKey_of_mem_readings {text : String} {e : Error}
    (h : (text, .error e) ∈ inv.readings) :
    ∃ cause : BadKey, e = .badKey cause ∧ cause.text = text := by
  rcases List.mem_append.1 h with numeral | name
  · obtain ⟨_, -, same⟩ := List.mem_map.1 numeral
    obtain ⟨rfl, rejected⟩ := Prod.mk.inj same
    exact Key.eq_badKey_of_ofNumeral rejected
  · obtain ⟨_, -, same⟩ := List.mem_map.1 name
    obtain ⟨rfl, rejected⟩ := Prod.mk.inj same
    exact Key.eq_badKey_of_ofHostName rejected

theorem text_of_rejectsFirst {text : String} {cause : BadKey} (h : inv.RejectsFirst text cause) :
    cause.text = text := by
  obtain ⟨before, after, split, -⟩ := h
  have mem : (text, .error (.badKey cause)) ∈ inv.readings :=
    split ▸ List.mem_append_cons_self
  obtain ⟨_, same, reported⟩ := eq_badKey_of_mem_readings mem
  cases same
  exact reported

theorem holds_or_rejectsFirst (inv : Invocation) :
    (∃ held, inv.Holds held) ∨ ∃ text cause, inv.RejectsFirst text cause := by
  rcases all_ok_or_first_error Prod.snd inv.readings with
    held | ⟨before, ⟨text, reading⟩, after, e, split, accepted, rejected⟩
  · exact Or.inl held
  · cases rejected
    have mem : (text, .error e) ∈ inv.readings := split ▸ List.mem_append_cons_self
    obtain ⟨cause, rfl, -⟩ := eq_badKey_of_mem_readings mem
    exact Or.inr ⟨text, cause, before, after, split, accepted⟩

end Headless.Invocation
end Chip8
