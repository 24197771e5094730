/-! Text without the control sequences of a terminal. What only begins like one stays. -/

namespace Chip8.Plain

def escape : Char := '\x1b'

def isParameter (c : Char) : Bool := '0' ≤ c && c ≤ '?'

def isIntermediate (c : Char) : Bool := ' ' ≤ c && c ≤ '/'

def isFinal (c : Char) : Bool := '@' ≤ c && c ≤ '~'

def afterFinal? (text : List Char) : Option (List Char) :=
  match (text.dropWhile isParameter).dropWhile isIntermediate with
  | last :: rest => if isFinal last then some rest else none
  | [] => none

/-- What follows the control sequence that a text begins with, if it begins with one. -/
def afterSequence? : List Char → Option (List Char)
  | first :: '[' :: rest => if first = escape then afterFinal? rest else none
  | _ => none

theorem length_lt_of_afterFinal? {text rest : List Char}
    (h : afterFinal? text = some rest) : rest.length < text.length := by
  have parameters : (text.dropWhile isParameter).length ≤ text.length :=
    (List.dropWhile_sublist _).length_le
  have others : ((text.dropWhile isParameter).dropWhile isIntermediate).length ≤
      (text.dropWhile isParameter).length :=
    (List.dropWhile_sublist _).length_le
  unfold afterFinal? at h
  split at h
  next last after parts =>
    rw [parts, List.length_cons] at others
    obtain ⟨_, same⟩ := Option.ite_none_right_eq_some.1 h
    obtain rfl := Option.some.inj same
    omega
  next => cases h

theorem length_lt_of_afterSequence? {text rest : List Char}
    (h : afterSequence? text = some rest) : rest.length < text.length := by
  fun_cases afterSequence? text with
  | case1 tail =>
    simp only [afterSequence?, ↓reduceIte] at h
    have := length_lt_of_afterFinal? h
    simp only [List.length_cons]
    omega
  | case2 first tail other => simp [afterSequence?, other] at h
  | case3 other => simp_all [afterSequence?]

def strip : List Char → List Char
  | [] => []
  | c :: rest =>
    match _h : afterSequence? (c :: rest) with
    | some after => strip after
    | none => c :: strip rest
termination_by text => text.length
decreasing_by
  · exact length_lt_of_afterSequence? ‹_›
  · simp

theorem afterSequence?_of_not_mem {text : List Char} (plain : escape ∉ text) :
    afterSequence? text = none := by
  fun_cases afterSequence? text with
  | case1 => simp at plain
  | case2 => rfl
  | case3 => rfl

theorem strip_of_not_mem {text : List Char} (plain : escape ∉ text) : strip text = text := by
  fun_induction strip text with
  | case1 => rfl
  | case2 c rest after found => simp [afterSequence?_of_not_mem plain] at found
  | case3 c rest _ ih => rw [ih (List.not_mem_of_not_mem_cons plain)]

def ofText (text : String) : String := String.ofList (strip text.toList)

end Chip8.Plain
