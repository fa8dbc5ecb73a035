import Mathlib.Data.List.Basic
import Mathlib.Data.List.TakeWhile

/-!
# Terminated texts and readers

A text in memory, or in a stream, ends at a mark, not at a length.  A reader takes a
text one character at a time, and stops by itself once it knows its answer.

* `upTo mark memory`: the text that starts where the memory starts.  It depends
  on what comes after a block of memory exactly when the block holds no mark.
* `completed mark stream`: the texts a stream holds, each ended by its mark.
* `Reader`: a reader with its state.  `Reader.read_append_of_finishes` says that
  a reader that finishes inside a block never sees what comes after it;
  `Reader.Open` says that a text may still be accepted and may still be rejected.
-/

namespace Text

variable {Char : Type*} [DecidableEq Char]

/-- The text at the start of `memory`, ended by `mark` or by the end of memory. -/
def upTo (mark : Char) (memory : List Char) : List Char :=
  memory.takeWhile (· ≠ mark)

@[simp] theorem upTo_nil (mark : Char) : upTo mark ([] : List Char) = [] := rfl

@[simp] theorem upTo_cons_self (mark : Char) (rest : List Char) :
    upTo mark (mark :: rest) = [] := by
  simp [upTo]

theorem upTo_cons_of_ne {mark head : Char} (hhead : head ≠ mark) (rest : List Char) :
    upTo mark (head :: rest) = head :: upTo mark rest := by
  simp [upTo, hhead]

theorem upTo_append_of_mem {mark : Char} {memory : List Char} (hmark : mark ∈ memory)
    (rest : List Char) : upTo mark (memory ++ rest) = upTo mark memory := by
  induction memory with
  | nil => exact absurd hmark (List.not_mem_nil)
  | cons head tail ih =>
      rw [List.cons_append]
      by_cases hhead : head = mark
      · rw [hhead, upTo_cons_self, upTo_cons_self]
      · have htail : mark ∈ tail := by
          rcases List.mem_cons.mp hmark with heq | htail
          · exact absurd heq.symm hhead
          · exact htail
        rw [upTo_cons_of_ne hhead, upTo_cons_of_ne hhead, ih htail]

theorem upTo_append_of_not_mem {mark : Char} {memory : List Char} (hmark : mark ∉ memory)
    (rest : List Char) : upTo mark (memory ++ rest) = memory ++ upTo mark rest := by
  induction memory with
  | nil => rfl
  | cons head tail ih =>
      have hhead : head ≠ mark := by
        intro heq
        exact hmark (heq ▸ List.mem_cons_self ..)
      have htail : mark ∉ tail := by
        intro hmem
        exact hmark (List.mem_cons_of_mem _ hmem)
      rw [List.cons_append, upTo_cons_of_ne hhead, ih htail, List.cons_append]

theorem upTo_eq_self {mark : Char} {memory : List Char} (hmark : mark ∉ memory) :
    upTo mark memory = memory := by
  have hself := upTo_append_of_not_mem hmark []
  rwa [upTo_nil, List.append_nil] at hself

theorem upTo_append_mark (mark : Char) (text rest : List Char) :
    upTo mark (text ++ mark :: rest) = upTo mark text := by
  by_cases hmark : mark ∈ text
  · exact upTo_append_of_mem hmark _
  · rw [upTo_append_of_not_mem hmark, upTo_cons_self, List.append_nil, upTo_eq_self hmark]

/-! ## The texts of a stream -/

/-- The texts a stream holds, in order.  What comes after the last mark is none. -/
def completed (mark : Char) (stream : List Char) : List (List Char) :=
  (stream.splitOn mark).dropLast

theorem completed_of_not_mem {mark : Char} {stream : List Char} (hmark : mark ∉ stream) :
    completed mark stream = [] := by
  rw [completed, List.splitOn_eq_singleton hmark, List.dropLast_singleton]

theorem completed_append_mark {mark : Char} {text : List Char} (hmark : mark ∉ text)
    (rest : List Char) :
    completed mark (text ++ mark :: rest) = text :: completed mark rest := by
  rw [completed, List.splitOn_append_cons_self_of_not_mem hmark,
    List.dropLast_cons_of_ne_nil (List.splitOn_ne_nil mark rest), completed]

/-- A started text, if it is completed, begins as it was started. -/
theorem completed_append_cases {mark : Char} {text : List Char} (hmark : mark ∉ text)
    (rest : List Char) :
    completed mark (text ++ rest) = [] ∨
      ∃ more others, completed mark (text ++ rest) = (text ++ more) :: others := by
  by_cases hrest : mark ∈ rest
  · obtain ⟨more, others, rfl, hmore⟩ := List.eq_append_cons_of_mem hrest
    refine .inr ⟨more, completed mark others, ?_⟩
    rw [← List.append_assoc]
    apply completed_append_mark
    simp [hmark, hmore]
  · refine .inl (completed_of_not_mem ?_)
    simp [hmark, hrest]

/-- Stopping at the first text that fails a test loses nothing exactly when every
later text fails it too. -/
theorem map_takeWhile_eq_map_filter_iff {Line Result : Type*} (test : Line → Bool)
    (f : Line → Result) (lines : List Line) :
    (lines.takeWhile test).map f = (lines.filter test).map f ↔
      ∀ line ∈ lines.dropWhile test, test line = false := by
  have hkept : (lines.takeWhile test).filter test = lines.takeWhile test :=
    List.filter_eq_self.mpr fun line hmem => List.mem_takeWhile_imp hmem
  have hsplit : lines.filter test = lines.takeWhile test ++ (lines.dropWhile test).filter test := by
    calc lines.filter test
        = (lines.takeWhile test ++ lines.dropWhile test).filter test := by
          rw [List.takeWhile_append_dropWhile]
      _ = lines.takeWhile test ++ (lines.dropWhile test).filter test := by
          rw [List.filter_append, hkept]
  rw [hsplit, List.map_append, List.self_eq_append_right, List.map_eq_nil_iff,
    List.filter_eq_nil_iff]
  simp only [Bool.not_eq_true]

end Text

/-- A reader: its state while it reads, or the result it stopped with. -/
structure Reader (State Char Error Result : Type*) where
  start : State
  feed : State → Char → State ⊕ Except Error Result
  /-- The result when the text ends here. -/
  atEnd : State → Except Error Result

namespace Reader

variable {State Char Error Result : Type*} (reader : Reader State Char Error Result)

def run (state : State) : List Char → State ⊕ Except Error Result
  | [] => .inl state
  | character :: rest =>
      match reader.feed state character with
      | .inl next => run next rest
      | .inr result => .inr result

def read (text : List Char) : Except Error Result :=
  match reader.run reader.start text with
  | .inl state => reader.atEnd state
  | .inr result => result

/-- The reader stops by itself inside `text`. -/
def Finishes (text : List Char) : Prop :=
  (reader.run reader.start text).isRight = true

instance (text : List Char) : Decidable (reader.Finishes text) :=
  inferInstanceAs (Decidable (_ = true))

/-- Some characters among `Allowed` complete the text to one that is accepted, and
others to one that is rejected. -/
structure Open (Allowed : Char → Prop) (text : List Char) : Prop where
  accepted : ∃ rest result, (∀ character ∈ rest, Allowed character) ∧
    reader.read (text ++ rest) = .ok result
  rejected : ∃ rest error, (∀ character ∈ rest, Allowed character) ∧
    reader.read (text ++ rest) = .error error

variable {reader}

theorem run_append_of_inr {state : State} {text : List Char} {result : Except Error Result}
    (hrun : reader.run state text = .inr result) (rest : List Char) :
    reader.run state (text ++ rest) = .inr result := by
  induction text generalizing state with
  | nil => simp [run] at hrun
  | cons character tail ih =>
      rw [List.cons_append]
      unfold run at hrun ⊢
      cases hfeed : reader.feed state character with
      | inl next =>
          rw [hfeed] at hrun
          exact ih hrun
      | inr stopped =>
          rw [hfeed] at hrun
          exact hrun

/-- What comes after the place where a reader stops does not matter. -/
theorem read_append_of_finishes {text : List Char} (hfinishes : reader.Finishes text)
    (rest : List Char) : reader.read (text ++ rest) = reader.read text := by
  obtain ⟨result, hresult⟩ := Sum.isRight_iff.mp hfinishes
  unfold read
  rw [run_append_of_inr hresult rest, hresult]

section Exactly

variable [DecidableEq Char]

/-- The reader that accepts one text.  Its state is what it still expects. -/
def exactly (expected : List Char) (result : Result) (atEnd mismatch : Error) :
    Reader (List Char) Char Error Result where
  start := expected
  feed remaining character :=
    match remaining with
    | [] => .inr (.error mismatch)
    | head :: rest =>
        if character ≠ head then .inr (.error mismatch)
        else if rest = [] then .inr (.ok result)
        else .inl rest
  atEnd _ := .error atEnd

variable (expected : List Char) (result : Result) (atEnd mismatch : Error)

theorem run_exactly_self {remaining : List Char} (hremaining : remaining ≠ []) :
    (exactly expected result atEnd mismatch).run remaining remaining = .inr (.ok result) := by
  induction remaining with
  | nil => exact absurd rfl hremaining
  | cons character rest ih =>
      by_cases hrest : rest = []
      · simp [run, exactly, hrest]
      · simpa [run, exactly, hrest] using ih hrest

theorem run_exactly_part (text : List Char) {remaining : List Char} (hremaining : remaining ≠ []) :
    (exactly expected result atEnd mismatch).run (text ++ remaining) text = .inl remaining := by
  induction text with
  | nil => rfl
  | cons character rest ih => simpa [run, exactly, hremaining] using ih

variable {expected}

/-- A part of the text can still become it, or break off. -/
theorem exactly_open {Allowed : Char → Prop} {text remaining : List Char}
    (hexpected : text ++ remaining = expected) (hremaining : remaining ≠ [])
    (hallowed : ∀ character ∈ remaining, Allowed character) :
    (exactly expected result atEnd mismatch).Open Allowed text where
  accepted := by
    have hwhole : expected ≠ [] := hexpected ▸ List.append_ne_nil_of_right_ne_nil text hremaining
    refine ⟨remaining, result, hallowed, ?_⟩
    rw [hexpected, read, show (exactly expected result atEnd mismatch).start = expected from rfl,
      run_exactly_self expected result atEnd mismatch hwhole]
  rejected := by
    have hpart := run_exactly_part expected result atEnd mismatch text hremaining
    rw [hexpected] at hpart
    refine ⟨[], atEnd, by simp, ?_⟩
    rw [List.append_nil, read,
      show (exactly expected result atEnd mismatch).start = expected from rfl, hpart]
    rfl

end Exactly

end Reader
