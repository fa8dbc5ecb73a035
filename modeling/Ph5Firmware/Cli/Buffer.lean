import Ph5Firmware.Cli
import Ph5Firmware.Library.CString
import Ph5Firmware.Library.Runs

/-!
# The buffer of the command line

In `Cli` the buffer is a vector of 128 bytes, so a write outside it cannot be stated.  The
code writes through an index of eight bits and an array without bounds.  A `RawCli` has the
index and a memory, with `cliBuffer` at address 0 and anything behind it; nothing in it
keeps a write inside.

* `processCmdChar_cases`: everything one character can do.
* `Fills`: up to the end of the buffer the index is the number of characters stored since
  the last line was parsed, and these stand in the buffer.
* `buffer_safe`: every character of every stream is safe.
* `rawParsedFrom_eq`: the two models of the command line parse the same texts.
-/

namespace Ph5Firmware

structure RawCli where
  cliBufferIndex : UInt8
  /-- `cliBuffer` begins at address 0. -/
  ram : Ram

namespace RawCli

/-- `processCmdChar` on the memory itself.  The second component says whether the line is
echoed and parsed, from the memory the call leaves. -/
def processCmdChar (cli : RawCli) (c : UInt8) : RawCli × Bool :=
  if cli.cliBufferIndex.toNat < cliBufferSize - 1 then
    if c = carriageReturn then (cli, false)
    else if c = lineFeed then
      ({ cliBufferIndex := 0, ram := cli.ram.store cli.cliBufferIndex.toNat 0 }, true)
    else
      ({ cliBufferIndex := cli.cliBufferIndex + 1
         ram := cli.ram.store cli.cliBufferIndex.toNat c }, false)
  else if cli.cliBufferIndex.toNat = cliBufferSize - 1 then
    ({ cliBufferIndex := cli.cliBufferIndex + 1
       ram := cli.ram.store cli.cliBufferIndex.toNat 0 }, false)
  else (cli, false)

/-- The character is written into the buffer. -/
def stores (cli : RawCli) (c : UInt8) : Bool :=
  decide (cli.cliBufferIndex.toNat < cliBufferSize - 1 ∧ c ≠ carriageReturn ∧ c ≠ lineFeed)

/-- The buffer holds a line that has not ended. -/
structure Line (cli : RawCli) (line : List UInt8) : Prop where
  index : cli.cliBufferIndex.toNat = line.length
  bytes : ∀ offset < line.length, cli.ram.bytes offset = line.getD offset 0

end RawCli

/-- The command line, and the characters stored since the last line was parsed. -/
structure BufferRun where
  cli : RawCli
  stored : List UInt8

namespace BufferRun

/-- At the start of the program, with any bytes in memory. -/
def booted (memory : ℕ → UInt8) : BufferRun :=
  { cli := { cliBufferIndex := 0, ram := { bytes := memory, written := [] } }, stored := [] }

def step (run : BufferRun) (c : UInt8) : BufferRun :=
  { cli := (run.cli.processCmdChar c).1
    stored :=
      if (run.cli.processCmdChar c).2 then []
      else if run.cli.stores c then run.stored ++ [c]
      else run.stored }

/-- What a character may do.  Where a line is read, the characters stored since the last
one, and nothing else, stand at the start of the buffer, with a NUL at the index. -/
structure Safe (run : BufferRun) (c : UInt8) : Prop where
  index_le : (run.step c).cli.cliBufferIndex.toNat ≤ cliBufferSize
  /-- The index does not wrap. -/
  index_grows : (run.cli.processCmdChar c).2 = false →
    run.cli.cliBufferIndex.toNat ≤ (run.step c).cli.cliBufferIndex.toNat
  written : ∀ address ∈ (run.step c).cli.ram.written, address < cliBufferSize
  terminated : (run.cli.processCmdChar c).2 = true →
    run.cli.cliBufferIndex.toNat = run.stored.length ∧ run.stored.length < cliBufferSize ∧
      CString.Holds (run.step c).cli.ram.bytes 0 run.stored

/-- What holds between two characters. -/
structure Fills (run : BufferRun) : Prop where
  index_le : run.cli.cliBufferIndex.toNat ≤ cliBufferSize
  written : ∀ address ∈ run.cli.ram.written, address < cliBufferSize
  line : run.cli.cliBufferIndex.toNat < cliBufferSize → run.cli.Line run.stored

/-! ## One character -/

/-- Everything one character can do. -/
theorem processCmdChar_cases (cli : RawCli) (c : UInt8) :
    (cli.processCmdChar c = (cli, false) ∧ cli.stores c = false) ∨
    (cli.cliBufferIndex.toNat < cliBufferSize - 1 ∧
      cli.processCmdChar c =
        ({ cliBufferIndex := 0, ram := cli.ram.store cli.cliBufferIndex.toNat 0 }, true)) ∨
    (cli.cliBufferIndex.toNat < cliBufferSize - 1 ∧ cli.stores c = true ∧
      cli.processCmdChar c =
        ({ cliBufferIndex := cli.cliBufferIndex + 1
           ram := cli.ram.store cli.cliBufferIndex.toNat c }, false)) ∨
    (cli.cliBufferIndex.toNat = cliBufferSize - 1 ∧ cli.stores c = false ∧
      cli.processCmdChar c =
        ({ cliBufferIndex := cli.cliBufferIndex + 1
           ram := cli.ram.store cli.cliBufferIndex.toNat 0 }, false)) := by
  unfold RawCli.processCmdChar RawCli.stores
  by_cases hinside : cli.cliBufferIndex.toNat < cliBufferSize - 1
  · by_cases hreturn : c = carriageReturn
    · left
      rw [if_pos hinside, if_pos hreturn]
      exact ⟨rfl, decide_eq_false fun hstores => hstores.2.1 hreturn⟩
    · by_cases hfeed : c = lineFeed
      · right; left
        rw [if_pos hinside, if_neg hreturn, if_pos hfeed]
        exact ⟨hinside, rfl⟩
      · right; right; left
        rw [if_pos hinside, if_neg hreturn, if_neg hfeed]
        exact ⟨hinside, decide_eq_true ⟨hinside, hreturn, hfeed⟩, rfl⟩
  · have hfull := decide_eq_false fun hstores : cli.cliBufferIndex.toNat < cliBufferSize - 1 ∧
      c ≠ carriageReturn ∧ c ≠ lineFeed => hinside hstores.1
    by_cases hend : cli.cliBufferIndex.toNat = cliBufferSize - 1
    · right; right; right
      rw [if_neg hinside, if_pos hend]
      exact ⟨hend, hfull, rfl⟩
    · left
      rw [if_neg hinside, if_neg hend]
      exact ⟨rfl, hfull⟩

variable {run : BufferRun} {c : UInt8}

theorem toNat_succ {index : UInt8} (hinside : index.toNat < cliBufferSize) :
    (index + 1).toNat = index.toNat + 1 := by
  have hsize : cliBufferSize = 128 := rfl
  rw [UInt8.toNat_add]
  simp only [UInt8.reduceToNat]
  omega

theorem written_store {ram : Ram} {address : ℕ} (byte : UInt8) (hinside : address < cliBufferSize)
    (hwritten : ∀ other ∈ ram.written, other < cliBufferSize) :
    ∀ other ∈ (ram.store address byte).written, other < cliBufferSize := by
  intro other hother
  rcases (ram.mem_written_store address byte).mp hother with rfl | hbefore
  · exact hinside
  · exact hwritten other hbefore

/-- The line is closed behind its last character. -/
theorem holds_close {cli : RawCli} {line : List UInt8} (hline : cli.Line line) :
    CString.Holds (cli.ram.store cli.cliBufferIndex.toNat 0).bytes 0 line := by
  have hindex := hline.index
  intro offset hoffset
  rw [Nat.zero_add]
  rcases Nat.lt_or_eq_of_le hoffset with hbefore | rfl
  · rw [Ram.store_bytes_of_ne _ _ (by omega), hline.bytes offset hbefore]
  · rw [← hindex, Ram.store_bytes_self, hindex, List.getD_eq_default _ _ (Nat.le_refl _)]

/-- A stored character stands behind the ones before it. -/
theorem line_append {cli : RawCli} {line : List UInt8} (hline : cli.Line line)
    (hinside : cli.cliBufferIndex.toNat < cliBufferSize) (c : UInt8) :
    RawCli.Line
      { cliBufferIndex := cli.cliBufferIndex + 1
        ram := cli.ram.store cli.cliBufferIndex.toNat c } (line ++ [c]) := by
  have hindex := hline.index
  refine ⟨?_, ?_⟩
  · rw [toNat_succ hinside, hindex, List.length_append, List.length_singleton]
  · intro offset hoffset
    rw [List.length_append, List.length_singleton] at hoffset
    rcases Nat.lt_or_eq_of_le (Nat.le_of_lt_succ hoffset) with hbefore | rfl
    · rw [Ram.store_bytes_of_ne _ _ (by omega), hline.bytes offset hbefore,
        List.getD_append _ _ _ _ hbefore]
    · rw [← hindex, Ram.store_bytes_self, hindex, List.getD_append_right _ _ _ _ (Nat.le_refl _),
        Nat.sub_self]
      rfl

/-- A byte written at the index, the last one of the buffer included, moves the index on by
one. -/
theorem Fills.safe_of_write (hfills : run.Fills)
    (hroom : run.cli.cliBufferIndex.toNat < cliBufferSize) {byte : UInt8}
    (hresult : run.cli.processCmdChar c =
      ({ cliBufferIndex := run.cli.cliBufferIndex + 1
         ram := run.cli.ram.store run.cli.cliBufferIndex.toNat byte }, false)) : run.Safe c := by
  have hnext : (run.cli.cliBufferIndex + 1).toNat = run.cli.cliBufferIndex.toNat + 1 :=
    toNat_succ hroom
  refine ⟨?_, ?_, ?_, ?_⟩ <;> simp only [BufferRun.step, hresult]
  · rw [hnext]
    exact hroom
  · intro _
    rw [hnext]
    exact Nat.le_succ _
  · exact written_store byte hroom hfills.written
  · exact fun hparsed => absurd hparsed Bool.false_ne_true

theorem Fills.safe (hfills : run.Fills) (c : UInt8) : run.Safe c := by
  have hsize : cliBufferSize = 128 := rfl
  have hindex := hfills.index_le
  rcases processCmdChar_cases run.cli c with
    ⟨hresult, -⟩ | ⟨hinside, hresult⟩ | ⟨hinside, -, hresult⟩ | ⟨hend, -, hresult⟩
  · refine ⟨?_, ?_, ?_, ?_⟩ <;> simp only [BufferRun.step, hresult]
    · exact hindex
    · exact fun _ => Nat.le_refl _
    · exact hfills.written
    · exact fun hparsed => absurd hparsed Bool.false_ne_true
  · have hroom : run.cli.cliBufferIndex.toNat < cliBufferSize := by omega
    refine ⟨?_, ?_, ?_, ?_⟩ <;> simp only [BufferRun.step, hresult]
    · exact Nat.zero_le _
    · exact fun hquiet => absurd hquiet.symm Bool.false_ne_true
    · exact written_store 0 hroom hfills.written
    · intro _
      have hline := hfills.line hroom
      exact ⟨hline.index, hline.index ▸ hroom, holds_close hline⟩
  · exact hfills.safe_of_write (by omega) hresult
  · exact hfills.safe_of_write (by omega) hresult

theorem Fills.step (hfills : run.Fills) (c : UInt8) : (run.step c).Fills := by
  have hsize : cliBufferSize = 128 := rfl
  obtain ⟨hindex, -, hwritten, -⟩ := hfills.safe c
  refine ⟨hindex, hwritten, ?_⟩
  rcases processCmdChar_cases run.cli c with
    ⟨hresult, hdropped⟩ | ⟨hinside, hresult⟩ | ⟨hinside, hstores, hresult⟩ |
      ⟨hend, hdropped, hresult⟩
  · simp only [BufferRun.step, hresult, hdropped, Bool.false_eq_true, if_false]
    exact hfills.line
  · simp only [BufferRun.step, hresult, if_true]
    -- the next line begins empty, whatever the buffer still holds
    intro _
    exact ⟨rfl, fun offset hoffset => absurd hoffset (Nat.not_lt_zero offset)⟩
  · simp only [BufferRun.step, hresult, hstores, Bool.false_eq_true, if_false, if_true]
    intro _
    have hroom : run.cli.cliBufferIndex.toNat < cliBufferSize := by omega
    exact line_append (hfills.line hroom) hroom c
  · -- the buffer is full, and stays so
    simp only [BufferRun.step, hresult]
    intro hroom
    rw [toNat_succ (by omega)] at hroom
    omega

/-! ## Streams -/

theorem booted_fills (memory : ℕ → UInt8) : (booted memory).Fills where
  index_le := Nat.zero_le _
  written _ haddress := absurd haddress List.not_mem_nil
  line _ := ⟨rfl, fun offset hoffset => absurd hoffset (Nat.not_lt_zero offset)⟩

/-- **The buffer is never overrun.** At every character of every stream the index stays in
range and does not wrap, every write is inside the buffer, and a line that is read is
terminated behind the characters stored since the last one. -/
theorem buffer_safe (memory : ℕ → UInt8) (stream : List UInt8) :
    Run.Along step Safe (booted memory) stream := by
  have hunrestricted : Run.Along step (fun _ _ => True) (booted memory) stream :=
    Run.along_of_forall (fun _ _ => trivial) (booted memory) stream
  refine Run.along_of_invariant ?_ ?_ (booted_fills memory) hunrestricted
  · intro run c hfills _
    exact hfills.safe c
  · intro run c hfills _
    exact hfills.step c

end BufferRun

/-! ## The two models -/

/-- The vector is what the memory holds of the buffer. -/
structure RawCli.Models (raw : RawCli) (cli : Cli) : Prop where
  index : raw.cliBufferIndex = cli.cliBufferIndex
  bytes : cli.cliBuffer.toList = (List.range cliBufferSize).map raw.ram.bytes

/-- The texts a reader finds in the buffer while a stream is fed. -/
def rawParsedFrom (raw : RawCli) : List UInt8 → List (List UInt8)
  | [] => []
  | c :: rest =>
      (if (raw.processCmdChar c).2 then
          [CString.textAt (raw.processCmdChar c).1.ram.bytes cliBufferSize 0]
        else []) ++ rawParsedFrom (raw.processCmdChar c).1 rest

theorem textAt_eq_upTo (memory : ℕ → UInt8) (limit address : ℕ) :
    CString.textAt memory limit address =
      Text.upTo 0 ((List.range' address limit).map memory) := by
  induction limit generalizing address with
  | zero => rfl
  | succ limit ih =>
      rw [CString.textAt, List.range'_succ, List.map_cons]
      by_cases hend : memory address = 0
      · rw [if_pos hend, hend, Text.upTo_cons_self]
      · rw [if_neg hend, Text.upTo_cons_of_ne hend, ih]

theorem toList_set_eq_map {buffer : Vector UInt8 cliBufferSize} {ram : Ram}
    (hbytes : buffer.toList = (List.range cliBufferSize).map ram.bytes) {index : ℕ}
    (hinside : index < cliBufferSize) (byte : UInt8) :
    (buffer.set index byte hinside).toList =
      (List.range cliBufferSize).map (ram.store index byte).bytes := by
  rw [Vector.toList_set, hbytes]
  apply List.ext_getElem
  · simp
  · intro place hplace hplace'
    rw [List.getElem_set, List.getElem_map, List.getElem_map, List.getElem_range]
    by_cases hsame : index = place
    · rw [if_pos hsame, ← hsame, Ram.store_bytes_self]
    · rw [if_neg hsame, Ram.store_bytes_of_ne _ _ (Ne.symm hsame)]

theorem models_processCmdChar {raw : RawCli} {cli : Cli} (hmodels : raw.Models cli) (c : UInt8) :
    (raw.processCmdChar c).1.Models (processCmdChar cli c).1 ∧
      (processCmdChar cli c).2.toList =
        if (raw.processCmdChar c).2 then
          [CString.textAt (raw.processCmdChar c).1.ram.bytes cliBufferSize 0]
        else [] := by
  obtain ⟨hindex, hbytes⟩ := hmodels
  unfold RawCli.processCmdChar processCmdChar
  rw [hindex]
  by_cases hinside : cli.cliBufferIndex.toNat < cliBufferSize - 1
  · have hroom : cli.cliBufferIndex.toNat < cliBufferSize := Nat.lt_of_lt_pred hinside
    rw [if_pos hinside, dif_pos hinside]
    by_cases hreturn : c = carriageReturn
    · rw [if_pos hreturn, if_pos hreturn]
      exact ⟨⟨hindex, hbytes⟩, rfl⟩
    · rw [if_neg hreturn, if_neg hreturn]
      by_cases hfeed : c = lineFeed
      · have hclosed := toList_set_eq_map hbytes hroom 0
        rw [if_pos hfeed, if_pos hfeed]
        refine ⟨⟨rfl, hclosed⟩, ?_⟩
        rw [if_pos rfl, textAt_eq_upTo, ← List.range_eq_range', ← hclosed]
        rfl
      · rw [if_neg hfeed, if_neg hfeed]
        exact ⟨⟨rfl, toList_set_eq_map hbytes hroom c⟩, rfl⟩
  · rw [if_neg hinside, dif_neg hinside]
    by_cases hend : cli.cliBufferIndex.toNat = cliBufferSize - 1
    · have hroom : cli.cliBufferIndex.toNat < cliBufferSize := by
        rw [hend]
        decide
      rw [if_pos hend, dif_pos hend]
      exact ⟨⟨rfl, toList_set_eq_map hbytes hroom 0⟩, rfl⟩
    · rw [if_neg hend, dif_neg hend]
      exact ⟨⟨hindex, hbytes⟩, rfl⟩

/-- The two models parse the same texts. -/
theorem rawParsedFrom_eq {raw : RawCli} {cli : Cli} (hmodels : raw.Models cli)
    (stream : List UInt8) : rawParsedFrom raw stream = parsedFrom cli stream := by
  induction stream generalizing raw cli with
  | nil => rfl
  | cons c rest ih =>
      obtain ⟨hnext, htext⟩ := models_processCmdChar hmodels c
      rw [rawParsedFrom, parsedFrom, htext, ih hnext]

/-- From the start of the program, where the memory of `cliBuffer` is zero. -/
theorem rawParsedFrom_booted (stream : List UInt8) :
    rawParsedFrom (BufferRun.booted fun _ => 0).cli stream = parsed stream :=
  rawParsedFrom_eq ⟨rfl, by simp [Cli.fresh, BufferRun.booted]⟩ stream

end Ph5Firmware
