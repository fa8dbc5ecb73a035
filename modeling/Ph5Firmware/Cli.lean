import Ph5Firmware.Library.Text

/-!
# The command line

`processCmdChar` collects the characters of a line in a buffer of 128 bytes and
gives the line to `cli.parse` when it ends.  Line ends are looked for only while
the index is inside the buffer.  Past it nothing is, so the first line of 127
characters or more is the last one read: the lines parsed are those before it
(`parsed_eq`), and they are all the lines short enough exactly when no short line
comes after a long one (`parsed_eq_shortLines_iff`).
-/

namespace Ph5Firmware

abbrev cliBufferSize : ℕ := 128

def carriageReturn : UInt8 := 13

def lineFeed : UInt8 := 10

structure Cli where
  cliBufferIndex : UInt8
  cliBuffer : Vector UInt8 cliBufferSize
  deriving DecidableEq

namespace Cli

def fresh : Cli := { cliBufferIndex := 0, cliBuffer := Vector.replicate cliBufferSize 0 }

end Cli

/-- `processCmdChar`, with the text given to `cli.parse`, if any. -/
def processCmdChar (cli : Cli) (c : UInt8) : Cli × Option (List UInt8) :=
  if hinside : cli.cliBufferIndex.toNat < cliBufferSize - 1 then
    if c = carriageReturn then (cli, none)
    else if c = lineFeed then
      let cliBuffer := cli.cliBuffer.set cli.cliBufferIndex.toNat 0
      ({ cliBufferIndex := 0, cliBuffer := cliBuffer }, some (Text.upTo 0 cliBuffer.toList))
    else
      ({ cliBufferIndex := cli.cliBufferIndex + 1
         cliBuffer := cli.cliBuffer.set cli.cliBufferIndex.toNat c }, none)
  -- the character is dropped, also if it is a line end
  else if hend : cli.cliBufferIndex.toNat = cliBufferSize - 1 then
    ({ cliBufferIndex := cli.cliBufferIndex + 1
       cliBuffer := cli.cliBuffer.set cli.cliBufferIndex.toNat 0 (by rw [hend]; decide) }, none)
  else (cli, none)

/-- The texts parsed while a stream is fed one character at a time. -/
def parsedFrom (cli : Cli) : List UInt8 → List (List UInt8)
  | [] => []
  | c :: rest => (processCmdChar cli c).2.toList ++ parsedFrom (processCmdChar cli c).1 rest

def parsed (stream : List UInt8) : List (List UInt8) :=
  parsedFrom .fresh stream

/-! ## What the command line is for -/

def withoutReturns (line : List UInt8) : List UInt8 :=
  line.filter (· ≠ carriageReturn)

def completedLines (stream : List UInt8) : List (List UInt8) :=
  (Text.completed lineFeed stream).map withoutReturns

/-- The lines that leave room for a line end and a NUL. -/
def isShort (line : List UInt8) : Bool :=
  line.length ≤ cliBufferSize - 2

/-- The lines a command line should parse, each as the text it holds. -/
def shortLines (stream : List UInt8) : List (List UInt8) :=
  ((completedLines stream).filter isShort).map (Text.upTo 0)

/-! ## The buffer holds the line -/

/-- The buffer holds a line that has not ended. -/
structure Cli.Holds (cli : Cli) (line : List UInt8) : Prop where
  index : cli.cliBufferIndex.toNat = line.length
  stored : cli.cliBuffer.toList.take line.length = line

theorem Cli.fresh_holds : Cli.fresh.Holds [] := ⟨rfl, rfl⟩

section Step

variable {cli : Cli} {line : List UInt8}

theorem processCmdChar_carriageReturn (hholds : cli.Holds line)
    (hroom : line.length < cliBufferSize - 1) :
    processCmdChar cli carriageReturn = (cli, none) := by
  have hinside : cli.cliBufferIndex.toNat < cliBufferSize - 1 := by rwa [hholds.index]
  rw [processCmdChar, dif_pos hinside, if_pos rfl]

theorem processCmdChar_lineFeed (hholds : cli.Holds line)
    (hroom : line.length < cliBufferSize - 1) :
    (processCmdChar cli lineFeed).1.Holds [] ∧
      (processCmdChar cli lineFeed).2 = some (Text.upTo 0 line) := by
  have hinside : cli.cliBufferIndex.toNat < cliBufferSize - 1 := by rwa [hholds.index]
  have hlength : line.length < cli.cliBuffer.toList.length := by
    rw [Vector.length_toList]
    omega
  rw [processCmdChar, dif_pos hinside, if_neg (by decide), if_pos rfl]
  refine ⟨⟨rfl, rfl⟩, ?_⟩
  simp only [Vector.toList_set, hholds.index]
  rw [List.set_eq_take_append_cons_drop, if_pos hlength, hholds.stored, Text.upTo_append_mark]

theorem processCmdChar_store (hholds : cli.Holds line) (hroom : line.length < cliBufferSize - 1)
    {c : UInt8} (hreturn : c ≠ carriageReturn) (hfeed : c ≠ lineFeed) :
    (processCmdChar cli c).1.Holds (line ++ [c]) ∧ (processCmdChar cli c).2 = none := by
  have hinside : cli.cliBufferIndex.toNat < cliBufferSize - 1 := by rwa [hholds.index]
  have hlength : line.length < cli.cliBuffer.toList.length := by
    rw [Vector.length_toList]
    omega
  rw [processCmdChar, dif_pos hinside, if_neg hreturn, if_neg hfeed]
  refine ⟨⟨?_, ?_⟩, rfl⟩
  · have hindex := hholds.index
    have hsize : cliBufferSize = 128 := rfl
    rw [UInt8.toNat_add, List.length_append, hindex]
    simp only [List.length_singleton, UInt8.reduceToNat]
    omega
  · simp only [Vector.toList_set, hholds.index, List.length_append, List.length_singleton]
    rw [List.set_eq_take_append_cons_drop, if_pos hlength, hholds.stored,
      List.take_length_add_append]
    rfl

end Step

theorem parsedFrom_eq_nil {cli : Cli} (hfull : cliBufferSize - 1 ≤ cli.cliBufferIndex.toNat)
    (stream : List UInt8) : parsedFrom cli stream = [] := by
  induction stream generalizing cli with
  | nil => rfl
  | cons c rest ih =>
      have hinside : ¬ cli.cliBufferIndex.toNat < cliBufferSize - 1 := by omega
      rw [parsedFrom, processCmdChar, dif_neg hinside]
      by_cases hend : cli.cliBufferIndex.toNat = cliBufferSize - 1
      · rw [dif_pos hend, Option.toList_none, List.nil_append]
        apply ih
        rw [UInt8.toNat_add, hend]
        decide
      · rw [dif_neg hend, Option.toList_none, List.nil_append]
        exact ih hfull

/-! ## The lines that are parsed -/

theorem completedLines_append_lineFeed {raw : List UInt8} (hraw : lineFeed ∉ raw)
    (rest : List UInt8) :
    completedLines (raw ++ lineFeed :: rest) = withoutReturns raw :: completedLines rest := by
  rw [completedLines, Text.completed_append_mark hraw, List.map_cons, completedLines]

theorem withoutReturns_append (first second : List UInt8) :
    withoutReturns (first ++ second) = withoutReturns first ++ withoutReturns second :=
  List.filter_append ..

theorem takeWhile_completedLines_of_long {raw : List UInt8} (hraw : lineFeed ∉ raw)
    (hlong : cliBufferSize - 1 ≤ (withoutReturns raw).length) (rest : List UInt8) :
    (completedLines (raw ++ rest)).takeWhile isShort = [] := by
  unfold completedLines
  rcases Text.completed_append_cases hraw rest with hnone | ⟨more, others, hfirst⟩
  · rw [hnone]
    rfl
  · have hlong' : isShort (withoutReturns (raw ++ more)) = false := by
      have hsize : cliBufferSize = 128 := rfl
      rw [withoutReturns_append]
      simp only [isShort, List.length_append, decide_eq_false_iff_not]
      omega
    rw [hfirst, List.map_cons, List.takeWhile_cons, hlong']
    rfl

/-- With part of a line in the buffer, the lines parsed are those before the first
long one. -/
theorem parsedFrom_eq {cli : Cli} {raw : List UInt8} (hholds : cli.Holds (withoutReturns raw))
    (hraw : lineFeed ∉ raw) (hroom : (withoutReturns raw).length < cliBufferSize - 1)
    (stream : List UInt8) :
    parsedFrom cli stream =
      ((completedLines (raw ++ stream)).takeWhile isShort).map (Text.upTo 0) := by
  -- `raw` is the line so far, as it came in; the buffer holds it without returns
  induction stream generalizing cli raw with
  | nil =>
      rw [List.append_nil, completedLines, Text.completed_of_not_mem hraw]
      rfl
  | cons c rest ih =>
      have hsnoc : raw ++ c :: rest = (raw ++ [c]) ++ rest := by simp
      rw [parsedFrom]
      by_cases hfeed : c = lineFeed
      · obtain ⟨hempty, hparsed⟩ := processCmdChar_lineFeed hholds hroom
        have hshort : isShort (withoutReturns raw) = true := by
          simp only [isShort, decide_eq_true_eq]
          omega
        have hrest := @ih _ [] hempty List.not_mem_nil (by decide)
        rw [hfeed, hparsed, hrest, completedLines_append_lineFeed hraw,
          List.takeWhile_cons_of_pos hshort]
        rfl
      · -- the line goes on
        have hraw' : lineFeed ∉ raw ++ [c] := by simp [hraw, Ne.symm hfeed]
        rw [hsnoc]
        by_cases hreturn : c = carriageReturn
        · have hline : withoutReturns (raw ++ [c]) = withoutReturns raw := by
            rw [withoutReturns_append, hreturn]
            exact List.append_nil _
          rw [hreturn, processCmdChar_carriageReturn hholds hroom, ← hreturn]
          exact ih (by rwa [hline]) hraw' (by rwa [hline])
        · have hline : withoutReturns (raw ++ [c]) = withoutReturns raw ++ [c] := by
            rw [withoutReturns_append]
            simp [withoutReturns, hreturn]
          obtain ⟨hstored, hnone⟩ := processCmdChar_store hholds hroom hreturn hfeed
          rw [← hline] at hstored
          rw [hnone, Option.toList_none, List.nil_append]
          by_cases hroom' : (withoutReturns (raw ++ [c])).length < cliBufferSize - 1
          · exact ih hstored hraw' hroom'
          · -- the character that fills the buffer
            rw [parsedFrom_eq_nil (by rw [hstored.index]; omega),
              takeWhile_completedLines_of_long hraw' (by omega)]
            rfl

theorem parsed_eq (stream : List UInt8) :
    parsed stream = ((completedLines stream).takeWhile isShort).map (Text.upTo 0) :=
  @parsedFrom_eq _ [] Cli.fresh_holds List.not_mem_nil (by decide) stream

/-- **Line framing.** All short lines are parsed exactly when no short line comes
after a long one. -/
theorem parsed_eq_shortLines_iff (stream : List UInt8) :
    parsed stream = shortLines stream ↔
      ∀ line ∈ (completedLines stream).dropWhile isShort, isShort line = false := by
  rw [parsed_eq, shortLines, Text.map_takeWhile_eq_map_filter_iff]

def longThenShort : List UInt8 := List.replicate 127 97 ++ [lineFeed, 98, lineFeed]

/-- After a line of 127 characters the next line is not parsed. -/
theorem longThenShort_not_parsed :
    parsed longThenShort = [] ∧ shortLines longThenShort = [[98]] := by
  rw [parsed_eq]
  decide +kernel

end Ph5Firmware
