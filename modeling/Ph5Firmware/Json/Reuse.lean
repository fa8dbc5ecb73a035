import Ph5Firmware.Json.Motion

/-!
# Parsing into a used command

`parse` is given a command and writes into it.  A command that was used before should not
show in the result: after a text that deserializes, the command should depend on that text
only.  `set` resets the identifier if the text has none, and nothing else.

* `set_eq`: what `set` makes of any command.  A field is written if the word of the document
  reads its key and the key is present; the type, if there is a word at all.
* `statesAll_of_same`: a text that leaves a field alone lets an earlier value through.
* `parse_forgets_iff`: a text forgets the past exactly when it is a `move` or a `moveto` with
  both coordinates and both speeds.
-/

namespace Ph5Firmware

/-- The commands a reused `Ph5Command` holds after some texts. -/
def JsonCommandParser.parseAll (json : ArduinoJson) (parser : JsonCommandParser)
    (texts : List (List UInt8)) (command : Ph5Command) : Ph5Command :=
  texts.foldl (fun command text => (parser.parse json text command).2) command

/-- After `text` the command is the same, whatever it held at first and whatever was parsed
into it since. -/
def JsonCommandParser.Forgets (json : ArduinoJson) (parser : JsonCommandParser)
    (text : List UInt8) : Prop :=
  ∀ (first second : Ph5Command) (firstTexts secondTexts : List (List UInt8)),
    parser.parseAll json (firstTexts ++ [text]) first =
      parser.parseAll json (secondTexts ++ [text]) second

namespace JsonVariant

variable (doc : JsonVariant)

/-- The word is one of those whose function reads `x` and `y`. -/
def ReadsPositions : Prop :=
  (doc.get "cmd").lowerWord = "move".toList ∨ (doc.get "cmd").lowerWord = "moveto".toList ∨
    (doc.get "cmd").lowerWord = "setpos".toList

/-- The word is one of those whose function reads `speedX` and `speedY`. -/
def ReadsSpeeds : Prop :=
  (doc.get "cmd").lowerWord = "move".toList ∨ (doc.get "cmd").lowerWord = "moveto".toList ∨
    (doc.get "cmd").lowerWord = "speed".toList

instance : Decidable doc.ReadsPositions := by
  unfold ReadsPositions
  infer_instance

instance : Decidable doc.ReadsSpeeds := by
  unfold ReadsSpeeds
  infer_instance

/-- The type `set` gives a document with a word. -/
def statedType : Ph5CommandType :=
  let typeFor := Ph5Command.typeForAxes (!(doc.get "x").isNull) (!(doc.get "y").isNull)
  if (doc.get "cmd").lowerWord = "move".toList then typeFor .moveXY .moveX .moveY
  else if (doc.get "cmd").lowerWord = "speed".toList then
    Ph5Command.typeForAxes (!(doc.get "speedX").isNull) (!(doc.get "speedY").isNull)
      .speedXY .speedX .speedY
  else if (doc.get "cmd").lowerWord = "moveto".toList then typeFor .moveToXY .moveToX .moveToY
  else if (doc.get "cmd").lowerWord = "setpos".toList then typeFor .setPosXY .setPosX .setPosY
  else doc.plainType

/-- A field after `set`: what its key holds, if its key is read and present. -/
def written (json : ArduinoJson) (reads : Bool) (key : String) (before : Int32) : Int32 :=
  if reads && !(doc.get key).isNull then (doc.get key).asInt32 json else before

/-- A `move` or a `moveto` with everything these can have. -/
structure StatesAll : Prop where
  word : (doc.get "cmd").lowerWord = "move".toList ∨ (doc.get "cmd").lowerWord = "moveto".toList
  x : (doc.get "x").isNull = false
  y : (doc.get "y").isNull = false
  speedX : (doc.get "speedX").isNull = false
  speedY : (doc.get "speedY").isNull = false

end JsonVariant

/-! ## One document -/

section Document

variable {json : ArduinoJson} {doc : JsonVariant}

theorem readField_eq (key : String) (before : Int32) :
    Ph5Command.readField json doc key before = doc.written json true key before := by
  unfold Ph5Command.readField JsonVariant.written
  cases (doc.get key).isNull <;> rfl

theorem written_unread (key : String) (before : Int32) :
    doc.written json false key before = before := rfl

theorem lowerWord_of_isNull (hnull : (doc.get "cmd").isNull = true) :
    (doc.get "cmd").lowerWord = [] := by
  cases hcmd : doc.get "cmd" with
  | null => rfl
  | _ => exact absurd hnull (by rw [hcmd]; exact Bool.false_ne_true)

/-- What `set` makes of a command. -/
theorem set_eq (cmd : Ph5Command) :
    cmd.set json doc =
      { id := doc.nr json
        type := if (doc.get "cmd").isNull then cmd.type else doc.statedType
        posX := doc.written json (decide doc.ReadsPositions) "x" cmd.posX
        speedX := doc.written json (decide doc.ReadsSpeeds) "speedX" cmd.speedX
        posY := doc.written json (decide doc.ReadsPositions) "y" cmd.posY
        speedY := doc.written json (decide doc.ReadsSpeeds) "speedY" cmd.speedY } := by
  unfold Ph5Command.set JsonVariant.statedType JsonVariant.ReadsPositions JsonVariant.ReadsSpeeds
  by_cases hnull : (doc.get "cmd").isNull = true
  · -- without a word only the identifier is written
    simp [hnull, lowerWord_of_isNull hnull, written_unread, JsonVariant.nr]
  · rw [if_neg hnull, if_neg hnull]
    by_cases hmove : (doc.get "cmd").lowerWord = "move".toList
    · simp [hmove, Ph5Command.setMoveXY, readField_eq, JsonVariant.nr]
    · by_cases hspeed : (doc.get "cmd").lowerWord = "speed".toList
      · simp [hspeed, Ph5Command.setSpeedXY, readField_eq, written_unread, JsonVariant.nr]
      · by_cases hmoveTo : (doc.get "cmd").lowerWord = "moveto".toList
        · simp [hmoveTo, Ph5Command.setMoveToXY, readField_eq, JsonVariant.nr]
        · by_cases hsetPos : (doc.get "cmd").lowerWord = "setpos".toList
          · simp [hsetPos, Ph5Command.setPos, readField_eq, written_unread, JsonVariant.nr]
          · -- no function is called, so only the type is written
            simp only [hmove, hspeed, hmoveTo, hsetPos, if_false, or_false, decide_false,
              written_unread, JsonVariant.plainType]
            by_cases hstop : (doc.get "cmd").lowerWord = "stop".toList
            · rw [if_pos hstop, if_pos hstop]
              rfl
            · rw [if_neg hstop, if_neg hstop]
              by_cases hforce : (doc.get "cmd").lowerWord = "forcestop".toList
              · rw [if_pos hforce, if_pos hforce]
                rfl
              · rw [if_neg hforce, if_neg hforce]
                rfl

/-- A field that is not both read and present keeps its value. -/
theorem written_eq_before {reads : Bool} {key : String}
    (hkept : ¬ (reads = true ∧ (doc.get key).isNull = false)) (before : Int32) :
    doc.written json reads key before = before := by
  unfold JsonVariant.written
  rw [if_neg]
  rw [Bool.and_eq_true, Bool.not_eq_true']
  exact hkept

/-- A field that two different values are written over is read and present. -/
theorem written_of_same {reads : Bool} {key : String} {first second : Int32}
    (hne : first ≠ second)
    (hsame : doc.written json reads key first = doc.written json reads key second) :
    reads = true ∧ (doc.get key).isNull = false := by
  by_contra hkept
  rw [written_eq_before hkept, written_eq_before hkept] at hsame
  exact hne hsame

theorem fillSpeed_of_ne_zero (moves : Bool) (default : Int32) {speed : Int32} (hset : speed ≠ 0) :
    JsonCommandParser.fillSpeed moves default speed = speed := by
  unfold JsonCommandParser.fillSpeed
  rw [if_neg]
  rw [Bool.and_eq_true, beq_iff_eq]
  exact fun hzero => hset hzero.2

/-- The default speeds hide no value but 0. -/
theorem written_of_same_filled {reads moves : Bool} {key : String} {default first second : Int32}
    (hfirst : first ≠ 0) (hsecond : second ≠ 0) (hne : first ≠ second)
    (hsame : JsonCommandParser.fillSpeed moves default (doc.written json reads key first) =
      JsonCommandParser.fillSpeed moves default (doc.written json reads key second)) :
    reads = true ∧ (doc.get key).isNull = false := by
  by_contra hkept
  rw [written_eq_before hkept, written_eq_before hkept, fillSpeed_of_ne_zero moves default hfirst,
    fillSpeed_of_ne_zero moves default hsecond] at hsame
  exact hne hsame

end Document

/-! ## One text -/

section Text

variable {json : ArduinoJson} {parser : JsonCommandParser} {text : List UInt8} {doc : JsonVariant}

theorem parse_of_ok (hdoc : json.deserializeJson text = .ok doc) (cmd : Ph5Command) :
    (parser.parse json text cmd).2 = parser.fillDefaults (cmd.set json doc) := by
  rw [JsonCommandParser.parse, hdoc]

/-- A command with everything in it set, and no field equal to that of another `mark`. -/
def usedCommand (mark : Int32) : Ph5Command :=
  { id := 0, type := .ping, posX := mark, speedX := mark, posY := mark, speedY := mark }

/-- If two used commands come out the same, every field was written. -/
theorem statesAll_of_same (hdoc : json.deserializeJson text = .ok doc)
    (hsame : (parser.parse json text (usedCommand 1)).2 =
      (parser.parse json text (usedCommand 2)).2) : doc.StatesAll := by
  rw [parse_of_ok hdoc, parse_of_ok hdoc, set_eq, set_eq] at hsame
  have hposX := congrArg Ph5Command.posX hsame
  have hposY := congrArg Ph5Command.posY hsame
  have hspeedX := congrArg Ph5Command.speedX hsame
  have hspeedY := congrArg Ph5Command.speedY hsame
  simp only [JsonCommandParser.fillDefaults, usedCommand] at hposX hposY hspeedX hspeedY
  have hx := written_of_same (by decide) hposX
  have hy := written_of_same (by decide) hposY
  have hsX := written_of_same_filled (by decide) (by decide) (by decide) hspeedX
  have hsY := written_of_same_filled (by decide) (by decide) (by decide) hspeedY
  refine ⟨?_, hx.2, hy.2, hsX.2, hsY.2⟩
  have hpositions : doc.ReadsPositions := of_decide_eq_true hx.1
  have hspeeds : doc.ReadsSpeeds := of_decide_eq_true hsX.1
  rcases hpositions with hmove | hmoveTo | hsetPos
  · exact .inl hmove
  · exact .inr hmoveTo
  · -- `setpos` reads no speeds
    rcases hspeeds with hmove | hmoveTo | hspeed
    · exact .inl hmove
    · exact .inr hmoveTo
    · exact absurd (hsetPos.symm.trans hspeed) (by decide)

/-- A text that states everything makes the same command of all commands. -/
theorem set_of_statesAll (hall : doc.StatesAll) (first second : Ph5Command) :
    first.set json doc = second.set json doc := by
  have hnull : (doc.get "cmd").isNull = false := by
    by_contra hcmd
    have hempty := lowerWord_of_isNull (Bool.eq_true_of_not_eq_false hcmd)
    rcases hall.word with hmove | hmoveTo
    · exact absurd (hempty.symm.trans hmove) (by decide)
    · exact absurd (hempty.symm.trans hmoveTo) (by decide)
  have hpositions : decide doc.ReadsPositions = true :=
    decide_eq_true (hall.word.imp_right Or.inl)
  have hspeeds : decide doc.ReadsSpeeds = true :=
    decide_eq_true (hall.word.imp_right Or.inl)
  rw [set_eq, set_eq, hpositions, hspeeds]
  simp [hnull, JsonVariant.written, hall.x, hall.y, hall.speedX, hall.speedY]

/-! ## Sequences of texts -/

theorem parseAll_append (texts : List (List UInt8)) (cmd : Ph5Command) :
    parser.parseAll json (texts ++ [text]) cmd =
      (parser.parse json text (parser.parseAll json texts cmd)).2 := by
  rw [JsonCommandParser.parseAll, List.foldl_append]
  rfl

/-- **Forgetting.** A text that deserializes forgets what the command held before, and
everything parsed into it before, exactly when it states everything. -/
theorem parse_forgets_iff (parser : JsonCommandParser)
    (hdoc : json.deserializeJson text = .ok doc) : parser.Forgets json text ↔ doc.StatesAll := by
  constructor
  · intro hforgets
    exact statesAll_of_same hdoc (hforgets (usedCommand 1) (usedCommand 2) [] [])
  · intro hall first second firstTexts secondTexts
    rw [parseAll_append, parseAll_append, parse_of_ok hdoc, parse_of_ok hdoc]
    rw [set_of_statesAll hall]

end Text

def fullText : List UInt8 :=
  asciiBytes "\x7b\"cmd\":\"moveto\",\"x\":1,\"y\":2,\"speedX\":3,\"speedY\":4\x7d"

def fullDoc : JsonVariant :=
  .object [("cmd", .string "moveto"), ("x", .integer 1), ("y", .integer 2),
    ("speedX", .integer 3), ("speedY", .integer 4)]

theorem full_forgets : jsonCommandParser.Forgets (benchJson fullText fullDoc) fullText :=
  (parse_forgets_iff jsonCommandParser (benchJson_deserializeJson fullText fullDoc)).mpr
    ⟨.inr (by decide), rfl, rfl, rfl, rfl⟩

def stepText : List UInt8 := asciiBytes "\x7b\"cmd\":\"move\",\"x\":5\x7d"

def stepDoc : JsonVariant :=
  .object [("cmd", .string "move"), ("x", .integer 5)]

def numberText : List UInt8 := asciiBytes "\x7b\"nr\":1\x7d"

def numberDoc : JsonVariant :=
  .object [("nr", .integer 1)]

/-- A `move` without a speed takes an earlier one, and a text without a word repeats an
earlier command. -/
theorem past_not_forgotten :
    (¬ jsonCommandParser.Forgets (benchJson stepText stepDoc) stepText) ∧
      ¬ jsonCommandParser.Forgets (benchJson numberText numberDoc) numberText := by
  constructor
  · intro hforgets
    have hsame := hforgets Ph5Command.fresh { Ph5Command.fresh with speedX := 7000 } [] []
    exact absurd hsame (by decide)
  · intro hforgets
    have hsame := hforgets Ph5Command.fresh { Ph5Command.fresh with type := .forceStop } [] []
    exact absurd hsame (by decide)

end Ph5Firmware
