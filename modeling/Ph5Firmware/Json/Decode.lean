import Ph5Firmware.Json.Motion

/-!
# Decoding undoes encoding

`Encodes members c` says what a document of a command looks like: the word of the
type, the identifier, and the keys of the axes the type names, wherever they stand
among the members.  `parse` makes `c` of it again, with the default for a speed
that is 0.

* `command_of_word`: the fields and the type come back from which keys are there.
* `parse_encoded`: the whole path, for every type that has a word.
-/

namespace Ph5Firmware

/-! ## The commands a document can ask for -/

namespace Ph5CommandType

def motionWord : Ph5CommandType → Option MotionWord
  | moveX | moveY | moveXY => some .move
  | moveToX | moveToY | moveToXY => some .moveTo
  | speedX | speedY | speedXY => some .speed
  | setPosX | setPosY | setPosXY => some .setPos
  | _ => none

/-- The word of a type's family. -/
def jsonWord : Ph5CommandType → Option String
  | stopXY => some "stop"
  | forceStop => some "forcestop"
  | type => type.motionWord.map MotionWord.text

/-- The type moves the X axis, relatively or to a position. -/
def travelsX : Ph5CommandType → Bool
  | moveX | moveXY | moveToX | moveToXY => true
  | _ => false

def hasPosX : Ph5CommandType → Bool
  | setPosX | setPosXY => true
  | type => type.travelsX

def hasSpeedX : Ph5CommandType → Bool
  | speedX | speedXY => true
  | type => type.travelsX

def travelsY (type : Ph5CommandType) : Bool := type.swap.travelsX

def hasPosY (type : Ph5CommandType) : Bool := type.swap.hasPosX

def hasSpeedY (type : Ph5CommandType) : Bool := type.swap.hasSpeedX

end Ph5CommandType

namespace Ph5Command

/-- The fields the type does not use are 0. -/
structure Plain (c : Ph5Command) : Prop where
  posX : c.type.hasPosX = false → c.posX = 0
  posY : c.type.hasPosY = false → c.posY = 0
  speedX : c.type.hasSpeedX = false → c.speedX = 0
  speedY : c.type.hasSpeedY = false → c.speedY = 0

/-- The default in place of a zero speed of an axis that travels. -/
def withDefaults (parser : JsonCommandParser) (c : Ph5Command) : Ph5Command :=
  { c with
    speedX := if c.type.travelsX = true ∧ c.speedX = 0 then parser.defaultSpeedX else c.speedX
    speedY := if c.type.travelsY = true ∧ c.speedY = 0 then parser.defaultSpeedY else c.speedY }

end Ph5Command

/-! ## Documents of commands -/

/-- A number equal to an unsigned 32-bit integer. -/
def JsonVariant.HoldsUInt32 (variant : JsonVariant) (value : UInt32) : Prop :=
  variant = .integer value.toNat ∨ variant = .float (value.toNat : Rat)

/-- The key of a position: present exactly if the type has one. -/
def PositionKey (members : List (String × JsonVariant)) (key : String) (has : Bool)
    (position : Int32) : Prop :=
  HoldsKey members key (if has then some position else none)

/-- The key of a speed: present exactly if the type has one, except that an axis that
travels may do without a speed of 0. -/
def SpeedKey (members : List (String × JsonVariant)) (key : String) (has travels : Bool)
    (speed : Int32) : Prop :=
  HoldsKey members key (if has then some speed else none) ∨
    travels = true ∧ speed = 0 ∧ HoldsKey members key none

/-- The members are a document of the command, in any order and among any others. -/
structure Encodes (members : List (String × JsonVariant)) (c : Ph5Command) : Prop where
  /-- The word, in any letter case. -/
  cmd : ∃ word cmd, c.type.jsonWord = some word ∧ members.lookup "cmd" = some (.string cmd) ∧
    cmd.toList.map Char.toLower = word.toList
  nr : ∃ variant, members.lookup "nr" = some variant ∧ variant.HoldsUInt32 c.id
  x : PositionKey members "x" c.type.hasPosX c.posX
  y : PositionKey members "y" c.type.hasPosY c.posY
  speedX : SpeedKey members "speedX" c.type.hasSpeedX c.type.travelsX c.speedX
  speedY : SpeedKey members "speedY" c.type.hasSpeedY c.type.travelsY c.speedY

/-! ## Reading the keys -/

section Keys

variable (json : ArduinoJson) {members : List (String × JsonVariant)} {c : Ph5Command}

theorem asUInt32_of_holdsUInt32 {variant : JsonVariant} {value : UInt32}
    (hholds : variant.HoldsUInt32 value) : variant.asUInt32 json = value := by
  have hlow : (0 : Int) ≤ value.toNat := Int.natCast_nonneg _
  have hhigh : (value.toNat : Int) ≤ 4294967295 := by
    have hlt := value.toNat_lt
    omega
  have hinteger : variant.toIntegerIn json 0 4294967295 = value.toNat := by
    rcases hholds with rfl | rfl
    · exact if_pos ⟨hlow, hhigh⟩
    · exact truncateIn_intCast hlow hhigh
  rw [JsonVariant.asUInt32, hinteger, Int.toNat_natCast, UInt32.ofNat_toNat]

theorem Encodes.nr_eq (hencodes : Encodes members c) :
    (JsonVariant.object members).nr json = c.id := by
  obtain ⟨variant, hlookup, hholds⟩ := hencodes.nr
  have hget : (JsonVariant.object members).get "nr" = variant := by
    rw [JsonVariant.get, hlookup]
    rfl
  have hnull : variant.isNull = false := by
    rcases hholds with rfl | rfl <;> rfl
  rw [JsonVariant.nr, hget, hnull]
  exact asUInt32_of_holdsUInt32 json hholds

/-- What is read of a speed key, if the speed is 0 where the type has none. -/
theorem SpeedKey.field {key : String} {has travels : Bool} {speed : Int32}
    (hkey : SpeedKey members key has travels speed) (hplain : has = false → speed = 0) :
    ((JsonVariant.object members).field json key).getD 0 = speed ∧
      (travels = false → ((JsonVariant.object members).field json key).isSome = has) := by
  rcases hkey with hholds | ⟨htravels, hzero, hholds⟩
  · rw [field_eq json hholds]
    cases has with
    | true => exact ⟨rfl, fun _ => rfl⟩
    | false => exact ⟨(hplain rfl).symm, fun _ => rfl⟩
  · rw [field_eq json hholds, hzero]
    exact ⟨rfl, fun htravels' => absurd htravels (by rw [htravels']; exact Bool.false_ne_true)⟩

end Keys

/-! ## The command of the keys -/

section Command

variable {c : Ph5Command}

/-- The command `set` makes of the word and of the keys of `c` is `c`.  Where the type
may omit a speed, only its value counts. -/
theorem command_of_word {word : MotionWord} (hword : c.type.motionWord = some word)
    (hplain : c.Plain) {speedX speedY : Option Int32} (hvalueX : speedX.getD 0 = c.speedX)
    (hvalueY : speedY.getD 0 = c.speedY)
    (hhasX : c.type.travelsX = false → speedX.isSome = c.type.hasSpeedX)
    (hhasY : c.type.travelsY = false → speedY.isSome = c.type.hasSpeedY) :
    word.command c.id (if c.type.hasPosX then some c.posX else none)
      (if c.type.hasPosY then some c.posY else none) speedX speedY = c := by
  obtain ⟨hposX, hposY, hspeedX, hspeedY⟩ := hplain
  rcases c with ⟨id, type, posX, fieldX, posY, fieldY⟩
  cases type with
  | moveX | moveToX =>
      obtain rfl : _ = word := Option.some.inj hword
      obtain rfl : posY = 0 := hposY rfl
      obtain rfl : speedX.getD 0 = fieldX := hvalueX
      obtain rfl : speedY.getD 0 = fieldY := hvalueY
      rfl
  | moveY | moveToY =>
      obtain rfl : _ = word := Option.some.inj hword
      obtain rfl : posX = 0 := hposX rfl
      obtain rfl : speedX.getD 0 = fieldX := hvalueX
      obtain rfl : speedY.getD 0 = fieldY := hvalueY
      rfl
  | moveXY | moveToXY =>
      obtain rfl : _ = word := Option.some.inj hword
      obtain rfl : speedX.getD 0 = fieldX := hvalueX
      obtain rfl : speedY.getD 0 = fieldY := hvalueY
      rfl
  | setPosX =>
      obtain rfl : _ = word := Option.some.inj hword
      obtain rfl : posY = 0 := hposY rfl
      obtain rfl : fieldX = 0 := hspeedX rfl
      obtain rfl : fieldY = 0 := hspeedY rfl
      rfl
  | setPosY =>
      obtain rfl : _ = word := Option.some.inj hword
      obtain rfl : posX = 0 := hposX rfl
      obtain rfl : fieldX = 0 := hspeedX rfl
      obtain rfl : fieldY = 0 := hspeedY rfl
      rfl
  | setPosXY =>
      obtain rfl : _ = word := Option.some.inj hword
      obtain rfl : fieldX = 0 := hspeedX rfl
      obtain rfl : fieldY = 0 := hspeedY rfl
      rfl
  | speedX | speedY | speedXY =>
      obtain rfl : _ = word := Option.some.inj hword
      obtain rfl : posX = 0 := hposX rfl
      obtain rfl : posY = 0 := hposY rfl
      obtain rfl : speedX.getD 0 = fieldX := hvalueX
      obtain rfl : speedY.getD 0 = fieldY := hvalueY
      unfold MotionWord.command
      rw [hhasX rfl, hhasY rfl]
      rfl
  | _ => exact absurd hword (by simp [Ph5CommandType.motionWord])

theorem jsonWord_of_motion {type : Ph5CommandType} {motion : MotionWord}
    (hmotion : type.motionWord = some motion) : type.jsonWord = some motion.text := by
  cases type with
  | stopXY | forceStop => exact absurd hmotion (by simp [Ph5CommandType.motionWord])
  | _ => exact congrArg (Option.map MotionWord.text) hmotion

/-- The two types with a word that are no motion. -/
theorem jsonWord_of_no_motion {type : Ph5CommandType} {word : String}
    (hword : type.jsonWord = some word) (hmotion : type.motionWord = none) :
    type = .stopXY ∧ word = "stop" ∨ type = .forceStop ∧ word = "forcestop" := by
  cases type with
  | stopXY => exact .inl ⟨rfl, (Option.some.inj hword).symm⟩
  | forceStop => exact .inr ⟨rfl, (Option.some.inj hword).symm⟩
  | _ => simp [Ph5CommandType.jsonWord, Ph5CommandType.motionWord] at hword hmotion

/-- A document with one of the words of these types. -/
theorem fresh_set_of_plain_word (json : ArduinoJson) {doc : JsonVariant} {word : String}
    {type : Ph5CommandType} (hlower : (doc.get "cmd").lowerWord = word.toList)
    (hword : type = .stopXY ∧ word = "stop" ∨ type = .forceStop ∧ word = "forcestop") :
    Ph5Command.fresh.set json doc = { Ph5Command.fresh with id := doc.nr json, type := type } := by
  have hnone : ∀ motion : MotionWord, (doc.get "cmd").lowerWord ≠ motion.text.toList := by
    intro motion
    rw [hlower]
    rcases hword with ⟨-, rfl⟩ | ⟨-, rfl⟩ <;> cases motion <;> decide
  have htype : doc.plainType = type := by
    unfold JsonVariant.plainType
    rw [hlower]
    rcases hword with ⟨rfl, rfl⟩ | ⟨rfl, rfl⟩
    · rfl
    · rfl
  rw [fresh_set_of_no_word json doc hnone, htype]

theorem Encodes.set_eq (json : ArduinoJson) {members : List (String × JsonVariant)}
    (hencodes : Encodes members c) (hplain : c.Plain) :
    Ph5Command.fresh.set json (.object members) = c := by
  obtain ⟨word, cmd, hword, hlookup, hcmd⟩ := hencodes.cmd
  have hget : (JsonVariant.object members).get "cmd" = .string cmd := by
    rw [JsonVariant.get, hlookup]
    rfl
  cases hmotion : c.type.motionWord with
  | some motion =>
      have htext : word = motion.text :=
        Option.some.inj (hword.symm.trans (jsonWord_of_motion hmotion))
      have hlower : ((JsonVariant.object members).get "cmd").lowerWord = motion.text.toList := by
        rw [hget]
        exact lowerWord_string (htext ▸ hcmd)
      obtain ⟨hvalueX, hhasX⟩ := hencodes.speedX.field json hplain.speedX
      obtain ⟨hvalueY, hhasY⟩ := hencodes.speedY.field json hplain.speedY
      rw [fresh_set_of_word json _ hlower, hencodes.nr_eq json, field_eq json hencodes.x,
        field_eq json hencodes.y]
      exact command_of_word hmotion hplain hvalueX hvalueY hhasX hhasY
  | none =>
      have hplainWord := jsonWord_of_no_motion hword hmotion
      have hlower : ((JsonVariant.object members).get "cmd").lowerWord = word.toList := by
        rw [hget]
        refine lowerWord_of_lower ?_ hcmd
        rcases hplainWord with ⟨-, rfl⟩ | ⟨-, rfl⟩ <;> decide
      rw [fresh_set_of_plain_word json hlower hplainWord, hencodes.nr_eq json]
      obtain ⟨hposX, hposY, hspeedX, hspeedY⟩ := hplain
      rcases c with ⟨id, type, posX, speedX, posY, speedY⟩
      have hunused : posX = 0 ∧ posY = 0 ∧ speedX = 0 ∧ speedY = 0 := by
        rcases hplainWord with ⟨rfl, -⟩ | ⟨rfl, -⟩
        · exact ⟨hposX rfl, hposY rfl, hspeedX rfl, hspeedY rfl⟩
        · exact ⟨hposX rfl, hposY rfl, hspeedX rfl, hspeedY rfl⟩
      obtain ⟨rfl, rfl, rfl, rfl⟩ := hunused
      rfl

theorem fillDefaults_eq (parser : JsonCommandParser) (c : Ph5Command) :
    parser.fillDefaults c = c.withDefaults parser := by
  have hX : JsonCommandParser.movesX c.type = c.type.travelsX := by
    cases c.type <;> rfl
  have hY : JsonCommandParser.movesY c.type = c.type.travelsY := by
    cases c.type <;> rfl
  unfold JsonCommandParser.fillDefaults Ph5Command.withDefaults JsonCommandParser.fillSpeed
  simp only [hX, hY, Bool.and_eq_true, beq_iff_eq]

end Command

/-! ## The whole path -/

/-- **Decoding undoes encoding.** Every document of a command is parsed into the
command with its default speeds, and a text that does not deserialize leaves any
command as it was. -/
theorem parse_encoded (json : ArduinoJson) (parser : JsonCommandParser) (text : List UInt8) :
    (∀ (members : List (String × JsonVariant)) (c : Ph5Command),
      json.deserializeJson text = .ok (.object members) → Encodes members c → c.Plain →
        parser.parse json text Ph5Command.fresh = (none, c.withDefaults parser)) ∧
      ∀ (error : DeserializationError) (command : Ph5Command),
        json.deserializeJson text = .error error →
          parser.parse json text command = (some error, command) := by
  constructor
  · intro members c htext hencodes hplain
    simp only [JsonCommandParser.parse, htext]
    rw [hencodes.set_eq json hplain, fillDefaults_eq]
  · intro error command htext
    simp only [JsonCommandParser.parse, htext]

def moveToXYCommand : Ph5Command :=
  { id := 4000000000, type := .moveToXY, posX := -5, speedX := 0, posY := 7, speedY := 300 }

/-- A document of the command, without the speed that is 0. -/
def moveToXYMembers : List (String × JsonVariant) :=
  [("note", .boolean true), ("y", .float 7), ("cmd", .string "MoveTo"), ("speedY", .integer 300),
    ("x", .integer (-5)), ("nr", .integer 4000000000)]

theorem moveToXY_encodes : Encodes moveToXYMembers moveToXYCommand where
  cmd := ⟨"moveto", "MoveTo", rfl, rfl, by decide⟩
  nr := ⟨_, rfl, .inl rfl⟩
  x := ⟨_, rfl, .inl rfl⟩
  y := ⟨_, rfl, .inr rfl⟩
  speedX := .inr ⟨rfl, rfl, rfl⟩
  speedY := .inl ⟨_, rfl, .inl rfl⟩

def moveToXYText : List UInt8 :=
  asciiBytes ("\x7b\"note\":true,\"y\":7.0,\"cmd\":\"MoveTo\"," ++
    "\"speedY\":300,\"x\":-5,\"nr\":4000000000\x7d")

theorem moveToXY_decoded :
    let json := benchJson moveToXYText (.object moveToXYMembers)
    jsonCommandParser.parse json moveToXYText Ph5Command.fresh =
        (none, { moveToXYCommand with speedX := 1000 }) ∧
      jsonCommandParser.parse json [] moveToXYCommand = (some .invalidInput, moveToXYCommand) := by
  intro json
  constructor
  · refine (parse_encoded json jsonCommandParser moveToXYText).1 moveToXYMembers moveToXYCommand
      (benchJson_deserializeJson _ _) moveToXY_encodes ?_
    constructor <;> decide
  · exact (parse_encoded json jsonCommandParser []).2 .invalidInput moveToXYCommand rfl

end Ph5Firmware
