import Mathlib.Data.Rat.Floor
import Ph5Firmware.Command

/-!
# JSON commands

`ph5command.cpp`: a JSON document is turned into a `Ph5Command` by `set`, which
picks one of four functions by the `cmd` member, and `JsonCommandParser::parse`
then fills in default speeds.

ArduinoJson is a library the firmware links against.  A document is a
`JsonVariant`; looking a key up and converting a variant to an integer follow the
library's documentation (0 for what is not convertible or out of range, fractions
truncated, booleans 0 or 1).  The two things the documentation leaves to the
library are parameters, collected in `ArduinoJson`: the reading of a text, and
the number a string spells.
-/

namespace Ph5Firmware

inductive JsonVariant where
  | null
  | boolean (value : Bool)
  | integer (value : Int)
  | float (value : Rat)
  | string (value : String)
  | array (elements : List JsonVariant)
  | object (members : List (String × JsonVariant))

/-- The results of `deserializeJson` other than `Ok`. -/
inductive DeserializationError where
  | emptyInput
  | incompleteInput
  | invalidInput
  | noMemory
  | tooDeep
  deriving DecidableEq

/-- What is left to the library. -/
structure ArduinoJson where
  /-- `deserializeJson` on the text at a `const char*`, given without its NUL. -/
  deserializeJson : List UInt8 → Except DeserializationError JsonVariant
  textNumber : String → Option Rat

namespace JsonVariant

/-- `doc[key]`: the null variant unless the document is an object with this member. -/
def get (doc : JsonVariant) (key : String) : JsonVariant :=
  match doc with
  | object members => (members.lookup key).getD null
  | _ => null

def isNull : JsonVariant → Bool
  | null => true
  | _ => false

/-- Drop the fraction of a number in the range of the target type; 0 outside it. -/
def truncateIn (low high : Int) (value : Rat) : Int :=
  if low ≤ value ∧ value ≤ high then
    if 0 ≤ value then value.floor else value.ceil
  else 0

def toIntegerIn (json : ArduinoJson) (low high : Int) : JsonVariant → Int
  | integer value => if low ≤ value ∧ value ≤ high then value else 0
  | float value => truncateIn low high value
  | boolean value => value.toInt
  | string value => (json.textNumber value).elim 0 (truncateIn low high)
  | _ => 0

def asInt32 (json : ArduinoJson) (variant : JsonVariant) : Int32 :=
  Int32.ofInt (variant.toIntegerIn json (-2147483648) 2147483647)

def asUInt32 (json : ArduinoJson) (variant : JsonVariant) : UInt32 :=
  UInt32.ofNat (variant.toIntegerIn json 0 4294967295).toNat

/-- `String c = as<const char*>(); c.toLowerCase();`.  A string ends at its first
NUL, and anything but a string gives the empty string. -/
def lowerWord : JsonVariant → List Char
  | string value => (value.toList.takeWhile (· != '\x00')).map Char.toLower
  | _ => []

end JsonVariant

open JsonVariant (asInt32 asUInt32)

namespace Ph5Command

variable (json : ArduinoJson) (doc : JsonVariant)

/-- `temp = doc[key]; if (!temp.isNull()) { field = temp; }`. -/
def readField (key : String) (field : Int32) : Int32 :=
  if (doc.get key).isNull then field else (doc.get key).asInt32 json

def typeForAxes (hasX hasY : Bool) (both onlyX onlyY : Ph5CommandType) : Ph5CommandType :=
  if hasX && hasY then both
  else if hasX then onlyX
  else if hasY then onlyY
  else .error

/-- `setMoveXY`: the fields it sets and the type it returns. -/
def setMoveXY (cmd : Ph5Command) : Ph5Command × Ph5CommandType :=
  ({ cmd with
      posX := readField json doc "x" cmd.posX
      posY := readField json doc "y" cmd.posY
      speedX := readField json doc "speedX" cmd.speedX
      speedY := readField json doc "speedY" cmd.speedY },
    typeForAxes (!(doc.get "x").isNull) (!(doc.get "y").isNull) .moveXY .moveX .moveY)

def setSpeedXY (cmd : Ph5Command) : Ph5Command × Ph5CommandType :=
  ({ cmd with
      speedX := readField json doc "speedX" cmd.speedX
      speedY := readField json doc "speedY" cmd.speedY },
    typeForAxes (!(doc.get "speedX").isNull) (!(doc.get "speedY").isNull)
      .speedXY .speedX .speedY)

def setMoveToXY (cmd : Ph5Command) : Ph5Command × Ph5CommandType :=
  ({ cmd with
      posX := readField json doc "x" cmd.posX
      posY := readField json doc "y" cmd.posY
      speedX := readField json doc "speedX" cmd.speedX
      speedY := readField json doc "speedY" cmd.speedY },
    typeForAxes (!(doc.get "x").isNull) (!(doc.get "y").isNull) .moveToXY .moveToX .moveToY)

def setPos (cmd : Ph5Command) : Ph5Command × Ph5CommandType :=
  ({ cmd with
      posX := readField json doc "x" cmd.posX
      posY := readField json doc "y" cmd.posY },
    typeForAxes (!(doc.get "x").isNull) (!(doc.get "y").isNull) .setPosXY .setPosX .setPosY)

def set (cmd : Ph5Command) : Ph5Command :=
  let cmd := { cmd with id := if (doc.get "nr").isNull then 0 else (doc.get "nr").asUInt32 json }
  if (doc.get "cmd").isNull then cmd
  else
    let c := (doc.get "cmd").lowerWord
    if c = "move".toList then
      { (setMoveXY json doc cmd).1 with type := (setMoveXY json doc cmd).2 }
    else if c = "speed".toList then
      { (setSpeedXY json doc cmd).1 with type := (setSpeedXY json doc cmd).2 }
    else if c = "moveto".toList then
      { (setMoveToXY json doc cmd).1 with type := (setMoveToXY json doc cmd).2 }
    else if c = "stop".toList then { cmd with type := .stopXY }
    else if c = "forcestop".toList then { cmd with type := .forceStop }
    else if c = "setpos".toList then
      { (setPos json doc cmd).1 with type := (setPos json doc cmd).2 }
    else { cmd with type := .unknown }

end Ph5Command

/-- `class JsonCommandParser`, without its console. -/
structure JsonCommandParser where
  defaultSpeedX : Int32
  defaultSpeedY : Int32

def jsonCommandParser : JsonCommandParser :=
  { defaultSpeedX := 1000, defaultSpeedY := 1000 }

namespace JsonCommandParser

/-- The default speed of an axis that is to move and whose speed is 0. -/
def fillSpeed (moves : Bool) (default speed : Int32) : Int32 :=
  if moves && speed == 0 then default else speed

def movesX (type : Ph5CommandType) : Bool :=
  type == .moveX || type == .moveToX || type == .moveXY || type == .moveToXY

def movesY (type : Ph5CommandType) : Bool :=
  type == .moveY || type == .moveToY || type == .moveXY || type == .moveToXY

/-- The part of `parse` after `command.set(doc)`. -/
def fillDefaults (parser : JsonCommandParser) (command : Ph5Command) : Ph5Command :=
  { command with
    speedX := fillSpeed (movesX command.type) parser.defaultSpeedX command.speedX
    speedY := fillSpeed (movesY command.type) parser.defaultSpeedY command.speedY }

/-- `JsonCommandParser::parse`.  The first component is the error returned, `none`
for `Ok`. -/
def parse (json : ArduinoJson) (parser : JsonCommandParser) (text : List UInt8)
    (command : Ph5Command) : Option DeserializationError × Ph5Command :=
  match json.deserializeJson text with
  | .error error => (some error, command)
  | .ok doc => (none, parser.fillDefaults (command.set json doc))

end JsonCommandParser

end Ph5Firmware
