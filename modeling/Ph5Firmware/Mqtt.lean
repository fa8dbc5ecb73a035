import Ph5Firmware.Bench
import Ph5Firmware.Dispatch
import Ph5Firmware.Library.Text

/-!
# The MQTT callback

`mqttCallback` gets a pointer into a receive buffer and the length of the
message.  It builds a copy of the message that ends in a NUL, prints the copy,
and then parses the buffer itself.  The memory is therefore the message followed
by whatever the buffer still holds.

* The copy depends on the message only (`mqttMessage_append`), but a message that
  is rejected is printed once more, with what follows it (`printed_of_error`).
* The decision, that is the command or the rejection and the state, depends on the
  message only when the message holds a NUL or the JSON reader finishes inside it.
  If both an accepted and a rejected text begin with the message, it does so in no
  other case (`mqttCallback_decided_iff`): a message that breaks off is completed
  by what an earlier message left behind.

ArduinoJson reads the text one character at a time, so its `deserializeJson` is a
`Reader` over the characters before the NUL.
-/

namespace Ph5Firmware

variable {Motor : Type*}

/-- What one message does: the texts printed from the buffer, and the command or the
rejection. -/
structure MqttEffect (Motor : Type*) where
  printed : List (List UInt8)
  dispatched : Option Ph5Command
  rejected : Option DeserializationError
  state : State Motor
  deriving DecidableEq

/-- The effect without the console output. -/
def MqttEffect.decision (effect : MqttEffect Motor) :
    Option Ph5Command × Option DeserializationError × State Motor :=
  (effect.dispatched, effect.rejected, effect.state)

/-- The copy `msg`, up to its NUL. -/
def mqttMessage (payload : List UInt8) (length : ℕ) : List UInt8 :=
  Text.upTo 0 (payload.take length)

/-- `mqttCallback`, with the memory that starts at `payload`. -/
def mqttCallback (driver : FastAccelStepper Motor) (json : ArduinoJson) (payload : List UInt8)
    (length : ℕ) (state : State Motor) : MqttEffect Motor :=
  let msg := mqttMessage payload length
  -- what is parsed is `payload`, not `msg`
  let text := Text.upTo 0 payload
  match jsonCommandParser.parse json text Ph5Command.fresh with
  | (none, cmd) =>
      { printed := [msg]
        dispatched := some cmd
        rejected := none
        state := (processCommand driver cmd state).1 }
  -- the parser prints the text it rejects
  | (some error, _) =>
      { printed := [msg, text], dispatched := none, rejected := some error, state := state }

theorem mqttMessage_append (payload rest : List UInt8) :
    mqttMessage (payload ++ rest) payload.length = Text.upTo 0 payload := by
  unfold mqttMessage
  rw [List.take_left]

section Effect

variable (driver : FastAccelStepper Motor) (json : ArduinoJson) (state : State Motor)

theorem isSome_dispatched_of_ok {payload : List UInt8} {doc : JsonVariant}
    (hread : json.deserializeJson (Text.upTo 0 payload) = .ok doc) (length : ℕ) :
    (mqttCallback driver json payload length state).dispatched.isSome = true := by
  simp only [mqttCallback, JsonCommandParser.parse, hread, Option.isSome_some]

theorem dispatched_eq_none_of_error {payload : List UInt8} {error : DeserializationError}
    (hread : json.deserializeJson (Text.upTo 0 payload) = .error error) (length : ℕ) :
    (mqttCallback driver json payload length state).dispatched = none := by
  simp only [mqttCallback, JsonCommandParser.parse, hread]

/-- The console gets a rejected message without a NUL twice, the second time with
what an earlier message left after it. -/
theorem printed_of_error {payload : List UInt8} (hnul : 0 ∉ payload) (rest : List UInt8)
    {error : DeserializationError}
    (hread : json.deserializeJson (payload ++ Text.upTo 0 rest) = .error error) :
    (mqttCallback driver json (payload ++ rest) payload.length state).printed =
      [payload, payload ++ Text.upTo 0 rest] := by
  rw [← Text.upTo_append_of_not_mem hnul] at hread ⊢
  simp only [mqttCallback, JsonCommandParser.parse, hread, mqttMessage_append,
    Text.upTo_eq_self hnul]

/-- The decision sees the memory through the text only. -/
theorem decision_congr {payload first second : List UInt8}
    (hread : json.deserializeJson (Text.upTo 0 (payload ++ first)) =
      json.deserializeJson (Text.upTo 0 (payload ++ second))) :
    (mqttCallback driver json (payload ++ first) payload.length state).decision =
      (mqttCallback driver json (payload ++ second) payload.length state).decision := by
  simp only [mqttCallback, JsonCommandParser.parse, hread]
  split <;> rfl

variable {driver json} {ReaderState : Type*}
  {reader : Reader ReaderState UInt8 DeserializationError JsonVariant}

theorem decision_eq_of_decided
    (hreads : ∀ text, json.deserializeJson text = reader.read text) {payload : List UInt8}
    (hdecided : 0 ∈ payload ∨ reader.Finishes payload) (first second : List UInt8) :
    (mqttCallback driver json (payload ++ first) payload.length state).decision =
      (mqttCallback driver json (payload ++ second) payload.length state).decision := by
  apply decision_congr
  by_cases hnul : 0 ∈ payload
  · rw [Text.upTo_append_of_mem hnul, Text.upTo_append_of_mem hnul]
  · have hfinishes := hdecided.resolve_left hnul
    rw [Text.upTo_append_of_not_mem hnul, Text.upTo_append_of_not_mem hnul, hreads, hreads,
      Reader.read_append_of_finishes hfinishes, Reader.read_append_of_finishes hfinishes]

variable (driver) in
theorem decision_ne_of_open
    (hreads : ∀ text, json.deserializeJson text = reader.read text) {payload : List UInt8}
    (hnul : 0 ∉ payload) (hopen : reader.Open (· ≠ 0) payload) :
    ∃ first second,
      (mqttCallback driver json (payload ++ first) payload.length state).decision ≠
        (mqttCallback driver json (payload ++ second) payload.length state).decision := by
  have htext : ∀ rest, (∀ byte ∈ rest, byte ≠ 0) →
      Text.upTo 0 (payload ++ rest) = payload ++ rest := by
    intro rest hrest
    have hclean : 0 ∉ rest := by
      intro hmem
      exact hrest 0 hmem rfl
    rw [Text.upTo_append_of_not_mem hnul, Text.upTo_eq_self hclean]
  obtain ⟨first, doc, hfirst, hok⟩ := hopen.accepted
  obtain ⟨second, error, hsecond, herror⟩ := hopen.rejected
  rw [← hreads, ← htext first hfirst] at hok
  rw [← hreads, ← htext second hsecond] at herror
  refine ⟨first, second, ?_⟩
  intro hsame
  -- one continuation is dispatched, the other is rejected
  have hdispatched := isSome_dispatched_of_ok driver json state hok payload.length
  rw [show (mqttCallback driver json (payload ++ first) payload.length state).dispatched =
      (mqttCallback driver json (payload ++ second) payload.length state).dispatched from
        congrArg Prod.fst hsame,
    dispatched_eq_none_of_error driver json state herror payload.length] at hdispatched
  exact absurd hdispatched (by decide)

/-- **Bytes after the message.** They have no influence when the message holds a NUL
or the reader finishes inside it, and in no other case if both an accepted and a
rejected text begin with the message. -/
theorem mqttCallback_decided_iff (hreads : ∀ text, json.deserializeJson text = reader.read text)
    (payload : List UInt8) :
    (0 ∈ payload ∨ reader.Finishes payload →
        ∀ first second,
          (mqttCallback driver json (payload ++ first) payload.length state).decision =
            (mqttCallback driver json (payload ++ second) payload.length state).decision) ∧
      (reader.Open (· ≠ 0) payload →
        ((∀ first second,
            (mqttCallback driver json (payload ++ first) payload.length state).decision =
              (mqttCallback driver json (payload ++ second) payload.length state).decision) ↔
          0 ∈ payload ∨ reader.Finishes payload)) := by
  refine ⟨decision_eq_of_decided state hreads, fun hopen => ?_⟩
  refine ⟨fun hsame => ?_, decision_eq_of_decided state hreads⟩
  by_contra hundecided
  obtain ⟨hnul, _⟩ := not_or.mp hundecided
  obtain ⟨first, second, hne⟩ := decision_ne_of_open driver state hreads hnul hopen
  exact hne (hsame first second)

end Effect

/-! ## A message that breaks off -/

def stopText : List UInt8 := asciiBytes "\x7b\"cmd\":\"stop\"\x7d"

def stopReader : Reader (List UInt8) UInt8 DeserializationError JsonVariant :=
  .exactly stopText (.object [("cmd", .string "stop")]) .incompleteInput .invalidInput

def stopJson : ArduinoJson where
  deserializeJson := stopReader.read
  textNumber _ := none

/-- Without its closing brace the message stops the axes or is rejected, depending
on the byte an earlier message left after it. -/
theorem truncated_stop_differs :
    let payload := stopText.dropLast
    let effect (rest : List UInt8) :=
      mqttCallback benchDriver stopJson (payload ++ rest) payload.length (benchState 0 0)
    ¬ stopReader.Finishes payload ∧ (effect [125]).decision ≠ (effect []).decision ∧
      (effect [125]).dispatched = some { Ph5Command.fresh with type := .stopXY } ∧
      (effect []).rejected = some .incompleteInput := by
  refine ⟨by decide, by decide, by decide, by decide⟩

theorem truncated_stop_open : stopReader.Open (· ≠ 0) stopText.dropLast := by
  have hclosing : stopText.dropLast ++ [125] = stopText := by decide
  exact Reader.exactly_open _ _ _ hclosing (by simp) (by simp)

/-- The whole message is decided by its own bytes, here before the rest of another
message and at the end of the buffer.  Without its closing brace it is not. -/
theorem whole_stop_decided :
    let effect (payload rest : List UInt8) :=
      mqttCallback benchDriver stopJson (payload ++ rest) payload.length (benchState 0 0)
    (effect stopText (asciiBytes ",\"x\":5\x7d")).decision = (effect stopText []).decision ∧
      ¬ ∀ first second, (effect stopText.dropLast first).decision =
        (effect stopText.dropLast second).decision :=
  ⟨(mqttCallback_decided_iff (benchState 0 0) (fun _ => rfl) stopText).1 (.inr (by decide)) _ _,
    fun hsame => absurd
      (((mqttCallback_decided_iff (benchState 0 0) (fun _ => rfl) stopText.dropLast).2
        truncated_stop_open).mp hsame) (by decide)⟩

end Ph5Firmware
