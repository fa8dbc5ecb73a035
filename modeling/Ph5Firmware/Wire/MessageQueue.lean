import Ph5Firmware.Wire.FrameSender

/-!
# The message queue of a WebSocket client

Only the message in front of the queue has ever been sent from; all others are as they were
queued (`Waits`).  `Under unacked message` says how the counters of a message stand of which
`unacked` bytes are on the way, and `InTurn` says both of a queue.

* `Under.after`: a fragment more; `accept_nextFragment` is what the peer makes of it.
* `Under.acknowledge`: bytes acknowledged.
* `InTurn.dropFinished` and `InTurn.append`: what else happens to the queue.
-/

namespace Ph5Firmware

namespace AsyncWebSocketMultiMessage

/-- What the peer is to be told. -/
def content (message : AsyncWebSocketMultiMessage) : UInt8 × List UInt8 :=
  (message.opcode, message.data)

def unsent (message : AsyncWebSocketMultiMessage) : Bool :=
  message.sent < message.data.length

/-- What the peer has of a message that is under way. -/
def begun (message : AsyncWebSocketMultiMessage) : Option (UInt8 × List UInt8) :=
  if 0 < message.sent ∧ message.sent < message.data.length then
    some (message.opcode, message.data.take message.sent)
  else none

/-- A message that can be sent at all. -/
structure Fits (message : AsyncWebSocketMultiMessage) : Prop where
  length : message.data.length < 2 ^ 30
  opcode_ne : message.opcode ≠ 0
  opcode_lt : message.opcode < 8

structure Waits (message : AsyncWebSocketMultiMessage) : Prop extends message.Fits where
  sending : message.status = .sending
  sent : message.sent = 0
  ack : message.ack = 0
  acked : message.acked = 0

/-- A message of which `unacked` bytes are on the way. -/
structure Under (unacked : ℕ) (message : AsyncWebSocketMultiMessage) : Prop
    extends message.Fits where
  sending : message.status = .sending
  sent : message.sent ≤ message.data.length
  -- a fragment is at least as long as a third of what is counted for it
  counted : message.ack.toNat ≤ 3 * message.sent
  acked : message.acked.toNat + unacked = message.ack.toNat
  unfinished : unacked = 0 → message.sent = message.data.length → message.data = []

end AsyncWebSocketMultiMessage

/-- The message queue, with `unacked` bytes of the message in front on the way. -/
inductive InTurn (unacked : ℕ) : List AsyncWebSocketMultiMessage → Prop where
  | nothing (hacked : unacked = 0) : InTurn unacked []
  | finished {message rest} (hstatus : message.status ≠ .sending)
      (hsent : message.sent = message.data.length) (hacked : unacked = 0)
      (hrest : ∀ later ∈ rest, later.Waits) : InTurn unacked (message :: rest)
  | under {message rest} (hfront : message.Under unacked) (hrest : ∀ later ∈ rest, later.Waits) :
      InTurn unacked (message :: rest)

/-! ## The message queue -/

theorem AsyncWebSocketMultiMessage.Waits.under {message : AsyncWebSocketMultiMessage}
    (hwaits : message.Waits) : message.Under 0 where
  toFits := hwaits.toFits
  sending := hwaits.sending
  sent := by rw [hwaits.sent]; exact Nat.zero_le _
  counted := by rw [hwaits.ack]; exact Nat.zero_le _
  acked := by rw [hwaits.ack, hwaits.acked]; rfl
  unfinished := by
    intro _ hsent
    rw [hwaits.sent] at hsent
    exact List.eq_nil_of_length_eq_zero hsent.symm

namespace InTurn

variable {unacked : ℕ} {messages rest : List AsyncWebSocketMultiMessage}

theorem of_waits (hrest : ∀ later ∈ rest, later.Waits) : InTurn 0 rest := by
  cases rest with
  | nil => exact .nothing rfl
  | cons message rest =>
      exact .under (hrest message List.mem_cons_self).under fun later hlater =>
        hrest later (List.mem_cons_of_mem _ hlater)

theorem dropWhile_waits (hrest : ∀ later ∈ rest, later.Waits) :
    rest.dropWhile AsyncWebSocketMultiMessage.finished = rest := by
  cases rest with
  | nil => rfl
  | cons message rest =>
      refine List.dropWhile_cons_of_neg ?_
      simp [AsyncWebSocketMultiMessage.finished, (hrest message List.mem_cons_self).sending]

theorem begun_waits (hrest : ∀ later ∈ rest, later.Waits) :
    rest.head?.bind AsyncWebSocketMultiMessage.begun = none := by
  cases rest with
  | nil => rfl
  | cons message rest =>
      simp [AsyncWebSocketMultiMessage.begun, (hrest message List.mem_cons_self).sent]

/-- Without the finished messages there is as much to send as before. -/
theorem dropFinished (hturn : InTurn unacked messages) :
    InTurn unacked (messages.dropWhile AsyncWebSocketMultiMessage.finished) ∧
      (messages.dropWhile AsyncWebSocketMultiMessage.finished).filter
          AsyncWebSocketMultiMessage.unsent =
        messages.filter AsyncWebSocketMultiMessage.unsent ∧
      (messages.dropWhile AsyncWebSocketMultiMessage.finished).head?.bind
          AsyncWebSocketMultiMessage.begun =
        messages.head?.bind AsyncWebSocketMultiMessage.begun ∧
      ∀ message ∈ (messages.dropWhile AsyncWebSocketMultiMessage.finished).head?,
        message.status = .sending := by
  cases hturn with
  | nothing hacked => exact ⟨.nothing hacked, rfl, rfl, by simp⟩
  | @finished message rest hstatus hsent hacked hrest =>
      have hfinished : message.finished = true := bne_iff_ne.mpr hstatus
      have hunsent : ¬ message.unsent = true := by
        simp [AsyncWebSocketMultiMessage.unsent, hsent]
      have hbegun : message.begun = none := by
        simp [AsyncWebSocketMultiMessage.begun, hsent]
      rw [List.dropWhile_cons_of_pos hfinished, dropWhile_waits hrest,
        List.filter_cons_of_neg hunsent, begun_waits hrest]
      subst hacked
      refine ⟨of_waits hrest, rfl, hbegun.symm, ?_⟩
      intro later hlater
      exact (hrest later (List.mem_of_mem_head? hlater)).sending
  | @under message rest hfront hrest =>
      have hfinished : ¬ message.finished = true := by
        simp [AsyncWebSocketMultiMessage.finished, hfront.sending]
      rw [List.dropWhile_cons_of_neg hfinished]
      refine ⟨.under hfront hrest, rfl, rfl, ?_⟩
      rintro _ ⟨⟩
      exact hfront.sending

theorem append (hturn : InTurn unacked messages) {message : AsyncWebSocketMultiMessage}
    (hwaits : message.Waits) :
    InTurn unacked (messages ++ [message]) ∧
      (messages ++ [message]).head?.bind AsyncWebSocketMultiMessage.begun =
        messages.head?.bind AsyncWebSocketMultiMessage.begun := by
  have hall : ∀ rest : List AsyncWebSocketMultiMessage, (∀ later ∈ rest, later.Waits) →
      ∀ later ∈ rest ++ [message], later.Waits := by
    intro rest hrest later hlater
    rcases List.mem_append.mp hlater with hbefore | hnew
    · exact hrest later hbefore
    · exact List.mem_singleton.mp hnew ▸ hwaits
  cases hturn with
  | nothing hacked =>
      subst hacked
      refine ⟨of_waits (hall [] (by simp)), begun_waits (hall [] (by simp))⟩
  | finished hstatus hsent hacked hrest =>
      exact ⟨.finished hstatus hsent hacked (hall _ hrest), rfl⟩
  | under hfront hrest => exact ⟨.under hfront (hall _ hrest), rfl⟩

theorem unacked_eq_zero (hturn : InTurn unacked messages)
    (hbetween : messages.head?.all AsyncWebSocketMultiMessage.betweenFrames = true) :
    unacked = 0 := by
  cases hturn with
  | nothing hacked => exact hacked
  | finished _ _ hacked _ => exact hacked
  | @under message rest hfront hrest =>
      have hequal : message.acked = message.ack := by
        simpa [AsyncWebSocketMultiMessage.betweenFrames] using hbetween
      have hcount := hfront.acked
      rw [hequal] at hcount
      omega

end InTurn

namespace AsyncWebSocketMultiMessage

/-- The next fragment, as the peer takes it. -/
def nextFragment (message : AsyncWebSocketMultiMessage) (count : ℕ) :
    Reassembly.Fragment UInt8 UInt8 :=
  { opens := if message.sent = 0 then some message.opcode else none
    final := message.sent + count == message.data.length
    payload := (message.data.drop message.sent).take count }

theorem toNat_framed {count : ℕ} (hcount : count < 2 ^ 16) :
    (framed count).toNat = count + if count < 126 then 2 else 4 := by
  unfold framed
  rw [UInt32.toNat_ofNat', Nat.mod_eq_of_lt]
  split_ifs <;> omega

theorem Under.after {message : AsyncWebSocketMultiMessage} (hfront : message.Under 0) {count : ℕ}
    (hpositive : 0 < count) (hcount : count < 2 ^ 16)
    (hwithin : message.sent + count ≤ message.data.length) :
    (message.after count).Under (framed count).toNat := by
  have hframed := toNat_framed hcount
  have hmore : (framed count).toNat ≤ 3 * count := by
    rw [hframed]
    split_ifs <;> omega
  have hack : (message.ack + framed count).toNat = message.ack.toNat + (framed count).toNat := by
    have hcounted := hfront.counted
    have hlength := hfront.length
    rw [UInt32.toNat_add, Nat.mod_eq_of_lt (by omega)]
  have hacked := hfront.acked
  exact
    { toFits := ⟨hfront.length, hfront.opcode_ne, hfront.opcode_lt⟩
      sending := hfront.sending
      sent := hwithin
      counted := by
        have hcounted := hfront.counted
        show (message.ack + framed count).toNat ≤ 3 * (message.sent + count)
        omega
      acked := by
        show message.acked.toNat + (framed count).toNat = (message.ack + framed count).toNat
        omega
      unfinished := by
        intro hnothing _
        rw [hframed] at hnothing
        omega }

/-- The fragment fits what the peer has, and the peer has what `after` says it has. -/
theorem accept_nextFragment {message : AsyncWebSocketMultiMessage}
    (hleft : message.sent < message.data.length) {count : ℕ} (hpositive : 0 < count)
    (hwithin : message.sent + count ≤ message.data.length) (done : List (UInt8 × List UInt8)) :
    ∃ more, Reassembly.Inbox.accept ⟨done, message.begun⟩ (message.nextFragment count) =
        some ⟨done ++ more, (message.after count).begun⟩ ∧
      [message.content] = more ++ ([message.after count].filter unsent).map content := by
  have hjoined : message.data.take message.sent ++ (message.data.drop message.sent).take count =
      message.data.take (message.sent + count) := (List.take_add).symm
  have hkept : Reassembly.Inbox.accept ⟨done, message.begun⟩ (message.nextFragment count) =
      some (Reassembly.Inbox.keep ⟨done, message.begun⟩
        (message.sent + count == message.data.length)
        (message.opcode, message.data.take (message.sent + count))) := by
    unfold nextFragment
    by_cases hfirst : message.sent = 0
    · have hbegun : message.begun = none := by simp [begun, hfirst]
      rw [if_pos hfirst, Reassembly.Inbox.accept_first hbegun, ← hjoined]
      simp [hfirst]
    · have hbegun : message.begun = some (message.opcode, message.data.take message.sent) := by
        rw [begun, if_pos ⟨by omega, hleft⟩]
      rw [if_neg hfirst, Reassembly.Inbox.accept_next hbegun, ← hjoined]
  rw [hkept]
  by_cases hlast : message.sent + count = message.data.length
  · refine ⟨[message.content], ?_, ?_⟩
    · simp [Reassembly.Inbox.keep, hlast, content, begun, after]
    · simp [unsent, after, hlast]
  · have hopen : message.sent + count < message.data.length := lt_of_le_of_ne hwithin hlast
    refine ⟨[], ?_, ?_⟩
    · simp [Reassembly.Inbox.keep, hlast, begun, after, hopen, hpositive]
    · simp [unsent, after, hopen, content]

end AsyncWebSocketMultiMessage

namespace AsyncWebSocketMultiMessage

theorem acknowledge_fields (len : UInt32) (message : AsyncWebSocketMultiMessage) :
    (message.acknowledge len).unsent = message.unsent ∧
      (message.acknowledge len).begun = message.begun ∧
      (message.acknowledge len).content = message.content := by
  unfold acknowledge
  simp only
  split_ifs <;> exact ⟨rfl, rfl, rfl⟩

theorem Under.acknowledge {unacked : ℕ} {message : AsyncWebSocketMultiMessage}
    (hfront : message.Under unacked) {len : UInt32} (hlen : len.toNat ≤ unacked)
    {rest : List AsyncWebSocketMultiMessage} (hrest : ∀ later ∈ rest, later.Waits) :
    InTurn (unacked - len.toNat) (message.acknowledge len :: rest) := by
  have hcount := hfront.acked
  have hsent := hfront.sent
  have hbound : message.ack.toNat < 2 ^ 32 := message.ack.toNat_lt
  have hacked : (message.acked + len).toNat = message.acked.toNat + len.toNat := by
    rw [UInt32.toNat_add, Nat.mod_eq_of_lt (by omega)]
  unfold AsyncWebSocketMultiMessage.acknowledge
  simp only
  split_ifs with hdone
  · have hall : message.ack.toNat ≤ (message.acked + len).toNat := UInt32.le_iff_toNat_le.mp hdone.2
    exact .finished (by simp) (le_antisymm hsent hdone.1) (by omega) hrest
  · refine .under ?_ hrest
    exact
      { toFits := ⟨hfront.length, hfront.opcode_ne, hfront.opcode_lt⟩
        sending := hfront.sending
        sent := hsent
        counted := hfront.counted
        acked := by
          show (message.acked + len).toNat + (unacked - len.toNat) = message.ack.toNat
          omega
        unfinished := by
          intro hnothing hlast
          refine absurd ⟨hlast.ge, UInt32.le_iff_toNat_le.mpr ?_⟩ hdone
          omega }

end AsyncWebSocketMultiMessage

end Ph5Firmware
