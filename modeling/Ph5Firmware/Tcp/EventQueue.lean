import Mathlib.Data.List.TakeWhile
import Ph5Firmware.Library.Runs

/-!
# The queue of TCP events

The TCP stack puts an event into a queue for everything that happens to a connection, and
the task `async_tcp` takes them out.  When a connection is closed, the task removes its
events: `_remove_events_with_arg` takes every packet out of the queue and puts it back
unless it is one of them, until it sees the first one again that it has put back.  The
stack goes on sending events in the meantime.

Here is the model and what one step does to the order in which the packets will stand;
`Ph5Firmware.Tcp.EventRuns` has what holds of whole runs.

* `flow_turn`: a turn of the task leaves that order.
* `split_send`, `split_prepend`: what is sent comes in between.
* `step_rotated`: the first packet stays in the queue while it is rotated.
-/

namespace Ph5Firmware

/-- `lwip_event_t`. -/
inductive LwipEvent where
  | sent
  | recv
  | fin
  | error
  | poll
  | clear
  | accept
  | connected
  | dns
  deriving DecidableEq

/-- The events that `_tcp_clear_events`, `_tcp_accept` and `_tcp_connected` put in front of the
others. -/
def LwipEvent.prepended : LwipEvent → Bool
  | .clear | .accept | .connected => true
  | _ => false

/-- `lwip_event_packet_t`, and where it is. -/
structure EventPacket where
  address : ℕ
  event : LwipEvent
  arg : ℕ
  deriving DecidableEq

/-- The length of `_async_queue`. -/
def asyncQueueLength : ℕ := 32

/-- Where `_remove_events_with_arg` is. -/
inductive ClearPlace where
  /-- At the loop for `first_packet`. -/
  | finding
  /-- `first_packet` has been received and not yet been sent to the back. -/
  | returning (first : EventPacket)
  /-- At the condition of the second loop. -/
  | rotating (first : EventPacket)
  /-- In the second loop, before `xQueueReceive`. -/
  | receiving (first : EventPacket)
  | carrying (first packet : EventPacket)
  | done (found : Bool)
  deriving DecidableEq

/-- The first packet, once it is back in the queue. -/
def ClearPlace.rotation : ClearPlace → Option EventPacket
  | .rotating first | .receiving first | .carrying first _ => some first
  | _ => none

structure ClearRun where
  queue : List EventPacket
  place : ClearPlace
  deriving DecidableEq

inductive ClearAction where
  /-- The task goes on. -/
  | turn
  /-- `_send_async_event` in the stack. -/
  | send (packet : EventPacket)
  /-- `_prepend_async_event` in the stack. -/
  | prepend (packet : EventPacket)
  deriving DecidableEq

namespace ClearRun

def start (queue : List EventPacket) : ClearRun :=
  { queue := queue, place := .finding }

variable (arg : ℕ) (run : ClearRun)

/-- What the task has in its hands. -/
def held : List EventPacket :=
  match run.place with
  | .returning first => [first]
  | .carrying _ packet => [packet]
  | _ => []

def turn : ClearRun :=
  match run.place with
  | .finding =>
      match run.queue with
      | [] => { run with place := .done false }
      | packet :: rest =>
          if packet.arg = arg then { run with queue := rest }
          else { queue := rest, place := .returning packet }
  | .returning first => { queue := run.queue ++ [first], place := .rotating first }
  | .rotating first =>
      match run.queue with
      | [] => { run with place := .done true }
      | packet :: _ =>
          if packet.address ≠ first.address then { run with place := .receiving first }
          else { run with place := .done true }
  | .receiving first =>
      match run.queue with
      | [] => { run with place := .done false }
      | packet :: rest =>
          if packet.arg = arg then { queue := rest, place := .rotating first }
          else { queue := rest, place := .carrying first packet }
  | .carrying first packet => { queue := run.queue ++ [packet], place := .rotating first }
  | .done _ => run

def step : ClearAction → ClearRun
  | .turn => run.turn arg
  | .send packet => { run with queue := run.queue ++ [packet] }
  | .prepend packet => { run with queue := packet :: run.queue }

def room : Prop :=
  run.queue.length < asyncQueueLength

instance : Decidable run.room :=
  inferInstanceAs (Decidable (_ < _))

/-- A new packet is at an address where none is. -/
def fresh (packet : EventPacket) : Prop :=
  ∀ other ∈ run.queue ++ run.held, packet.address ≠ other.address

instance (packet : EventPacket) : Decidable (run.fresh packet) :=
  inferInstanceAs (Decidable (∀ other ∈ _, _))

/-- Sending waits while the queue is full. -/
def Enabled : ClearAction → Prop
  | .turn => (∀ found, run.place ≠ .done found) ∧ (run.held ≠ [] → run.room)
  | .send packet => run.room ∧ run.fresh packet ∧ packet.event.prepended = false
  | .prepend packet => run.room ∧ run.fresh packet ∧ packet.event.prepended = true

instance (action : ClearAction) : Decidable (run.Enabled action) :=
  match action with
  | .turn => inferInstanceAs (Decidable (_ ∧ _))
  | .send _ => inferInstanceAs (Decidable (_ ∧ _ ∧ _))
  | .prepend _ => inferInstanceAs (Decidable (_ ∧ _ ∧ _))

/-! ## The order in which the packets will stand

`settled` is what stands in its final order already, and `waiting` what has still to be
put back, behind it.  Both are of the packets that `watch` selects. -/

/-- What stands in front of the first packet, and what does not. -/
def ahead (first : EventPacket) (queue : List EventPacket) : List EventPacket :=
  queue.takeWhile fun packet => packet.address ≠ first.address

def behind (first : EventPacket) (queue : List EventPacket) : List EventPacket :=
  queue.dropWhile fun packet => packet.address ≠ first.address

variable (watch : EventPacket → Bool)

def settled : List EventPacket :=
  match run.place with
  | .finding | .done _ => run.queue.filter watch
  | .returning first => (first :: run.queue).filter watch
  | .rotating first | .receiving first | .carrying first _ => (behind first run.queue).filter watch

def waiting : List EventPacket :=
  match run.place with
  | .finding | .done _ | .returning _ => []
  | .rotating first | .receiving first => (ahead first run.queue).filter watch
  | .carrying first packet => (packet :: ahead first run.queue).filter watch

/-- The order in which the packets will stand. -/
def flow : List EventPacket :=
  run.settled watch ++ run.waiting watch

/-- A packet is sent while an older one has still to be put back. -/
def Overtakes (run : ClearRun) : ClearAction → Prop
  | .send packet => watch packet = true ∧ run.waiting watch ≠ []
  | _ => False

instance (action : ClearAction) : Decidable (Overtakes watch run action) :=
  match action with
  | .turn => inferInstanceAs (Decidable False)
  | .send _ => inferInstanceAs (Decidable (_ ∧ _))
  | .prepend _ => inferInstanceAs (Decidable False)

/-- While the queue is rotated the first packet is in it; at the second receive another
one is in front. -/
structure Rotated (run : ClearRun) : Prop where
  distinct : ((run.queue ++ run.held).map EventPacket.address).Nodup
  inside : ∀ first ∈ run.place.rotation, first ∈ run.queue
  front : ∀ first, run.place = .receiving first →
    ∃ packet rest, run.queue = packet :: rest ∧ packet.address ≠ first.address

theorem start_packets (queue : List EventPacket) :
    (start queue).queue ++ (start queue).held = queue :=
  List.append_nil queue

theorem start_rotated {queue : List EventPacket}
    (hdistinct : (queue.map EventPacket.address).Nodup) : Rotated (start queue) where
  distinct := by
    rw [start_packets]
    exact hdistinct
  inside first hfirst := absurd hfirst (Option.not_mem_none first)
  front first hplace := absurd hplace ClearPlace.noConfusion

section Split

variable {first packet : EventPacket} {queue : List EventPacket}

theorem split_cons (hne : packet.address ≠ first.address) (queue : List EventPacket) :
    ahead first (packet :: queue) = packet :: ahead first queue ∧
      behind first (packet :: queue) = behind first queue :=
  ⟨List.takeWhile_cons_of_pos (by simpa using hne),
    List.dropWhile_cons_of_pos (by simpa using hne)⟩

theorem split_first (heq : packet.address = first.address) (queue : List EventPacket) :
    ahead first (packet :: queue) = [] ∧ behind first (packet :: queue) = packet :: queue :=
  ⟨List.takeWhile_cons_of_neg (by simpa using heq),
    List.dropWhile_cons_of_neg (by simpa using heq)⟩

/-- What is sent stands behind the first packet. -/
theorem split_append (hinside : first ∈ queue) (packet : EventPacket) :
    ahead first (queue ++ [packet]) = ahead first queue ∧
      behind first (queue ++ [packet]) = behind first queue ++ [packet] := by
  induction queue with
  | nil => exact absurd hinside List.not_mem_nil
  | cons head rest ih =>
      rw [List.cons_append]
      by_cases heq : head.address = first.address
      · obtain ⟨hahead, hbehind⟩ := split_first heq rest
        obtain ⟨hsent, hsentBehind⟩ := split_first heq (rest ++ [packet])
        exact ⟨hsent.trans hahead.symm, by rw [hsentBehind, hbehind, List.cons_append]⟩
      · have hrest : first ∈ rest := by
          rcases List.mem_cons.mp hinside with rfl | hrest
          · exact absurd rfl heq
          · exact hrest
        obtain ⟨hahead, hbehind⟩ := split_cons heq rest
        obtain ⟨hsent, hsentBehind⟩ := split_cons heq (rest ++ [packet])
        rw [hsent, hsentBehind, hahead, hbehind, (ih hrest).1, (ih hrest).2]
        exact ⟨rfl, rfl⟩

/-- The first packet, put back. -/
theorem split_returned (hnone : ∀ other ∈ queue, other.address ≠ first.address) :
    ahead first (queue ++ [first]) = queue ∧ behind first (queue ++ [first]) = [first] := by
  induction queue with
  | nil => exact split_first rfl []
  | cons head rest ih =>
      obtain ⟨hahead, hbehind⟩ := split_cons (hnone head (List.mem_cons_self ..)) (rest ++ [first])
      obtain ⟨hrest, hlast⟩ := ih fun other hother => hnone other (List.mem_cons_of_mem head hother)
      rw [List.cons_append, hahead, hbehind, hrest, hlast]
      exact ⟨rfl, rfl⟩

end Split

/-! ## One step -/

theorem Rotated.ne_of_mem {run : ClearRun} (hrotated : Rotated run) {packet other : EventPacket}
    (hpacket : packet ∈ run.queue) (hother : other ∈ run.held) :
    packet.address ≠ other.address := by
  have hdistinct := hrotated.distinct
  rw [List.map_append, List.nodup_append] at hdistinct
  exact hdistinct.2.2 _ (List.mem_map_of_mem hpacket) _ (List.mem_map_of_mem hother)

section Step

variable {arg watch run} {first packet : EventPacket}

theorem filter_snoc (queue : List EventPacket) (packet : EventPacket) :
    (queue ++ [packet]).filter watch =
      queue.filter watch ++ if watch packet then [packet] else [] := by
  rw [List.filter_append, List.filter_cons, List.filter_nil]

theorem split_send (hrotated : Rotated run) (packet : EventPacket) :
    (run.step arg (.send packet)).settled watch =
        run.settled watch ++ (if watch packet then [packet] else []) ∧
      (run.step arg (.send packet)).waiting watch = run.waiting watch := by
  obtain ⟨queue, place⟩ := run
  cases place with
  | finding => exact ⟨filter_snoc .., rfl⟩
  | done found => exact ⟨filter_snoc .., rfl⟩
  | returning first => exact ⟨filter_snoc (first :: queue) packet, rfl⟩
  | rotating first =>
      obtain ⟨hahead, hbehind⟩ := split_append (hrotated.inside first rfl) packet
      simp only [step, settled, waiting, hahead, hbehind, filter_snoc, and_self]
  | receiving first =>
      obtain ⟨hahead, hbehind⟩ := split_append (hrotated.inside first rfl) packet
      simp only [step, settled, waiting, hahead, hbehind, filter_snoc, and_self]
  | carrying first other =>
      obtain ⟨hahead, hbehind⟩ :=
        split_append (hrotated.inside first rfl) packet
      simp only [step, settled, waiting, hahead, hbehind, filter_snoc, and_self]

theorem split_prepend (hrotated : Rotated run) {packet : EventPacket} (hfresh : run.fresh packet)
    (hother : watch packet = false) :
    (run.step arg (.prepend packet)).settled watch = run.settled watch ∧
      (run.step arg (.prepend packet)).waiting watch = run.waiting watch := by
  obtain ⟨queue, place⟩ := run
  have hfront : ∀ first ∈ queue, packet.address ≠ first.address := fun first hfirst =>
    hfresh first (List.mem_append_left _ hfirst)
  have hnot : ¬ watch packet = true := by
    rw [hother]
    exact Bool.false_ne_true
  cases place with
  | finding => exact ⟨List.filter_cons_of_neg hnot, rfl⟩
  | done found => exact ⟨List.filter_cons_of_neg hnot, rfl⟩
  | returning first =>
      simp only [step, settled, waiting, List.filter_cons, hother, Bool.false_eq_true, if_false,
        and_self]
  | rotating first =>
      obtain ⟨hahead, hbehind⟩ := split_cons (hfront first (hrotated.inside first rfl)) queue
      simp only [step, settled, waiting, hahead, hbehind, List.filter_cons_of_neg hnot, and_self]
  | receiving first =>
      obtain ⟨hahead, hbehind⟩ :=
        split_cons (hfront first (hrotated.inside first rfl)) queue
      simp only [step, settled, waiting, hahead, hbehind, List.filter_cons_of_neg hnot, and_self]
  | carrying first other =>
      obtain ⟨hahead, hbehind⟩ :=
        split_cons (hfront first (hrotated.inside first rfl)) queue
      simp only [step, settled, waiting, hahead, hbehind, List.filter_cons, hother,
        Bool.false_eq_true, if_false, and_self]

/-- A turn of the task leaves the order in which the packets will stand. -/
theorem flow_turn (hwatch : ∀ packet, watch packet = true → packet.arg ≠ arg)
    (hrotated : Rotated run) :
    (run.turn arg).flow watch = run.flow watch := by
  have hremoved : ∀ packet : EventPacket, packet.arg = arg → ¬ watch packet = true :=
    fun packet harg hwatched => hwatch packet hwatched harg
  unfold flow
  obtain ⟨queue, place⟩ := run
  cases place with
  | done found => rfl
  | finding =>
      cases queue with
      | nil => rfl
      | cons packet rest =>
          by_cases harg : packet.arg = arg
          · simp only [turn, if_pos harg, settled, waiting,
              List.filter_cons_of_neg (hremoved _ harg)]
          · simp only [turn, if_neg harg, settled, waiting]
  | returning first =>
      have hnone : ∀ other ∈ queue, other.address ≠ first.address :=
        fun other hother => hrotated.ne_of_mem hother (List.mem_singleton_self first)
      -- the first packet goes behind all the others, which are now ahead of it
      obtain ⟨hahead, hbehind⟩ := split_returned hnone
      simp only [turn, settled, waiting, hahead, hbehind, List.append_nil]
      rw [← List.filter_append, List.singleton_append]
  | rotating first =>
      cases queue with
      | nil => rfl
      | cons packet rest =>
          by_cases heq : packet.address = first.address
          · obtain ⟨hahead, hbehind⟩ := split_first heq rest
            simp only [turn, if_neg (not_not.mpr heq), settled, waiting, hahead, hbehind,
              List.filter_nil]
          · simp only [turn, if_pos heq, settled, waiting]
  | receiving first =>
      obtain ⟨packet, rest, rfl, hne⟩ := hrotated.front first rfl
      obtain ⟨hahead, hbehind⟩ := split_cons hne rest
      by_cases harg : packet.arg = arg
      · simp only [turn, if_pos harg, settled, waiting, hahead, hbehind,
          List.filter_cons_of_neg (hremoved _ harg)]
      · simp only [turn, if_neg harg, settled, waiting, hahead, hbehind]
  | carrying first packet =>
      obtain ⟨hahead, hbehind⟩ :=
        split_append (hrotated.inside first rfl) packet
      simp only [turn, settled, waiting, hahead, hbehind, ← List.filter_append]
      rw [List.append_assoc, List.singleton_append]

theorem distinct_of_perm {packets others : List EventPacket} (hperm : packets.Perm others)
    (hdistinct : (others.map EventPacket.address).Nodup) :
    (packets.map EventPacket.address).Nodup :=
  (hperm.map EventPacket.address).nodup_iff.mpr hdistinct

theorem turn_rotated (hrotated : Rotated run) : Rotated (run.turn arg) := by
  have hdistinct := hrotated.distinct
  obtain ⟨queue, place⟩ := run
  cases place with
  | done found => exact hrotated
  | finding =>
      cases queue with
      | nil => exact ⟨hdistinct, by simp [turn, ClearPlace.rotation], by simp [turn]⟩
      | cons packet rest =>
          by_cases harg : packet.arg = arg
          · simp only [turn, if_pos harg]
            exact ⟨(List.nodup_cons.mp hdistinct).2, by simp [ClearPlace.rotation], by simp⟩
          · simp only [turn, if_neg harg]
            refine ⟨distinct_of_perm (List.perm_append_singleton packet rest) ?_,
              by simp [ClearPlace.rotation], by simp⟩
            simpa [held] using hdistinct
  | returning first =>
      refine ⟨?_, by simp [turn, ClearPlace.rotation], by simp [turn]⟩
      simpa [turn, held] using hdistinct
  | rotating first =>
      have hinside := hrotated.inside first rfl
      cases queue with
      | nil => exact absurd hinside List.not_mem_nil
      | cons packet rest =>
          by_cases heq : packet.address = first.address
          · simp only [turn, if_neg (not_not.mpr heq)]
            exact ⟨hdistinct, by simp [ClearPlace.rotation], by simp⟩
          · simp only [turn, if_pos heq]
            refine ⟨hdistinct, hrotated.inside, ?_⟩
            intro other hother
            obtain rfl := ClearPlace.receiving.inj hother
            exact ⟨packet, rest, rfl, heq⟩
  | receiving first =>
      have hinside := hrotated.inside first rfl
      obtain ⟨packet, rest, rfl, hne⟩ := hrotated.front first rfl
      have hrest : first ∈ rest := by
        rcases List.mem_cons.mp hinside with rfl | hrest
        · exact absurd rfl hne
        · exact hrest
      by_cases harg : packet.arg = arg
      · simp only [turn, if_pos harg]
        exact ⟨(List.nodup_cons.mp hdistinct).2, by simpa [ClearPlace.rotation] using hrest,
          by simp⟩
      · simp only [turn, if_neg harg]
        refine ⟨distinct_of_perm (List.perm_append_singleton packet rest) ?_,
          by simpa [ClearPlace.rotation] using hrest, by simp⟩
        simpa [held] using hdistinct
  | carrying first packet =>
      have hinside := hrotated.inside first rfl
      refine ⟨?_, by simpa [turn, ClearPlace.rotation] using .inl hinside, by simp [turn]⟩
      simpa [turn, held] using hdistinct

theorem step_rotated {action : ClearAction} (hrotated : Rotated run)
    (henabled : run.Enabled action) : Rotated (run.step arg action) := by
  have hdistinct := hrotated.distinct
  have hnew : ∀ packet, run.fresh packet →
      ((packet :: (run.queue ++ run.held)).map EventPacket.address).Nodup := by
    intro packet hfresh
    refine List.nodup_cons.mpr ⟨?_, hdistinct⟩
    intro hmem
    obtain ⟨other, hother, heq⟩ := List.mem_map.mp hmem
    exact hfresh other hother heq.symm
  cases action with
  | turn => exact turn_rotated hrotated
  | send packet =>
      refine ⟨distinct_of_perm ?_ (hnew packet henabled.2.1), ?_, ?_⟩
      · show ((run.queue ++ [packet]) ++ run.held).Perm _
        rw [List.append_assoc, List.singleton_append]
        exact List.perm_middle
      · intro first hfirst
        exact List.mem_append_left _ (hrotated.inside first hfirst)
      · intro first hfirst
        obtain ⟨front, rest, hqueue, hne⟩ := hrotated.front first hfirst
        exact ⟨front, rest ++ [packet], by rw [step, hqueue, List.cons_append], hne⟩
  | prepend packet =>
      refine ⟨hnew packet henabled.2.1, ?_, ?_⟩
      · intro first hfirst
        exact List.mem_cons_of_mem _ (hrotated.inside first hfirst)
      · intro first hfirst
        have hplace : first ∈ run.place.rotation := by
          rw [show run.place = .receiving first from hfirst]
          rfl
        exact ⟨packet, run.queue, rfl,
          henabled.2.1 first (List.mem_append_left _ (hrotated.inside first hplace))⟩

end Step

end ClearRun

end Ph5Firmware
