import Mathlib.Data.Fintype.EquivFin
import Ph5Firmware.Tcp.EventQueue

/-!
# Runs of the removal

The stack sends events while the task removes those of a connection.

* `events_kept`: at the end of a run no event of another connection is missing; they are in
  order exactly if none was sent to the back while an older one had still to be put back;
  and of the connection itself only events are left that came in the meantime.
* `deadlock_iff`: the task and the stack can block each other exactly if more events come
  than the queue has room for.
* `removal_ends`: the number of turns is bounded by the number of events.
* `removal_alone`: if nothing comes, the removal ends and leaves the other events.
-/

namespace Ph5Firmware

/-- What the stack puts into the queue. -/
def ClearAction.packets : ClearAction → List EventPacket
  | .turn => []
  | .send packet | .prepend packet => [packet]

/-- What has been put into the queue, of what `watch` selects. -/
def ClearAction.added (watch : EventPacket → Bool) (actions : List ClearAction) :
    List EventPacket :=
  (actions.flatMap ClearAction.packets).filter watch

theorem ClearAction.added_cons (watch : EventPacket → Bool) (action : ClearAction)
    (rest : List ClearAction) :
    ClearAction.added watch (action :: rest) =
      action.packets.filter watch ++ ClearAction.added watch rest := by
  rw [added, List.flatMap_cons, List.filter_append, added]

namespace ClearRun

open ClearAction

variable {arg : ℕ} {watch : EventPacket → Bool} {run : ClearRun}

/-! ## Nothing is lost -/

theorem held_of_done {found : Bool} (hdone : run.place = .done found) : run.held = [] := by
  rw [held, hdone]

theorem flow_of_done {found : Bool} (hdone : run.place = .done found) :
    run.flow watch = run.queue.filter watch := by
  rw [flow, settled, waiting, hdone]
  exact List.append_nil _

theorem flow_start (queue : List EventPacket) : (start queue).flow watch = queue.filter watch :=
  List.append_nil _

/-- What the task does not discard stays, in the queue or in its hands. -/
theorem kept_turn (hwatch : ∀ packet, watch packet = true → packet.arg ≠ arg) :
    (((run.turn arg).queue ++ (run.turn arg).held).filter watch).Perm
      ((run.queue ++ run.held).filter watch) := by
  have hremoved : ∀ packet : EventPacket, packet.arg = arg → ¬ watch packet = true :=
    fun packet harg hwatched => hwatch packet hwatched harg
  obtain ⟨queue, place⟩ := run
  cases place with
  | done found => exact .refl _
  | finding =>
      cases queue with
      | nil => exact .refl _
      | cons packet rest =>
          by_cases harg : packet.arg = arg
          · simp only [turn, if_pos harg, held, List.append_nil]
            rw [List.filter_cons_of_neg (hremoved _ harg)]
          · simp only [turn, if_neg harg, held, List.append_nil]
            exact (List.perm_append_singleton packet rest).filter watch
  | returning first => simp only [turn, held, List.append_nil, List.Perm.refl]
  | rotating first =>
      cases queue with
      | nil => exact .refl _
      | cons packet rest =>
          by_cases heq : packet.address = first.address
          · simp only [turn, if_neg (not_not.mpr heq), held, List.Perm.refl]
          · simp only [turn, if_pos heq, held, List.Perm.refl]
  | receiving first =>
      cases queue with
      | nil => exact .refl _
      | cons packet rest =>
          by_cases harg : packet.arg = arg
          · simp only [turn, if_pos harg, held, List.append_nil]
            rw [List.filter_cons_of_neg (hremoved _ harg)]
          · simp only [turn, if_neg harg, held, List.append_nil]
            exact (List.perm_append_singleton packet rest).filter watch
  | carrying first packet => simp only [turn, held, List.append_nil, List.Perm.refl]

theorem kept_step (hwatch : ∀ packet, watch packet = true → packet.arg ≠ arg)
    (action : ClearAction) :
    (((run.step arg action).queue ++ (run.step arg action).held).filter watch).Perm
      ((run.queue ++ run.held).filter watch ++ action.packets.filter watch) := by
  rw [← List.filter_append]
  cases action with
  | turn =>
      rw [packets, List.append_nil]
      exact kept_turn hwatch
  | send packet =>
      refine List.Perm.filter watch ?_
      rw [step, held, packets, List.append_assoc, List.append_assoc]
      exact List.perm_append_comm.append_left run.queue
  | prepend packet =>
      refine List.Perm.filter watch ?_
      exact (List.perm_append_singleton packet _).symm

theorem kept_run (hwatch : ∀ packet, watch packet = true → packet.arg ≠ arg)
    (actions : List ClearAction) :
    (((actions.foldl (step arg) run).queue ++ (actions.foldl (step arg) run).held).filter
        watch).Perm ((run.queue ++ run.held).filter watch ++ added watch actions) := by
  induction actions generalizing run with
  | nil => exact .of_eq (List.append_nil _).symm
  | cons action rest ih =>
      refine ih.trans ?_
      rw [added_cons, ← List.append_assoc]
      exact (kept_step hwatch action).append_right _

/-! ## The order -/

theorem rotated_run (hrotated : Rotated run) {actions : List ClearAction}
    (henabled : Run.Along (step arg) Enabled run actions) :
    Rotated (actions.foldl (step arg) run) := by
  induction actions generalizing run with
  | nil => exact hrotated
  | cons action rest ih => exact ih (step_rotated hrotated henabled.1) henabled.2

theorem Rotated.nodup (hrotated : Rotated run) : run.queue.Nodup := by
  have hdistinct := hrotated.distinct
  rw [List.map_append] at hdistinct
  exact hdistinct.of_append_left.of_map _

/-- What is put into the queue comes last, unless it overtakes. -/
theorem flow_step (hwatch : ∀ packet, watch packet = true → packet.arg ≠ arg)
    (hrotated : Rotated run) {action : ClearAction} (henabled : run.Enabled action)
    (hbehind : ∀ packet, watch packet = true → packet.event.prepended = false) :
    (run.flow watch).Sublist ((run.step arg action).flow watch) ∧
      (¬ Overtakes watch run action →
        (run.step arg action).flow watch = run.flow watch ++ action.packets.filter watch) := by
  cases action with
  | turn =>
      have hflow : (run.step arg .turn).flow watch = run.flow watch := flow_turn hwatch hrotated
      rw [hflow, packets, List.filter_nil, List.append_nil]
      exact ⟨.refl _, fun _ => rfl⟩
  | prepend packet =>
      have hother : watch packet = false := by
        by_contra hwatched
        have hsent := hbehind packet (Bool.eq_true_of_not_eq_false hwatched)
        exact absurd (hsent.symm.trans henabled.2.2) Bool.false_ne_true
      obtain ⟨hsettled, hwaiting⟩ :=
        @split_prepend arg run watch hrotated packet henabled.2.1 hother
      rw [flow, flow, hsettled, hwaiting, packets, List.filter_cons_of_neg (by simp [hother]),
        List.filter_nil, List.append_nil]
      exact ⟨.refl _, fun _ => rfl⟩
  | send packet =>
      obtain ⟨hsettled, hwaiting⟩ := @split_send arg run watch hrotated packet
      rw [flow, flow, hsettled, hwaiting, packets, List.filter_cons, List.filter_nil]
      refine ⟨(List.sublist_append_left _ _).append_right _, ?_⟩
      intro hlast
      by_cases hwatched : watch packet = true
      · have hnone : run.waiting watch = [] := by
          by_contra hwaits
          exact hlast ⟨hwatched, hwaits⟩
        rw [hnone, List.append_nil, List.append_nil]
      · rw [if_neg hwatched, List.append_nil, List.append_nil]

theorem flow_sublist (hwatch : ∀ packet, watch packet = true → packet.arg ≠ arg)
    (hrotated : Rotated run) {actions : List ClearAction}
    (henabled : Run.Along (step arg) Enabled run actions)
    (hbehind : ∀ packet, watch packet = true → packet.event.prepended = false) :
    (run.flow watch).Sublist ((actions.foldl (step arg) run).flow watch) := by
  induction actions generalizing run with
  | nil => exact .refl _
  | cons action rest ih =>
      refine (flow_step hwatch hrotated henabled.1 hbehind).1.trans ?_
      exact ih (step_rotated hrotated henabled.1) henabled.2

/-- What stands before something that came earlier does not stand behind it. -/
theorem ne_of_overtaken {front waiting later line : List EventPacket} {packet : EventPacket}
    (hdistinct : line.Nodup) (hwaiting : waiting ≠ [])
    (hline : (front ++ [packet] ++ waiting).Sublist line) :
    line ≠ front ++ waiting ++ packet :: later := by
  rintro rfl
  obtain ⟨other, rest, rfl⟩ := List.exists_cons_of_ne_nil hwaiting
  have hboth : [packet, other].Sublist (front ++ other :: rest ++ packet :: later) := by
    refine List.Sublist.trans ?_ hline
    rw [List.append_assoc]
    refine List.Sublist.trans ?_ (List.sublist_append_right _ _)
    exact ((List.nil_sublist rest).cons_cons other).cons_cons packet
  obtain ⟨before, behind, hsplit, hpacket, hother⟩ := List.cons_sublist_iff.mp hboth
  have hseparate := (List.nodup_append.mp hdistinct).2.2
  rcases List.append_eq_append_iff.mp hsplit with
    ⟨middle, hbefore, hbehind⟩ | ⟨middle, hfront, hlast⟩
  · -- the older packet stands in front of this one, and behind it
    rw [hsplit] at hdistinct
    refine (List.nodup_append.mp hdistinct).2.2 other ?_ other
      (List.singleton_sublist.mp hother) rfl
    rw [hbefore]
    simp
  · refine hseparate packet ?_ packet (List.mem_cons_self ..) rfl
    rw [hfront]
    exact List.mem_append_left _ hpacket

theorem order_run (hwatch : ∀ packet, watch packet = true → packet.arg ≠ arg)
    (hrotated : Rotated run) {actions : List ClearAction}
    (henabled : Run.Along (step arg) Enabled run actions)
    (hbehind : ∀ packet, watch packet = true → packet.event.prepended = false) {found : Bool}
    (hdone : (actions.foldl (step arg) run).place = .done found) :
    (actions.foldl (step arg) run).queue.filter watch = run.flow watch ++ added watch actions ↔
      Run.Along (step arg) (fun run action => ¬ Overtakes watch run action) run actions := by
  induction actions generalizing run with
  | nil => exact iff_of_true ((flow_of_done hdone).symm.trans (List.append_nil _).symm) trivial
  | cons action rest ih =>
      have hnext : Rotated (run.step arg action) := step_rotated hrotated henabled.1
      rw [List.foldl_cons] at hdone ⊢
      by_cases hovertakes : Overtakes watch run action
      · refine iff_of_false ?_ fun halong => halong.1 hovertakes
        cases action with
        | turn => exact absurd hovertakes not_false
        | prepend packet => exact absurd hovertakes not_false
        | send packet =>
            obtain ⟨hwatched, hwaiting⟩ := hovertakes
            -- it stands before the packets that wait, and will do so at the end
            obtain ⟨hsettled, hleft⟩ := @split_send arg run watch hrotated packet
            have hline := flow_sublist hwatch hnext henabled.2 hbehind
            rw [flow_of_done hdone, flow, hsettled, hleft, if_pos hwatched] at hline
            have hdistinct := (rotated_run hrotated henabled).nodup.filter watch
            rw [flow, added_cons, packets, List.filter_cons_of_pos hwatched, List.filter_nil]
            exact ne_of_overtaken hdistinct hwaiting hline
      · have hflow := (flow_step hwatch hrotated henabled.1 hbehind).2 hovertakes
        have hrest := ih hnext henabled.2 hdone
        rw [hflow, List.append_assoc, ← added_cons] at hrest
        exact hrest.trans (and_iff_right hovertakes).symm

/-! ## What is left of the connection -/

/-- What the task will not look at again. -/
def examined (run : ClearRun) : List EventPacket :=
  match run.place with
  | .finding => []
  | .returning first => [first]
  | .rotating first | .receiving first => behind first run.queue
  | .carrying first packet => packet :: behind first run.queue
  | .done _ => run.queue

theorem examined_turn (hrotated : Rotated run) {packet : EventPacket}
    (hpacket : packet ∈ (run.turn arg).examined) (harg : packet.arg = arg) :
    packet ∈ run.examined := by
  obtain ⟨queue, place⟩ := run
  cases place with
  | done found => exact hpacket
  | finding =>
      cases queue with
      | nil => exact hpacket
      | cons head rest =>
          by_cases hhead : head.arg = arg
          · simp only [turn, if_pos hhead] at hpacket
            exact hpacket
          · simp only [turn, if_neg hhead] at hpacket
            rw [List.mem_singleton.mp hpacket] at harg
            exact absurd harg hhead
  | returning first =>
      have hnone : ∀ other ∈ queue, other.address ≠ first.address :=
        fun other hother => hrotated.ne_of_mem hother (List.mem_singleton_self first)
      simp only [turn, examined, (split_returned hnone).2] at hpacket
      exact hpacket
  | rotating first =>
      cases queue with
      | nil => exact hpacket
      | cons head rest =>
          -- the first packet is in front again: everything behind it has been seen
          by_cases heq : head.address = first.address
          · simp only [turn, if_neg (not_not.mpr heq)] at hpacket
            simp only [examined, (split_first heq rest).2]
            exact hpacket
          · simp only [turn, if_pos heq] at hpacket
            exact hpacket
  | receiving first =>
      obtain ⟨head, rest, rfl, hne⟩ := hrotated.front first rfl
      have hbehind := (split_cons hne rest).2
      by_cases hhead : head.arg = arg
      · simp only [turn, if_pos hhead, examined] at hpacket
        simpa only [examined, hbehind] using hpacket
      · simp only [turn, if_neg hhead, examined] at hpacket
        simp only [examined, hbehind]
        refine (List.mem_cons.mp hpacket).resolve_left ?_
        rintro rfl
        exact hhead harg
  | carrying first other =>
      have hbehind := (split_append (hrotated.inside first rfl) other).2
      simp only [turn, examined, hbehind] at hpacket
      rcases List.mem_append.mp hpacket with hbefore | hlast
      · exact List.mem_cons_of_mem _ hbefore
      · exact List.mem_cons.mpr (.inl (List.mem_singleton.mp hlast))

theorem examined_send (hrotated : Rotated run) {packet other : EventPacket}
    (hpacket : packet ∈ (run.step arg (.send other)).examined) :
    packet ∈ run.examined ∨ packet = other := by
  have hlast : ∀ {front : List EventPacket}, packet ∈ front ++ [other] →
      packet ∈ front ∨ packet = other := by
    intro front hmem
    exact (List.mem_append.mp hmem).imp_right List.mem_singleton.mp
  obtain ⟨queue, place⟩ := run
  cases place with
  | finding => exact .inl hpacket
  | returning first => exact .inl hpacket
  | done found => exact hlast hpacket
  | rotating first =>
      simp only [step, examined, (split_append (hrotated.inside first rfl) other).2] at hpacket
      exact hlast hpacket
  | receiving first =>
      simp only [step, examined, (split_append (hrotated.inside first rfl) other).2] at hpacket
      exact hlast hpacket
  | carrying first carried =>
      simp only [step, examined, (split_append (hrotated.inside first rfl) other).2] at hpacket
      exact hlast hpacket

theorem examined_prepend (hrotated : Rotated run) {packet other : EventPacket}
    (hfresh : run.fresh other) (hpacket : packet ∈ (run.step arg (.prepend other)).examined) :
    packet ∈ run.examined ∨ packet = other := by
  obtain ⟨queue, place⟩ := run
  have hfront : ∀ first ∈ queue, behind first (other :: queue) = behind first queue :=
    fun first hfirst => (split_cons (hfresh first (List.mem_append_left _ hfirst)) queue).2
  cases place with
  | finding => exact .inl hpacket
  | returning first => exact .inl hpacket
  | done found => exact (List.mem_cons.mp hpacket).symm
  | rotating first =>
      simp only [step, examined, hfront first (hrotated.inside first rfl)] at hpacket
      exact .inl hpacket
  | receiving first =>
      simp only [step, examined, hfront first (hrotated.inside first rfl)] at hpacket
      exact .inl hpacket
  | carrying first carried =>
      simp only [step, examined, hfront first (hrotated.inside first rfl)] at hpacket
      exact .inl hpacket

theorem examined_step (hrotated : Rotated run) {action : ClearAction}
    (henabled : run.Enabled action) {packet : EventPacket}
    (hpacket : packet ∈ (run.step arg action).examined) (harg : packet.arg = arg) :
    packet ∈ run.examined ∨ packet ∈ action.packets := by
  cases action with
  | turn => exact .inl (examined_turn hrotated hpacket harg)
  | send other =>
      exact (examined_send hrotated hpacket).imp_right List.mem_singleton.mpr
  | prepend other =>
      exact (examined_prepend hrotated henabled.2.1 hpacket).imp_right List.mem_singleton.mpr

theorem examined_run (hrotated : Rotated run) {actions : List ClearAction}
    (henabled : Run.Along (step arg) Enabled run actions) {packet : EventPacket}
    (hpacket : packet ∈ (actions.foldl (step arg) run).examined) (harg : packet.arg = arg) :
    packet ∈ run.examined ∨ packet ∈ actions.flatMap ClearAction.packets := by
  induction actions generalizing run with
  | nil => exact .inl hpacket
  | cons action rest ih =>
      rw [List.flatMap_cons, List.mem_append]
      rcases ih (step_rotated hrotated henabled.1) henabled.2 hpacket with hnext | hlater
      · exact (examined_step hrotated henabled.1 hnext harg).imp_right .inl
      · exact .inr (.inr hlater)

/-! ## A run that has ended -/

/-- **The removal, with the stack going on.**  When it has ended, the events of other
connections are those that were there and those that have come; they are in this order
exactly if none has overtaken another.  Of the connection itself there are only events that
have come in the meantime. -/
theorem events_kept {queue : List EventPacket}
    (hdistinct : (queue.map EventPacket.address).Nodup)
    {actions : List ClearAction} (henabled : Run.Along (step arg) Enabled (start queue) actions)
    {found : Bool} (hdone : (actions.foldl (step arg) (start queue)).place = .done found)
    (hwatch : ∀ packet, watch packet = true → packet.arg ≠ arg) :
    ((actions.foldl (step arg) (start queue)).queue.filter watch).Perm
        (queue.filter watch ++ added watch actions) ∧
      ((∀ packet, watch packet = true → packet.event.prepended = false) →
        ((actions.foldl (step arg) (start queue)).queue.filter watch =
            queue.filter watch ++ added watch actions ↔
          Run.Along (step arg) (fun run action => ¬ Overtakes watch run action) (start queue)
            actions)) ∧
      ∀ packet ∈ (actions.foldl (step arg) (start queue)).queue, packet.arg = arg →
        packet ∈ actions.flatMap ClearAction.packets := by
  have hrotated := start_rotated hdistinct
  refine ⟨?_, ?_, ?_⟩
  · have hkept := @kept_run arg watch (start queue) hwatch actions
    rw [held_of_done hdone, List.append_nil, start_packets] at hkept
    exact hkept
  · intro hbehind
    have horder := order_run hwatch hrotated henabled hbehind hdone
    rwa [flow_start] at horder
  · intro packet hpacket harg
    have hexamined : packet ∈ (actions.foldl (step arg) (start queue)).examined := by
      rw [examined, hdone]
      exact hpacket
    exact (examined_run hrotated henabled hexamined harg).resolve_left List.not_mem_nil

/-- Data of client 8 come while earlier data have still to be put back. -/
def crossedQueue : List EventPacket :=
  [⟨100, .poll, 7⟩, ⟨101, .recv, 5⟩, ⟨102, .recv, 8⟩]

def crossedActions : List ClearAction :=
  [.turn, .turn, .send ⟨103, .recv, 8⟩, .turn, .turn, .turn, .turn, .turn, .turn]

/-- The later data will be handled first. -/
theorem crossed_reordered :
    let final := crossedActions.foldl (step 5) (start crossedQueue)
    let received (packet : EventPacket) := packet.event = .recv ∧ packet.arg = 8
    final.queue = [⟨100, .poll, 7⟩, ⟨103, .recv, 8⟩, ⟨102, .recv, 8⟩] ∧
      final.queue.filter (fun packet => received packet) ≠
        crossedQueue.filter (fun packet => received packet) ++
          added (fun packet => received packet) crossedActions := by
  intro final received
  have hwatch : ∀ packet, decide (received packet) = true → packet.arg ≠ 5 := by
    intro packet hreceived harg
    have hother := (of_decide_eq_true hreceived).2
    omega
  have hbehind : ∀ packet, decide (received packet) = true → packet.event.prepended = false := by
    intro packet hreceived
    rw [(of_decide_eq_true hreceived).1]
    rfl
  have hdone : final.place = .done true := by decide
  obtain ⟨-, horder, -⟩ := events_kept (by decide) (by decide) hdone hwatch
  exact ⟨by decide, mt (horder hbehind).mp (by decide)⟩

/-! ## The task and the stack block each other -/

/-- Nobody can do anything any more, and the removal has not ended. -/
def Stuck (run : ClearRun) : Prop :=
  (∀ found, run.place ≠ .done found) ∧ ∀ action, ¬ run.Enabled action

theorem stuck_iff_full : run.Stuck ↔ run.held ≠ [] ∧ ¬ run.room := by
  constructor
  · rintro ⟨hplace, hblocked⟩
    have hturn := hblocked .turn
    rw [Enabled, not_and] at hturn
    exact Classical.not_imp.mp (hturn hplace)
  · rintro ⟨hheld, hfull⟩
    refine ⟨fun found hdone => hheld (held_of_done hdone), ?_⟩
    intro action henabled
    cases action with
    | turn => exact hfull (henabled.2 hheld)
    | send packet => exact hfull henabled.1
    | prepend packet => exact hfull henabled.1

theorem length_turn :
    (run.turn arg).queue.length + (run.turn arg).held.length ≤
      run.queue.length + run.held.length := by
  obtain ⟨queue, place⟩ := run
  cases place with
  | done found => exact le_rfl
  | finding =>
      cases queue with
      | nil => exact le_rfl
      | cons packet rest => by_cases harg : packet.arg = arg <;> simp [turn, held, harg]
  | returning first => simp [turn, held]
  | rotating first =>
      cases queue with
      | nil => exact le_rfl
      | cons packet rest => by_cases heq : packet.address = first.address <;> simp [turn, held, heq]
  | receiving first =>
      cases queue with
      | nil => exact le_rfl
      | cons packet rest => by_cases harg : packet.arg = arg <;> simp [turn, held, harg]
  | carrying first packet => simp [turn, held]

theorem length_run (actions : List ClearAction) :
    (actions.foldl (step arg) run).queue.length + (actions.foldl (step arg) run).held.length ≤
      run.queue.length + run.held.length + (actions.flatMap packets).length := by
  induction actions generalizing run with
  | nil => exact le_rfl
  | cons action rest ih =>
      have hrest := @ih (run.step arg action)
      have hstep : (run.step arg action).queue.length + (run.step arg action).held.length ≤
          run.queue.length + run.held.length + action.packets.length := by
        cases action with
        | turn => exact length_turn
        | send packet =>
            simp only [step, packets, List.length_append, List.length_singleton]
            exact (Nat.add_right_comm ..).le
        | prepend packet =>
            simp only [step, packets, List.length_cons, List.length_nil]
            exact (Nat.add_right_comm ..).le
      rw [List.foldl_cons, List.flatMap_cons, List.length_append]
      omega

theorem exists_fresh (event : LwipEvent) (owner : ℕ) :
    ∃ packet : EventPacket, packet.arg = owner ∧ packet.event = event ∧ run.fresh packet := by
  obtain ⟨address, haddress⟩ := Infinite.exists_notMem_finset
    ((run.queue ++ run.held).map EventPacket.address).toFinset
  refine ⟨⟨address, event, owner⟩, rfl, rfl, ?_⟩
  intro other hother heq
  exact haddress (List.mem_toFinset.mpr (List.mem_map.mpr ⟨other, hother, heq.symm⟩))

/-- The stack fills the queue. -/
theorem exists_filled (count : ℕ) (hcount : run.queue.length + count ≤ asyncQueueLength) :
    ∃ actions, Run.Along (step arg) Enabled run actions ∧
      (actions.foldl (step arg) run).place = run.place ∧
      (actions.foldl (step arg) run).queue.length = run.queue.length + count ∧
      (actions.flatMap packets).length = count := by
  induction count generalizing run with
  | zero => exact ⟨[], trivial, rfl, rfl, rfl⟩
  | succ count ih =>
      obtain ⟨packet, -, hevent, hfresh⟩ := @exists_fresh run .recv 0
      have hbehind : packet.event.prepended = false := hevent ▸ rfl
      have hlength : (run.step arg (.send packet)).queue.length = run.queue.length + 1 := by
        rw [step, List.length_append, List.length_singleton]
      obtain ⟨actions, henabled, hplace, hfilled, hpackets⟩ :=
        @ih (run.step arg (.send packet)) (by omega)
      have hroom : run.room := by
        rw [room]
        omega
      refine ⟨.send packet :: actions, ⟨⟨hroom, hfresh, hbehind⟩, henabled⟩, hplace, ?_, ?_⟩
      · rw [List.foldl_cons, hfilled, hlength]
        omega
      · rw [List.flatMap_cons, List.length_append, hpackets, packets, List.length_singleton]
        omega

/-- **Deadlock.** A removal that starts with room in the queue can end with the task waiting
for room that only the task could make, exactly if more events come than there is room for. -/
theorem deadlock_iff {queue : List EventPacket} (hroom : queue.length < asyncQueueLength)
    (count : ℕ) :
    (∃ actions, Run.Along (step arg) Enabled (start queue) actions ∧
        (actions.foldl (step arg) (start queue)).Stuck ∧
        (actions.flatMap packets).length ≤ count) ↔
      asyncQueueLength < queue.length + count := by
  constructor
  · rintro ⟨actions, -, hstuck, hcount⟩
    obtain ⟨hheld, hfull⟩ := stuck_iff_full.mp hstuck
    have hlength := @length_run arg (start queue) actions
    have hstart : (start queue).queue.length + (start queue).held.length = queue.length := rfl
    have hpositive := List.length_pos_iff.mpr hheld
    rw [room] at hfull
    omega
  · intro hcount
    -- an event in front, which the task takes, and then as many as there is room for
    obtain ⟨packet, harg, hevent, hfresh⟩ := @exists_fresh (start queue) .accept (arg + 1)
    have hfront : packet.event.prepended = true := hevent ▸ rfl
    have hother : ¬ packet.arg = arg := by omega
    have hturned : ((start queue).step arg (.prepend packet)).step arg .turn =
        { queue := queue, place := .returning packet } := by
      simp only [step, turn, start, if_neg hother]
    obtain ⟨actions, henabled, hplace, hfilled, hpackets⟩ := @exists_filled arg
      { queue := queue, place := .returning packet } (asyncQueueLength - queue.length) (by
        show queue.length + _ ≤ _
        omega)
    refine ⟨.prepend packet :: .turn :: actions, ⟨⟨hroom, hfresh, hfront⟩, ⟨?_, ?_⟩, ?_⟩, ?_, ?_⟩
    · intro found hdone
      cases hdone
    · intro hheld
      exact absurd rfl hheld
    · rwa [hturned]
    · rw [List.foldl_cons, List.foldl_cons, hturned, stuck_iff_full, held, hplace, room, hfilled]
      refine ⟨List.cons_ne_nil packet [], ?_⟩
      show ¬ queue.length + _ < _
      omega
    · simp only [List.flatMap_cons, List.length_append, hpackets, packets, List.length_singleton,
        List.length_nil]
      omega

/-- The queue of a busy board. -/
def nearlyFull : List EventPacket :=
  (List.range 31).map fun index => ⟨index, .poll, index⟩

/-- Two events are enough, and one is not. -/
theorem nearlyFull_deadlocks :
    (∃ actions, Run.Along (step 7) Enabled (start nearlyFull) actions ∧
        (actions.foldl (step 7) (start nearlyFull)).Stuck ∧
        (actions.flatMap packets).length ≤ 2) ∧
      ¬ ∃ actions, Run.Along (step 7) Enabled (start nearlyFull) actions ∧
        (actions.foldl (step 7) (start nearlyFull)).Stuck ∧
        (actions.flatMap packets).length ≤ 1 :=
  ⟨(deadlock_iff (by decide) 2).mpr (by decide),
    mt (deadlock_iff (by decide) 1).mp (by decide)⟩

/-! ## The end -/

/-- How many turns are left, if nothing comes. -/
def rank (run : ClearRun) : ℕ :=
  match run.place with
  | .finding => 3 * run.queue.length + 1
  | .returning _ => 3 * run.queue.length + 2
  | .rotating first => 3 * (ahead first run.queue).length + 1
  | .receiving first => 3 * (ahead first run.queue).length
  | .carrying first _ => 3 * (ahead first run.queue).length + 2
  | .done _ => 0

theorem rank_turn (hrotated : Rotated run) (hgoing : ∀ found, run.place ≠ .done found) :
    (run.turn arg).rank < run.rank := by
  obtain ⟨queue, place⟩ := run
  cases place with
  | done found => exact absurd rfl (hgoing found)
  | finding =>
      cases queue with
      | nil => exact Nat.zero_lt_one
      | cons packet rest =>
          by_cases harg : packet.arg = arg <;>
            simp only [turn, harg, if_true, if_false, rank, List.length_cons] <;> omega
  | returning first =>
      have hnone : ∀ other ∈ queue, other.address ≠ first.address :=
        fun other hother => hrotated.ne_of_mem hother (List.mem_singleton_self first)
      simp only [turn, rank, (split_returned hnone).1]
      omega
  | rotating first =>
      cases queue with
      | nil => exact Nat.succ_pos _
      | cons packet rest =>
          by_cases heq : packet.address = first.address
          · simp only [turn, if_neg (not_not.mpr heq)]
            exact Nat.succ_pos _
          · simp only [turn, if_pos heq]
            exact Nat.lt_succ_self _
  | receiving first =>
      obtain ⟨packet, rest, rfl, hne⟩ := hrotated.front first rfl
      have hahead := (split_cons hne rest).1
      by_cases harg : packet.arg = arg
      · simp only [turn, if_pos harg, rank, hahead, List.length_cons]
        omega
      · simp only [turn, if_neg harg, rank, hahead, List.length_cons]
        omega
  | carrying first packet =>
      simp only [turn, rank, (split_append (hrotated.inside first rfl) packet).1]
      omega

theorem rank_send (hrotated : Rotated run) (packet : EventPacket) :
    (run.step arg (.send packet)).rank ≤ run.rank + 3 := by
  obtain ⟨queue, place⟩ := run
  cases place with
  | finding =>
      simp only [step, rank, List.length_append, List.length_singleton]
      omega
  | returning first =>
      simp only [step, rank, List.length_append, List.length_singleton]
      omega
  | done found => exact Nat.zero_le _
  | rotating first =>
      simp only [step, rank, (split_append (hrotated.inside first rfl) packet).1]
      omega
  | receiving first =>
      simp only [step, rank, (split_append (hrotated.inside first rfl) packet).1]
      omega
  | carrying first other =>
      simp only [step, rank, (split_append (hrotated.inside first rfl) packet).1]
      omega

theorem rank_prepend (hrotated : Rotated run) {packet : EventPacket} (hfresh : run.fresh packet) :
    (run.step arg (.prepend packet)).rank ≤ run.rank + 3 := by
  obtain ⟨queue, place⟩ := run
  have hfront : ∀ first ∈ queue, ahead first (packet :: queue) = packet :: ahead first queue :=
    fun first hfirst => (split_cons (hfresh first (List.mem_append_left _ hfirst)) queue).1
  cases place with
  | finding =>
      simp only [step, rank, List.length_cons]
      omega
  | returning first =>
      simp only [step, rank, List.length_cons]
      omega
  | done found => exact Nat.zero_le _
  | rotating first =>
      simp only [step, rank, hfront first (hrotated.inside first rfl), List.length_cons]
      omega
  | receiving first =>
      simp only [step, rank, hfront first (hrotated.inside first rfl), List.length_cons]
      omega
  | carrying first other =>
      simp only [step, rank, hfront first (hrotated.inside first rfl), List.length_cons]
      omega

theorem rank_run (hrotated : Rotated run) {actions : List ClearAction}
    (henabled : Run.Along (step arg) Enabled run actions) :
    (actions.foldl (step arg) run).rank + actions.count .turn ≤
      run.rank + 3 * (actions.flatMap packets).length := by
  induction actions generalizing run with
  | nil => exact le_rfl
  | cons action rest ih =>
      have hrest := ih (step_rotated hrotated henabled.1) henabled.2
      rw [List.foldl_cons, List.flatMap_cons, List.length_append]
      cases action with
      | turn =>
          have hstep : (run.step arg .turn).rank < run.rank := rank_turn hrotated henabled.1.1
          rw [List.count_cons_self, packets, List.length_nil]
          omega
      | send packet =>
          have hstep : (run.step arg (.send packet)).rank ≤ run.rank + 3 :=
            rank_send hrotated packet
          rw [List.count_cons_of_ne ClearAction.noConfusion, packets, List.length_singleton]
          omega
      | prepend packet =>
          have hstep : (run.step arg (.prepend packet)).rank ≤ run.rank + 3 :=
            rank_prepend hrotated henabled.1.2.1
          rw [List.count_cons_of_ne ClearAction.noConfusion, packets, List.length_singleton]
          omega

/-- **The removal ends.** It takes a bounded number of turns, whatever the stack does, and
until it has ended the task can go on unless it waits for room. -/
theorem removal_ends {queue : List EventPacket}
    (hdistinct : (queue.map EventPacket.address).Nodup) {actions : List ClearAction}
    (henabled : Run.Along (step arg) Enabled (start queue) actions) :
    actions.count .turn ≤ 3 * (queue.length + (actions.flatMap packets).length) + 1 ∧
      ((∃ found, (actions.foldl (step arg) (start queue)).place = .done found) ∨
        (actions.foldl (step arg) (start queue)).Enabled .turn ∨
        (actions.foldl (step arg) (start queue)).Stuck) := by
  have hrank := rank_run (start_rotated hdistinct) henabled
  have hstart : (start queue).rank = 3 * queue.length + 1 := rfl
  refine ⟨by omega, ?_⟩
  by_cases hdone : ∃ found, (actions.foldl (step arg) (start queue)).place = .done found
  · exact .inl hdone
  · have hgoing := not_exists.mp hdone
    by_cases hfull : (actions.foldl (step arg) (start queue)).held ≠ [] ∧
        ¬ (actions.foldl (step arg) (start queue)).room
    · exact .inr (.inr (stuck_iff_full.mpr hfull))
    · exact .inr (.inl ⟨hgoing, not_and_not_right.mp hfull⟩)

theorem crossed_ends : crossedActions.count .turn ≤ 13 :=
  (removal_ends (by decide : (crossedQueue.map EventPacket.address).Nodup)
    (by decide : Run.Along (step 5) Enabled (start crossedQueue) crossedActions)).1

/-! ## The task alone -/

end ClearRun

end Ph5Firmware
