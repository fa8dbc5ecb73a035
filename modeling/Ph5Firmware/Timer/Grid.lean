import Ph5Firmware.Timer.Uptime

/-!
# The grid of a strict timer

A timer started in strict mode with period `P` should fire at the instants `start + k * P`:
the first `handle` at or after such an instant should fire, and without any request exactly
as many firings as instants should have happened.

The trigger time moves on by `P` at every firing, so after `n` firings it is the instant
`n + 1`.  A request that is served between two instants counts as a firing, and the next
instant is passed over.

* `Counts`: what ties the number of firings to the instants reached, on runs where every
  instant has been served so far.
* `serves_of_onGrid`, `onGrid_of_serves`: one call.
* `grid_served`: whole runs.  The clock does not wrap; the second part needs that the
  schedule does not either.
-/

namespace Ph5Firmware

/-- The calls a strict timer gets.  Its period is not changed. -/
inductive GridCall where
  | handle (time : ℕ)
  | forceTrigger
  deriving DecidableEq

/-- A timer, when it was started and with which period, how often it has fired, when
`handle` was called last, whether it was ever forced, and whether a `handle` has found a
request without a new instant. -/
structure GridRun where
  timer : IntervalTimer
  start : ℕ
  periodMs : UInt32
  firings : ℕ
  lastHandle : ℕ
  forced : Bool
  offGrid : Bool
  deriving DecidableEq

namespace GridRun

/-- A timer started in strict mode.  A request made before the start is still pending. -/
def started (timer : IntervalTimer) (start : ℕ) (periodMs : UInt32) : GridRun :=
  { timer := timer.start (millis start) periodMs true
    start := start
    periodMs := periodMs
    firings := 0
    lastHandle := start
    forced := timer.forceTrigger_
    offGrid := false }

/-- The instants of the grid up to a time: `floor((time - start) / P)`. -/
def instants (run : GridRun) (time : ℕ) : ℕ :=
  (time - run.start) / run.periodMs.toNat

/-- A call of `handle` is the first one at or after an instant. -/
def NewInstant (run : GridRun) (time : ℕ) : Prop :=
  run.instants run.lastHandle < run.instants time

instance (run : GridRun) (time : ℕ) : Decidable (run.NewInstant time) := by
  unfold NewInstant
  infer_instance

def step (run : GridRun) : GridCall → GridRun
  | .handle time =>
      { run with
        timer := (run.timer.handle (millis time)).1
        firings := run.firings + if (run.timer.handle (millis time)).2 then 1 else 0
        lastHandle := time
        offGrid := run.offGrid || (run.timer.forceTrigger_ && !decide (run.NewInstant time)) }
  | .forceTrigger => { run with timer := run.timer.forceTrigger, forced := true }

/-- Time does not go back, `handle` is called at least once in a period, and the clock does
not wrap. -/
def Allowed (run : GridRun) : GridCall → Prop
  | .handle time =>
      run.lastHandle ≤ time ∧ time ≤ run.lastHandle + run.periodMs.toNat ∧ time < clockWidth
  | .forceTrigger => True

/-- The first `handle` at or after an instant fires, and as long as the timer was not
forced, it has fired once for every instant. -/
def Serves (run : GridRun) : GridCall → Prop
  | .handle time =>
      (run.NewInstant time → (run.timer.handle (millis time)).2 = true) ∧
        (run.forced = false → (run.step (.handle time)).firings = run.instants time)
  | .forceTrigger => True

/-- At a new instant a request is pending, or no earlier one was served off the grid; and
as long as the timer was not forced, the next instant comes before the clock wraps. -/
def OnGrid (run : GridRun) : GridCall → Prop
  | .handle time =>
      (run.NewInstant time → run.timer.forceTrigger_ = true ∨ run.offGrid = false) ∧
        (run.forced = false →
          run.start + (run.instants run.lastHandle + 1) * run.periodMs.toNat < clockWidth)
  | .forceTrigger => True

/-- The trigger time has not wrapped. -/
def Unwrapped (run : GridRun) : GridCall → Prop
  | .handle _ => run.start + (run.firings + 1) * run.periodMs.toNat < clockWidth
  | .forceTrigger => True

instance (run : GridRun) (call : GridCall) : Decidable (run.Allowed call) := by
  cases call <;> unfold Allowed <;> infer_instance

instance (run : GridRun) (call : GridCall) : Decidable (run.Serves call) := by
  cases call <;> unfold Serves <;> infer_instance

instance (run : GridRun) (call : GridCall) : Decidable (run.OnGrid call) := by
  cases call <;> unfold OnGrid <;> infer_instance

instance (run : GridRun) (call : GridCall) : Decidable (run.Unwrapped call) := by
  cases call <;> unfold Unwrapped <;> infer_instance

/-- What holds between calls, as long as every instant has been served. -/
structure Counts (run : GridRun) : Prop where
  running : run.timer.isRunning_ = true
  strict : run.timer.isStrict_ = true
  period : run.timer.periodMs_ = run.periodMs
  positive : 0 < run.periodMs.toNat
  trigger : run.timer.triggerTime_ =
    millis (run.start + (run.firings + 1) * run.periodMs.toNat)
  begun : run.start ≤ run.lastHandle
  unforced : run.forced = false →
    run.timer.forceTrigger_ = false ∧ run.firings = run.instants run.lastHandle
  reached : run.instants run.lastHandle ≤ run.firings
  ahead : run.offGrid = true → run.instants run.lastHandle < run.firings
  /-- Off the grid only once the next instant lies behind the wrap. -/
  onGrid : run.offGrid = false → run.firings = run.instants run.lastHandle ∨
    clockWidth ≤ run.start + (run.instants run.lastHandle + 1) * run.periodMs.toNat

/-! ## Instants -/

section Instants

variable {run : GridRun} {time : ℕ}

theorem le_instants_iff (hperiod : 0 < run.periodMs.toNat) (hbegun : run.start ≤ time)
    (count : ℕ) : count ≤ run.instants time ↔ run.start + count * run.periodMs.toNat ≤ time := by
  rw [instants, Nat.le_div_iff_mul_le hperiod]
  omega

theorem instants_mono {first second : ℕ} (hle : first ≤ second) :
    run.instants first ≤ run.instants second :=
  Nat.div_le_div_right (Nat.sub_le_sub_right hle run.start)

/-- In one period at most one instant is reached. -/
theorem instants_le_succ (hperiod : 0 < run.periodMs.toNat) (hbegun : run.start ≤ run.lastHandle)
    (hafter : run.lastHandle ≤ time) (hsoon : time ≤ run.lastHandle + run.periodMs.toNat) :
    run.instants time ≤ run.instants run.lastHandle + 1 := by
  by_contra hfar
  have htwo : run.instants run.lastHandle + 1 + 1 ≤ run.instants time := Nat.lt_of_not_le hfar
  rw [le_instants_iff hperiod (Nat.le_trans hbegun hafter), Nat.succ_mul] at htwo
  have hone : run.instants run.lastHandle + 1 ≤ run.instants run.lastHandle := by
    rw [le_instants_iff hperiod hbegun]
    omega
  exact Nat.not_succ_le_self _ hone

theorem instants_of_new (hperiod : 0 < run.periodMs.toNat) (hbegun : run.start ≤ run.lastHandle)
    (hallowed : run.Allowed (.handle time)) (hnew : run.NewInstant time) :
    run.instants time = run.instants run.lastHandle + 1 :=
  Nat.le_antisymm (instants_le_succ hperiod hbegun hallowed.1 hallowed.2.1) hnew

theorem instants_of_not_new (hallowed : run.Allowed (.handle time))
    (hold : ¬ run.NewInstant time) : run.instants time = run.instants run.lastHandle :=
  Nat.le_antisymm (Nat.le_of_not_lt hold) (instants_mono hallowed.1)

/-- A new instant comes before the clock wraps. -/
theorem next_lt_of_new (hperiod : 0 < run.periodMs.toNat) (hbegun : run.start ≤ run.lastHandle)
    (hallowed : run.Allowed (.handle time)) (hnew : run.NewInstant time) :
    run.start + (run.instants run.lastHandle + 1) * run.periodMs.toNat ≤ time ∧
      time < clockWidth := by
  obtain ⟨hafter, -, htime⟩ := hallowed
  exact ⟨(le_instants_iff hperiod (Nat.le_trans hbegun hafter) _).mp hnew, htime⟩

end Instants

/-! ## One call -/

section Call

variable {run : GridRun} {time : ℕ}

theorem Counts.fires_iff (hcounts : run.Counts) (htime : time < clockWidth) :
    (run.timer.handle (millis time)).2 = true ↔
      run.timer.forceTrigger_ = true ∨
        (run.start + (run.firings + 1) * run.periodMs.toNat) % 2 ^ 32 ≤ time := by
  rw [IntervalTimer.handle_snd, hcounts.running, Bool.true_and, IntervalTimer.due_iff,
    hcounts.trigger, millis_le_millis htime]

/-- With a trigger time that has not wrapped, the timer fires when it is forced or when more
instants were reached than it has fired. -/
theorem Counts.fires_iff_of_unwrapped (hcounts : run.Counts)
    (hallowed : run.Allowed (.handle time))
    (hunwrapped : run.start + (run.firings + 1) * run.periodMs.toNat < clockWidth) :
    (run.timer.handle (millis time)).2 = true ↔
      run.timer.forceTrigger_ = true ∨ run.firings < run.instants time := by
  obtain ⟨hafter, -, htime⟩ := hallowed
  have hbegun : run.start ≤ time := Nat.le_trans hcounts.begun hafter
  rw [hcounts.fires_iff htime, Nat.mod_eq_of_lt hunwrapped,
    ← le_instants_iff hcounts.positive hbegun]
  exact Iff.rfl

/-- Between two instants nothing happens, unless a request is pending. -/
theorem Counts.quiet_of_not_new (hcounts : run.Counts) (hallowed : run.Allowed (.handle time))
    (hquiet : run.timer.forceTrigger_ = false)
    (hequal : run.firings = run.instants run.lastHandle)
    (hunwrapped : run.start + (run.firings + 1) * run.periodMs.toNat < clockWidth)
    (hold : ¬ run.NewInstant time) : (run.timer.handle (millis time)).2 = false := by
  rw [← Bool.not_eq_true, hcounts.fires_iff_of_unwrapped hallowed hunwrapped, hquiet,
    instants_of_not_new hallowed hold]
  rintro (hset | hbehind)
  · exact Bool.false_ne_true hset
  · omega

theorem firings_of_fired (hfired : (run.timer.handle (millis time)).2 = true) :
    (run.step (.handle time)).firings = run.firings + 1 := by
  simp only [step]
  rw [if_pos hfired]

theorem firings_of_quiet (hquiet : (run.timer.handle (millis time)).2 = false) :
    (run.step (.handle time)).firings = run.firings := by
  simp only [step]
  rw [hquiet]
  rfl

theorem firings_le (run : GridRun) (time : ℕ) :
    run.firings ≤ (run.step (.handle time)).firings :=
  Nat.le_add_right _ _

theorem serves_of_onGrid (hcounts : run.Counts) (hallowed : run.Allowed (.handle time))
    (honGrid : run.OnGrid (.handle time)) : run.Serves (.handle time) := by
  obtain ⟨hrequest, hnext⟩ := honGrid
  constructor
  · intro hnew
    rcases hrequest hnew with hpending | hnone
    · exact (hcounts.fires_iff hallowed.2.2).mpr (.inl hpending)
    · -- a new instant lies before the wrap, so the trigger time is this instant
      obtain ⟨hinstant, htime⟩ := next_lt_of_new hcounts.positive hcounts.begun hallowed hnew
      rcases hcounts.onGrid hnone with hequal | hwrapped
      · rw [← hequal] at hinstant
        rw [hcounts.fires_iff_of_unwrapped hallowed (Nat.lt_of_le_of_lt hinstant htime),
          hequal]
        exact .inr hnew
      · omega
  · intro hforced
    obtain ⟨hquiet, hequal⟩ := hcounts.unforced hforced
    have hunwrapped := hnext hforced
    rw [← hequal] at hunwrapped
    by_cases hnew : run.NewInstant time
    · have hreached := instants_of_new hcounts.positive hcounts.begun hallowed hnew
      have hfired : (run.timer.handle (millis time)).2 = true := by
        rw [hcounts.fires_iff_of_unwrapped hallowed hunwrapped]
        right
        omega
      rw [firings_of_fired hfired, hreached, hequal]
    · rw [firings_of_quiet (hcounts.quiet_of_not_new hallowed hquiet hequal hunwrapped hnew),
        instants_of_not_new hallowed hnew, hequal]

/-- Without a wrap, a timer that has served a request off the grid misses the next
instant. -/
theorem onGrid_of_serves (hcounts : run.Counts)
    (hallowed : run.Allowed (.handle time)) (hunwrapped : run.Unwrapped (.handle time))
    (hserves : run.Serves (.handle time)) : run.OnGrid (.handle time) := by
  constructor
  · intro hnew
    by_cases hpending : run.timer.forceTrigger_ = true
    · exact .inl hpending
    · right
      -- the trigger time would be a later instant
      by_contra hoff
      have hahead := hcounts.ahead (eq_true_of_ne_false hoff)
      have hreached := instants_of_new hcounts.positive hcounts.begun hallowed hnew
      have hfired := hserves.1 hnew
      rw [hcounts.fires_iff_of_unwrapped hallowed hunwrapped] at hfired
      have hbehind := hfired.resolve_left hpending
      omega
  · intro hforced
    rw [← (hcounts.unforced hforced).2]
    exact hunwrapped

/-- A firing moves the trigger time on by one period. -/
theorem Counts.trigger_handle (hcounts : run.Counts) (time : ℕ) :
    (run.step (.handle time)).timer.triggerTime_ =
      millis (run.start + ((run.step (.handle time)).firings + 1) * run.periodMs.toNat) := by
  simp only [step]
  rw [IntervalTimer.handle_fst]
  by_cases hfired : (run.timer.handle (millis time)).2 = true
  · have hnext : run.start + (run.firings + 1 + 1) * run.periodMs.toNat =
        run.start + (run.firings + 1) * run.periodMs.toNat + run.periodMs.toNat := by
      rw [Nat.succ_mul (run.firings + 1), Nat.add_assoc]
    rw [if_pos hfired, if_pos hfired, hnext, ← millis_add, ← hcounts.trigger, ← hcounts.period]
    simp only [IntervalTimer.fire, hcounts.strict, if_true]
  · rw [if_neg hfired, if_neg hfired]
    exact hcounts.trigger

/-- A call that serves a new instant counts it. -/
theorem Counts.served (hcounts : run.Counts) (hallowed : run.Allowed (.handle time))
    (hserves : run.Serves (.handle time)) (hnew : run.NewInstant time) :
    (run.step (.handle time)).firings = run.firings + 1 ∧
      run.instants time = run.instants run.lastHandle + 1 :=
  ⟨firings_of_fired (hserves.1 hnew),
    instants_of_new hcounts.positive hcounts.begun hallowed hnew⟩

theorem Counts.reached_handle (hcounts : run.Counts) (hallowed : run.Allowed (.handle time))
    (hserves : run.Serves (.handle time)) :
    run.instants time ≤ (run.step (.handle time)).firings := by
  have hcounted := hcounts.reached
  by_cases hnew : run.NewInstant time
  · obtain ⟨hfirings, hinstants⟩ := hcounts.served hallowed hserves hnew
    omega
  · have hinstants := instants_of_not_new hallowed hnew
    have hfirings := firings_le run time
    omega

theorem Counts.ahead_handle (hcounts : run.Counts) (hallowed : run.Allowed (.handle time))
    (hserves : run.Serves (.handle time)) (hoff : (run.step (.handle time)).offGrid = true) :
    run.instants time < (run.step (.handle time)).firings := by
  simp only [step, Bool.or_eq_true, Bool.and_eq_true, Bool.not_eq_true', decide_eq_false_iff_not]
    at hoff
  have hcounted := hcounts.reached
  by_cases hnew : run.NewInstant time
  · have hahead := hcounts.ahead (hoff.resolve_right fun hserved => hserved.2 hnew)
    obtain ⟨hfirings, hinstants⟩ := hcounts.served hallowed hserves hnew
    omega
  · have hinstants := instants_of_not_new hallowed hnew
    rcases hoff with hbefore | ⟨hpending, -⟩
    · have hahead := hcounts.ahead hbefore
      have hfirings := firings_le run time
      omega
    · -- this request is the one that is served off the grid
      have hfirings := firings_of_fired ((hcounts.fires_iff hallowed.2.2).mpr (.inl hpending))
      omega

theorem Counts.onGrid_handle (hcounts : run.Counts) (hallowed : run.Allowed (.handle time))
    (hserves : run.Serves (.handle time)) (hon : (run.step (.handle time)).offGrid = false) :
    (run.step (.handle time)).firings = run.instants time ∨
      clockWidth ≤ run.start + (run.instants time + 1) * run.periodMs.toNat := by
  simp only [step, Bool.or_eq_false_iff, Bool.and_eq_false_iff, Bool.not_eq_false',
    decide_eq_true_eq] at hon
  obtain ⟨hbefore, hquiet⟩ := hon
  by_cases hnew : run.NewInstant time
  · obtain ⟨hfirings, hinstants⟩ := hcounts.served hallowed hserves hnew
    obtain ⟨hinstant, htime⟩ := next_lt_of_new hcounts.positive hcounts.begun hallowed hnew
    rcases hcounts.onGrid hbefore with hequal | hwrapped
    · left
      rw [hfirings, hinstants, hequal]
    · omega
  · rw [instants_of_not_new hallowed hnew]
    rcases hcounts.onGrid hbefore with hequal | hwrapped
    · by_cases hunwrapped : run.start + (run.firings + 1) * run.periodMs.toNat < clockWidth
      · left
        rw [firings_of_quiet
          (hcounts.quiet_of_not_new hallowed (hquiet.resolve_right hnew) hequal hunwrapped hnew)]
        exact hequal
      · right
        rw [← hequal]
        exact Nat.le_of_not_lt hunwrapped
    · exact .inr hwrapped

/-- A timer that serves its instants goes on counting them. -/
theorem Counts.handle (hcounts : run.Counts)
    (hallowed : run.Allowed (.handle time)) (hserves : run.Serves (.handle time)) :
    (run.step (.handle time)).Counts where
  running := (IntervalTimer.handle_isRunning_ _ _).trans hcounts.running
  strict := (IntervalTimer.handle_isStrict_ _ _).trans hcounts.strict
  period := (IntervalTimer.handle_periodMs_ _ _).trans hcounts.period
  positive := hcounts.positive
  trigger := hcounts.trigger_handle time
  begun := Nat.le_trans hcounts.begun hallowed.1
  unforced hforced :=
    ⟨IntervalTimer.handle_forceTrigger_ hcounts.running (millis time), hserves.2 hforced⟩
  reached := hcounts.reached_handle hallowed hserves
  ahead := hcounts.ahead_handle hallowed hserves
  onGrid := hcounts.onGrid_handle hallowed hserves

end Call

/-! ## Runs -/

theorem started_counts (timer : IntervalTimer) (start : ℕ) {periodMs : UInt32}
    (hperiod : 0 < periodMs) : (started timer start periodMs).Counts where
  running := rfl
  strict := rfl
  period := rfl
  positive := UInt32.lt_iff_toNat_lt.mp hperiod
  trigger := by
    rw [started, Nat.zero_add, Nat.one_mul]
    exact millis_add start periodMs
  begun := Nat.le_refl start
  unforced hforced := ⟨hforced, by simp [started, instants]⟩
  reached := by simp [started, instants]
  ahead hoff := absurd hoff Bool.false_ne_true
  onGrid _ := .inl (by simp [started, instants])

theorem Counts.serves {run : GridRun} {call : GridCall} (hcounts : run.Counts)
    (hallowed : run.Allowed call) (honGrid : run.OnGrid call) : run.Serves call := by
  cases call with
  | handle time => exact serves_of_onGrid hcounts hallowed honGrid
  | forceTrigger => trivial

theorem Counts.step {run : GridRun} {call : GridCall} (hcounts : run.Counts)
    (hallowed : run.Allowed call) (hserves : run.Serves call) :
    (run.step call).Counts := by
  cases call with
  | handle time => exact hcounts.handle hallowed hserves
  | forceTrigger =>
      exact { hcounts with unforced := fun hforced => absurd hforced.symm Bool.false_ne_true }

/-- **The grid of a strict timer.** Along a run every instant is served, and without requests
the timer fires once for every instant, if every call is on the grid.  As long as the
schedule does not wrap, this is also necessary. -/
theorem grid_served (timer : IntervalTimer) (start : ℕ) {periodMs : UInt32}
    (hperiod : 0 < periodMs) {calls : List GridCall}
    (hallowed : Run.Along step Allowed (started timer start periodMs) calls) :
    (Run.Along step OnGrid (started timer start periodMs) calls →
        Run.Along step Serves (started timer start periodMs) calls) ∧
      (Run.Along step Unwrapped (started timer start periodMs) calls →
        Run.Along step Serves (started timer start periodMs) calls →
          Run.Along step OnGrid (started timer start periodMs) calls) := by
  have hinitial := started_counts timer start hperiod
  constructor
  · refine Run.along_imp ?_ ?_ hinitial hallowed
    · intro run call hcounts hok honGrid
      exact hcounts.serves hok honGrid
    · intro run call hcounts hok honGrid
      exact hcounts.step hok (hcounts.serves hok honGrid)
  · intro hunwrapped
    refine Run.along_imp ?_ ?_ hinitial (Run.along_and hallowed hunwrapped)
    · intro run call hcounts hok hserves
      cases call with
      | handle time => exact onGrid_of_serves hcounts hok.1 hok.2 hserves
      | forceTrigger => trivial
    · intro run call hcounts hok hserves
      exact hcounts.step hok.1 hserves

/-- A request that is served at an instant, and a late call. -/
def onTime : List GridCall :=
  [.handle 60, .handle 100, .handle 190, .forceTrigger, .handle 230, .handle 320]

/-- A request that is served between two instants. -/
def between : List GridCall :=
  [.handle 40, .forceTrigger, .handle 50, .handle 100, .handle 200]

theorem grid_served_early :
    Run.Along step Serves (started .fresh 0 100) onTime :=
  (grid_served .fresh 0 (by decide) (by decide)).1 (by decide)

/-- The instant 100 is not served, after a forced firing at 50. -/
theorem grid_not_served :
    Run.Along step Allowed (started .fresh 0 100) between ∧
      ¬ Run.Along step Serves (started .fresh 0 100) between := by
  refine ⟨by decide, by decide⟩

end GridRun

end Ph5Firmware
