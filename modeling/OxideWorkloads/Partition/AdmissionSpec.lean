/-
What holds in every state of a launch, whatever the interleaving.

Slots below the target are given out once each, so the barrier opens at most
once, and nobody is past the gate before.  When it opens, as many tasks as it
holds are counted and have entered; so the peak is at least the target then.
-/

import OxideWorkloads.Partition.OccupancySpec

namespace Partition

open Foundation

variable {workers : Nat} {state next : LaunchState} {position : Nat}
  {task : Task}

/-! ### The gate -/

/-- A task whose slot is below the target. -/
def Task.early (workers : Nat) (task : Task) : Bool :=
  task.hasSlot ∧ task.slot < workers

/-- A task that the barrier has released. -/
def Task.released (workers : Nat) (task : Task) : Bool :=
  task.passed ∧ task.slot < workers

/-- The gate agrees with the tasks.  Either the barrier has not opened yet, or
it has released all tasks it will ever hold. -/
structure Gated (workers : Nat) (state : LaunchState) : Prop where
  slots : state.count Task.hasSlot = state.gate.nextSlot
  below : ∀ task ∈ state.tasks, task.hasSlot = true →
    task.slot < state.gate.nextSlot
  early : state.count (Task.early workers) = min state.gate.nextSlot workers
  waiters : state.gate.waiters = state.count Task.isWaiting
  held : ∀ task ∈ state.tasks,
    task.stage = .announced ∨ task.stage = .waiting → task.slot < workers
  opened : (state.count (Task.released workers) = 0 ∧
      state.count Task.isWaiting < workers) ∨
    (state.count (Task.released workers) = workers ∧
      state.count Task.isWaiting = 0 ∧ workers ≤ state.occupancy.peak)

/-- Two tasks that the gate does not tell apart. -/
structure Unmoved (workers : Nat) (old new : Task) : Prop where
  hasSlot : new.hasSlot = old.hasSlot
  isWaiting : new.isWaiting = old.isWaiting
  released : new.released workers = old.released workers
  slot : new.slot = old.slot

theorem Unmoved.early {old new : Task} (unmoved : Unmoved workers old new) :
    new.early workers = old.early workers := by
  unfold Task.early
  rw [unmoved.hasSlot, unmoved.slot]

theorem Gated.put (gated : Gated workers state)
    (found : state.tasks[position]? = some task) {changed : Task}
    (unmoved : Unmoved workers task changed)
    (held : changed.stage = .announced ∨ changed.stage = .waiting →
      changed.slot < workers) :
    Gated workers (state.put position changed) := by
  have member := List.mem_of_getElem? found
  constructor
  · rw [count_put_of_eq found unmoved.hasSlot]
    exact gated.slots
  · apply Roster.forall_set gated.below
    intro slotted
    rw [unmoved.hasSlot] at slotted
    rw [unmoved.slot]
    exact gated.below task member slotted
  · rw [count_put_of_eq found unmoved.early]
    exact gated.early
  · rw [count_put_of_eq found unmoved.isWaiting]
    exact gated.waiters
  · exact Roster.forall_set gated.held held
  · rw [count_put_of_eq found unmoved.released,
      count_put_of_eq found unmoved.isWaiting]
    exact gated.opened

/-- The counters matter to the gate by the peak alone, and the arrivals do not
matter. -/
theorem Gated.counters (gated : Gated workers state)
    (tasks : next.tasks = state.tasks)
    (nextSlot : next.gate.nextSlot = state.gate.nextSlot)
    (waiters : next.gate.waiters = state.gate.waiters)
    (higher : state.occupancy.peak ≤ next.occupancy.peak) :
    Gated workers next := by
  have count : ∀ counted, next.count counted = state.count counted := by
    intro counted
    unfold LaunchState.count
    rw [tasks]
  constructor
  · rw [count, nextSlot]
    exact gated.slots
  · rw [tasks, nextSlot]
    exact gated.below
  · rw [count, nextSlot]
    exact gated.early
  · rw [count, waiters]
    exact gated.waiters
  · rw [tasks]
    exact gated.held
  · rw [count, count]
    rcases gated.opened with closed | opened
    · exact Or.inl closed
    · exact Or.inr ⟨opened.1, opened.2.1, le_trans opened.2.2 higher⟩

theorem Gated.takeSlot (gated : Gated workers state)
    (found : state.tasks[position]? = some task)
    (stage : task.stage = .entered) :
    Gated workers
      { state.put position
          { task with stage := .slotted, slot := state.gate.nextSlot } with
        gate := { state.gate with nextSlot := state.gate.nextSlot + 1 } } := by
  have without : task.hasSlot = false := by
    simp [Task.hasSlot, stage]
  constructor
  · have balance := count_put found
      { task with stage := .slotted, slot := state.gate.nextSlot } Task.hasSlot
    have gained : Task.hasSlot
        { task with stage := .slotted, slot := state.gate.nextSlot } = true :=
      rfl
    rw [without, gained, Bool.toNat_true, Bool.toNat_false] at balance
    have slots := gated.slots
    change (state.put position _).count Task.hasSlot = state.gate.nextSlot + 1
    omega
  · apply Roster.forall_set
    · intro other member slotted
      have below := gated.below other member slotted
      change other.slot < state.gate.nextSlot + 1
      omega
    · intro _
      exact Nat.lt_succ_self _
  · have balance := count_put found
      { task with stage := .slotted, slot := state.gate.nextSlot }
      (Task.early workers)
    have late : task.early workers = false := by
      simp [Task.early, without]
    have early := gated.early
    change (state.put position _).count (Task.early workers) =
      min (state.gate.nextSlot + 1) workers
    by_cases room : state.gate.nextSlot < workers
    · have gained : Task.early workers
          { task with stage := .slotted, slot := state.gate.nextSlot } =
            true := by
        simp [Task.early, Task.hasSlot, Task.hasEntered, room]
      rw [late, gained, Bool.toNat_true, Bool.toNat_false] at balance
      omega
    · have beyond : Task.early workers
          { task with stage := .slotted, slot := state.gate.nextSlot } =
            false := by
        simp [Task.early, room]
      rw [late, beyond, Bool.toNat_false] at balance
      omega
  · have same : Task.isWaiting
        { task with stage := .slotted, slot := state.gate.nextSlot } =
          task.isWaiting := by
      simp [Task.isWaiting, stage]
    exact gated.waiters.trans (count_put_of_eq found same).symm
  · apply Roster.forall_set gated.held
    intro inside
    rcases inside with announced | waiting
    · cases announced
    · cases waiting
  · have same : Task.isWaiting
        { task with stage := .slotted, slot := state.gate.nextSlot } =
          task.isWaiting := by
      simp [Task.isWaiting, stage]
    have outside : Task.released workers
        { task with stage := .slotted, slot := state.gate.nextSlot } =
          task.released workers := by
      simp [Task.released, Task.passed, stage]
    have opened := gated.opened
    rw [← count_put_of_eq found same, ← count_put_of_eq found outside] at opened
    exact opened

theorem hasSlot_of_passed (passed : task.passed = true) :
    task.hasSlot = true := by
  simp only [Task.passed, Bool.decide_or, Bool.or_eq_true,
    decide_eq_true_eq] at passed
  rcases passed with admitted | leaving | finished
  · simp [Task.hasSlot, Task.hasEntered, admitted]
  · simp [Task.hasSlot, Task.hasEntered, leaving]
  · simp [Task.hasSlot, Task.hasEntered, finished]

/-- While a task is on its way to the barrier, the barrier has not opened. -/
theorem Gated.closed (gated : Gated workers state) (member : task ∈ state.tasks)
    (stage : task.stage = .announced ∨ task.stage = .waiting) :
    state.count (Task.released workers) = 0 ∧
      state.count Task.isWaiting < workers := by
  rcases gated.opened with closed | opened
  · exact closed
  · exfalso
    have slot := gated.held task member stage
    have outside : 1 ≤ state.tasks.countP
        (fun task => task.early workers && !task.passed) := by
      apply List.countP_pos_iff.mpr
      refine ⟨task, member, ?_⟩
      rcases stage with announced | waiting
      · simp [Task.early, Task.hasSlot, Task.hasEntered, Task.passed,
          announced, slot]
      · simp [Task.early, Task.hasSlot, Task.hasEntered, Task.passed,
          waiting, slot]
    have inside : state.tasks.countP (Task.released workers) +
        state.tasks.countP (fun task => task.early workers && !task.passed) ≤
          state.tasks.countP (Task.early workers) := by
      apply Roster.countP_add_le
      · intro other _ released
        simp only [Task.released, Bool.decide_and, Bool.and_eq_true,
          decide_eq_true_eq] at released
        simp only [Task.early, Bool.decide_and, Bool.and_eq_true,
          decide_eq_true_eq]
        exact ⟨hasSlot_of_passed released.1, released.2⟩
      · intro other _ both
        exact (Bool.and_eq_true_iff.mp both).1
      · intro other _ released
        simp only [Task.released, Bool.decide_and, Bool.and_eq_true,
          decide_eq_true_eq] at released
        rw [released.1]
        exact Bool.and_false _
    have early := gated.early
    have all := opened.1
    unfold LaunchState.count at early all
    omega

theorem release_unmoved (task : Task) :
    task.release.hasSlot = task.hasSlot ∧ task.release.slot = task.slot ∧
      task.release.isWaiting = false := by
  unfold Task.release
  split
  · rename_i waiting
    have stage : task.stage = .waiting := of_decide_eq_true waiting
    refine ⟨?_, rfl, rfl⟩
    simp [Task.hasSlot, Task.hasEntered, stage]
  · rename_i still
    exact ⟨rfl, rfl, Bool.eq_false_iff.mpr still⟩

theorem release_stage
    (stage : task.release.stage = .announced ∨
      task.release.stage = .waiting) :
    task.stage = .announced ∨ task.stage = .waiting := by
  by_cases waiting : task.isWaiting = true
  · exact Or.inr (of_decide_eq_true waiting)
  · unfold Task.release at stage
    rw [if_neg waiting] at stage
    exact stage

/-- The barrier opens: the tasks that wait are all it has released. -/
theorem release_released
    (closed : state.count (Task.released workers) = 0)
    (held : ∀ task ∈ state.tasks,
      task.stage = .announced ∨ task.stage = .waiting → task.slot < workers) :
    (state.tasks.map Task.release).countP (Task.released workers) =
      state.count Task.isWaiting := by
  rw [List.countP_map]
  apply List.countP_congr
  intro task member
  rw [Function.comp_apply]
  by_cases waiting : task.isWaiting = true
  · have stage : task.stage = .waiting := of_decide_eq_true waiting
    have slot := held task member (Or.inr stage)
    simp [Task.release, Task.released, Task.passed, waiting, slot]
  · have not_released := List.countP_eq_zero.mp closed task member
    unfold Task.release
    rw [if_neg waiting]
    constructor
    · intro released
      exact absurd released not_released
    · intro waits
      exact absurd waits waiting

/-- The gate while the barrier has not opened, whatever it counts. -/
structure Filling (workers : Nat) (state : LaunchState) : Prop where
  slots : state.count Task.hasSlot = state.gate.nextSlot
  below : ∀ task ∈ state.tasks, task.hasSlot = true →
    task.slot < state.gate.nextSlot
  early : state.count (Task.early workers) = min state.gate.nextSlot workers
  held : ∀ task ∈ state.tasks,
    task.stage = .announced ∨ task.stage = .waiting → task.slot < workers
  shut : state.count (Task.released workers) = 0

theorem Gated.waits (gated : Gated workers state)
    (found : state.tasks[position]? = some task)
    (stage : task.stage = .announced) :
    Filling workers (state.put position { task with stage := .waiting }) := by
  have member := List.mem_of_getElem? found
  have slotted : Task.hasSlot { task with stage := .waiting } =
      task.hasSlot := by
    simp [Task.hasSlot, Task.hasEntered, stage]
  constructor
  · exact (count_put_of_eq found slotted).trans gated.slots
  · apply Roster.forall_set gated.below
    intro slottedNow
    rw [slotted] at slottedNow
    exact gated.below task member slottedNow
  · have same : Task.early workers { task with stage := .waiting } =
        task.early workers := by
      unfold Task.early
      rw [slotted]
    exact (count_put_of_eq found same).trans gated.early
  · apply Roster.forall_set gated.held
    intro _
    exact gated.held task member (Or.inl stage)
  · have same : Task.released workers { task with stage := .waiting } =
        task.released workers := by
      simp [Task.released, Task.passed, stage]
    have closed := gated.closed member (Or.inl stage)
    exact (count_put_of_eq found same).trans closed.1

/-- As many wait as the barrier holds: they are counted and have entered. -/
theorem Filling.opens (filling : Filling workers state)
    (occupied : Occupied workers state)
    (full : state.count Task.isWaiting = workers) :
    Gated workers
      { state with
        tasks := state.tasks.map Task.release
        gate := { state.gate with waiters := 0 } } := by
  have unmoved := release_unmoved
  constructor
  · exact (count_release (fun task => (unmoved task).1) _).trans filling.slots
  · intro released member slotted
    obtain ⟨task, inTasks, same⟩ := List.mem_map.mp member
    rw [← same, (unmoved task).1] at slotted
    rw [← same, (unmoved task).2.1]
    exact filling.below task inTasks slotted
  · have early : ∀ task : Task,
        task.release.early workers = task.early workers := by
      intro task
      unfold Task.early
      rw [(unmoved task).1, (unmoved task).2.1]
    exact (count_release early _).trans filling.early
  · apply Eq.symm
    apply List.countP_eq_zero.mpr
    intro released member waits
    obtain ⟨task, _, same⟩ := List.mem_map.mp member
    rw [← same, (unmoved task).2.2] at waits
    cases waits
  · intro released member stage
    obtain ⟨task, inTasks, same⟩ := List.mem_map.mp member
    rw [← same] at stage
    rw [← same, (unmoved task).2.1]
    apply filling.held task inTasks
    exact release_stage stage
  · refine Or.inr ⟨?_, ?_, ?_⟩
    · exact (release_released filling.shut filling.held).trans full
    · apply List.countP_eq_zero.mpr
      intro released member waits
      obtain ⟨task, _, same⟩ := List.mem_map.mp member
      rw [← same, (unmoved task).2.2] at waits
      cases waits
    · have waiting : state.count Task.isWaiting ≤
          state.count Task.recorded := by
        apply List.countP_mono_left
        intro task _ waits
        apply (recorded_iff task).mpr
        rw [of_decide_eq_true waits]
        decide
      have recorded := occupied.recorded_le
      change (workers : Int) ≤ state.occupancy.peak
      omega

theorem Filling.stays (filling : Filling workers state)
    (short : state.count Task.isWaiting < workers) :
    Gated workers
      { state with
        gate := { state.gate with
          waiters := state.count Task.isWaiting } } :=
  ⟨filling.slots, filling.below, filling.early, rfl, filling.held,
    Or.inl ⟨filling.shut, short⟩⟩

theorem Gated.arrive (gated : Gated workers state)
    (occupied : Occupied workers state)
    (found : state.tasks[position]? = some task)
    (stage : task.stage = .announced) :
    Gated workers (state.arrive workers position task) := by
  have member := List.mem_of_getElem? found
  have slot := gated.held task member (Or.inl stage)
  have closed := gated.closed member (Or.inl stage)
  have filling := gated.waits found stage
  have waiters := gated.waiters
  have waiting : (state.put position { task with stage := .waiting }).count
      Task.isWaiting = state.gate.waiters + 1 := by
    have balance := count_put found { task with stage := .waiting }
      Task.isWaiting
    have before : task.isWaiting = false := by
      simp [Task.isWaiting, stage]
    have after : Task.isWaiting { task with stage := .waiting } = true := rfl
    rw [before, after, Bool.toNat_true, Bool.toNat_false] at balance
    omega
  unfold LaunchState.arrive
  dsimp only
  split
  · rename_i full
    have counted := occupied.waits found stage
    apply filling.opens counted
    omega
  · rename_i short
    rw [← waiting]
    apply filling.stays
    omega

theorem Gated.move (gated : Gated workers state)
    (occupied : Occupied workers state)
    (found : state.tasks[position]? = some task) {action : Action}
    (inTime : action ≠ .timeout)
    (move : Move workers state position task action next) :
    Gated workers next := by
  have member := List.mem_of_getElem? found
  cases move with
  | start stage free =>
      apply gated.put found
      · constructor <;>
          simp [Task.hasSlot, Task.hasEntered, Task.isWaiting, Task.released,
            Task.passed, stage]
      · simp
  | increment stage =>
      have put : Gated workers (state.put position
          { task with
            stage := .counted
            observed := state.occupancy.active + 1 }) := by
        apply gated.put found
        · constructor <;>
            simp [Task.hasSlot, Task.hasEntered, Task.isWaiting,
              Task.released, Task.passed, stage]
        · simp
      exact put.counters rfl rfl rfl (le_refl _)
  | raise stage =>
      have put : Gated workers
          (state.put position { task with stage := .entered }) := by
        apply gated.put found
        · constructor <;>
            simp [Task.hasSlot, Task.hasEntered, Task.isWaiting,
              Task.released, Task.passed, stage]
        · simp
      exact put.counters rfl rfl rfl (le_max_left _ _)
  | takeSlot stage => exact gated.takeSlot found stage
  | pass stage beyond =>
      apply gated.put found
      · constructor <;>
          simp [Task.hasSlot, Task.hasEntered, Task.isWaiting, Task.released,
            Task.passed, stage, beyond]
      · simp
  | announce stage early =>
      have put : Gated workers
          (state.put position { task with stage := .announced }) := by
        apply gated.put found
        · constructor <;>
            simp [Task.hasSlot, Task.hasEntered, Task.isWaiting,
              Task.released, Task.passed, stage]
        · intro _
          exact early
      exact put.counters rfl rfl rfl (le_refl _)
  | wait stage => exact gated.arrive occupied found stage
  | timeout stage => exact absurd rfl inTime
  | finish stage =>
      apply gated.put found
      · constructor <;>
          simp [Task.hasSlot, Task.hasEntered, Task.isWaiting, Task.released,
            Task.passed, stage]
      · simp
  | leave stage =>
      have put : Gated workers
          (state.put position { task with stage := .finished }) := by
        apply gated.put found
        · constructor <;>
            simp [Task.hasSlot, Task.hasEntered, Task.isWaiting,
              Task.released, Task.passed, stage]
        · simp
      exact put.counters rfl rfl rfl (le_refl _)

/-! ### Runs -/

theorem move_length {action : Action}
    (move : Move workers state position task action next) :
    next.tasks.length = state.tasks.length := by
  cases move with
  | wait stage =>
      unfold LaunchState.arrive
      dsimp only
      split
      · rw [List.length_map]
        exact List.length_set
      · exact List.length_set
  | start | increment | raise | takeSlot | pass | announce | timeout | finish
  | leave => exact List.length_set

/-- What holds of a launch of so many tasks while no admission has timed
out. -/
structure Sound (workers tasks : Nat) (state : LaunchState) : Prop where
  length : state.tasks.length = tasks
  occupied : Occupied workers state
  gated : Gated workers state

theorem sound_fresh (workers tasks : Nat) :
    Sound workers tasks (LaunchState.fresh tasks) := by
  have none_ : ∀ counted : Task → Bool, counted Task.fresh = false →
      (LaunchState.fresh tasks).count counted = 0 := by
    intro counted outside
    apply List.countP_eq_zero.mpr
    intro task member
    rw [List.eq_of_mem_replicate member, outside]
    exact Bool.false_ne_true
  have each : ∀ task ∈ (LaunchState.fresh tasks).tasks, task = Task.fresh :=
    fun task member => List.eq_of_mem_replicate member
  constructor
  · exact List.length_replicate
  · constructor
    · rw [none_ Task.present rfl]
      rfl
    · rw [none_ Task.busy rfl]
      exact Nat.zero_le _
    · intro limit positive
      rw [none_ (Task.ranked limit) (by simp [Task.ranked, Task.fresh,
        Task.present, Task.busy])]
      exact positive
    · intro task member present
      rw [each task member] at present
      cases present
    · intro task member recorded
      rw [each task member] at recorded
      cases recorded
    · exact le_refl _
    · exact Int.natCast_nonneg _
  · constructor
    · exact none_ _ rfl
    · intro task member slotted
      rw [each task member] at slotted
      cases slotted
    · rw [none_ (Task.early workers) rfl]
      exact (Nat.zero_min _).symm
    · exact (none_ _ rfl).symm
    · intro task member stage
      rw [each task member] at stage
      rcases stage with announced | waiting
      · cases announced
      · cases waiting
    · rw [none_ (Task.released workers) rfl, none_ Task.isWaiting rfl]
      rcases Nat.eq_zero_or_pos workers with zero | positive
      · exact Or.inr ⟨zero.symm, rfl, by rw [zero]; exact le_refl _⟩
      · exact Or.inl ⟨rfl, positive⟩

theorem Sound.stepped {tasks : Nat} (sound : Sound workers tasks state)
    {action : Action} (inTime : action ≠ .timeout)
    (steps : step workers state action position = some next) :
    Sound workers tasks next := by
  obtain ⟨task, found, move⟩ := step_eq_some.mp steps
  constructor
  · exact (move_length move).trans sound.length
  · exact sound.occupied.move found move
  · exact sound.gated.move sound.occupied found inTime move

theorem Sound.run {tasks : Nat} {steps : List (Action × Nat)}
    (sound : Sound workers tasks state)
    (inTime : ∀ entry ∈ steps, entry.1 ≠ .timeout)
    (runs : runSteps workers state steps = some next) :
    Sound workers tasks next := by
  induction steps generalizing state with
  | nil =>
      cases runs
      exact sound
  | cons entry rest ih =>
      obtain ⟨action, position⟩ := entry
      have parts := List.forall_mem_cons.mp inTime
      unfold runSteps at runs
      cases one : step workers state action position with
      | none =>
          rw [one] at runs
          cases runs
      | some after =>
          rw [one] at runs
          exact ih (sound.stepped parts.1 one) parts.2 runs

theorem Reachable.sound {tasks : Nat} (reachable : Reachable workers tasks state) :
    Sound workers tasks state := by
  obtain ⟨steps, inTime, runs⟩ := reachable
  exact (sound_fresh workers tasks).run inTime runs

/-! ### The peak -/

/-- Slots are taken after entering. -/
theorem slots_le_entered (state : LaunchState) :
    state.count Task.hasSlot ≤ state.count Task.hasEntered := by
  apply List.countP_mono_left
  intro task _ slotted
  simp only [Task.hasSlot, Bool.decide_and, Bool.and_eq_true,
    decide_eq_true_eq] at slotted
  exact slotted.1

theorem Gated.entered (gated : Gated workers state)
    (member : task ∈ state.tasks) (passed : task.passed = true) :
    workers ≤ state.count Task.hasEntered := by
  have slotted := hasSlot_of_passed passed
  have below := gated.below task member slotted
  have entered := slots_le_entered state
  have slots := gated.slots
  have early := gated.early
  by_cases late : workers ≤ task.slot
  · omega
  · have released : 0 < state.count (Task.released workers) := by
      apply List.countP_pos_iff.mpr
      refine ⟨task, member, ?_⟩
      simp [Task.released, passed, Nat.lt_of_not_le late]
    have inside : state.count (Task.released workers) ≤
        state.count (Task.early workers) := by
      apply List.countP_mono_left
      intro other _ out
      simp only [Task.released, Bool.decide_and, Bool.and_eq_true,
        decide_eq_true_eq] at out
      simp only [Task.early, Bool.decide_and, Bool.and_eq_true,
        decide_eq_true_eq]
      exact ⟨hasSlot_of_passed out.1, out.2⟩
    rcases gated.opened with closed | opened
    · omega
    · omega

theorem Sound.peak_of_finished {tasks : Nat}
    (sound : Sound workers tasks state) (enough : workers ≤ tasks)
    (finished : ∀ task ∈ state.tasks, task.stage = .finished) :
    state.occupancy.peak = workers := by
  have gated := sound.gated
  have slots : state.count Task.hasSlot = state.tasks.length := by
    apply List.countP_eq_length.mpr
    intro task member
    simp [Task.hasSlot, Task.hasEntered, finished task member]
  have taken := gated.slots
  have early := gated.early
  have length := sound.length
  have released : state.count (Task.early workers) ≤
      state.count (Task.released workers) := by
    apply List.countP_mono_left
    intro task member isEarly
    simp only [Task.early, Bool.decide_and, Bool.and_eq_true,
      decide_eq_true_eq] at isEarly
    simp [Task.released, Task.passed, finished task member, isEarly.2]
  have bound := sound.occupied.peak_le
  rcases gated.opened with closed | opened
  · omega
  · have reached := opened.2.2
    omega

/-- Whatever the interleaving, `active` stays within the workers, nobody passes
the gate before as many tasks have entered, and the peak is exact in the
end. -/
theorem occupancy_exact {tasks : Nat} (enough : workers ≤ tasks)
    (reachable : Reachable workers tasks state) :
    (0 ≤ state.occupancy.active ∧ state.occupancy.active ≤ workers) ∧
      ((∃ task ∈ state.tasks, task.passed = true) →
        workers ≤ state.count Task.hasEntered) ∧
      ((∀ task ∈ state.tasks, task.stage = .finished) →
        state.occupancy.peak = workers ∧ state.occupancy.active = 0) := by
  have sound := reachable.sound
  have active := sound.occupied.active
  refine ⟨?_, ?_, ?_⟩
  · have inside : state.count Task.present ≤ state.count Task.busy := by
      apply List.countP_mono_left
      intro task _ present
      simp only [Task.present, Bool.decide_and, Bool.and_eq_true,
        decide_eq_true_eq] at present
      exact present.1
    have bounded := sound.occupied.bounded
    omega
  · intro somebody
    obtain ⟨task, member, passed⟩ := somebody
    exact sound.gated.entered member passed
  · intro finished
    have absent : state.count Task.present = 0 := by
      apply List.countP_eq_zero.mpr
      intro task member
      simp [Task.present, Task.busy, finished task member]
    constructor
    · exact sound.peak_of_finished enough finished
    · omega

/-- Three tasks on two workers: the second to start takes the first slot, and
the third task passes the barrier by. -/
def threeOnTwo : List (Action × Nat) :=
  [(.start, 0), (.start, 1), (.increment, 0), (.increment, 1), (.raise, 1),
    (.takeSlot, 1), (.announce, 1), (.wait, 1), (.raise, 0), (.takeSlot, 0),
    (.announce, 0), (.wait, 0), (.finish, 0), (.leave, 0), (.start, 2),
    (.increment, 2), (.raise, 2), (.takeSlot, 2), (.pass, 2), (.finish, 2),
    (.leave, 2), (.finish, 1), (.leave, 1)]

theorem occupancy_exact_three :
    ∃ state, runSteps 2 (LaunchState.fresh 3) threeOnTwo = some state ∧
      (∀ task ∈ state.tasks, task.stage = .finished) ∧
      state.occupancy.peak = (2 : Nat) ∧ state.occupancy.active = 0 := by
  have finished : ∀ task ∈ [(⟨.finished, 1, 1⟩ : Task), ⟨.finished, 2, 0⟩,
      ⟨.finished, 2, 2⟩], task.stage = .finished := by decide
  have runs : runSteps 2 (LaunchState.fresh 3) threeOnTwo =
      some ⟨[⟨.finished, 1, 1⟩, ⟨.finished, 2, 0⟩, ⟨.finished, 2, 2⟩],
        ⟨0, 2⟩, ⟨3, 2, 0⟩⟩ := by
    decide
  refine ⟨_, runs, finished, ?_⟩
  exact (occupancy_exact (by decide : 2 ≤ 3)
    ⟨threeOnTwo, by decide, runs⟩).2.2 finished

/-! ### Starvation -/

/-- The partitions that a restart runs. -/
def remaining (partitions : UInt16) (completed : List UInt16) : List UInt16 :=
  (indices partitions).filter (fun index => index ∉ completed)

/-- Every started, unfinished task waits at the barrier, one at least, and no
further task can be started. -/
def LaunchState.Starved (workers : Nat) (state : LaunchState) : Prop :=
  (∃ task ∈ state.tasks, task.isWaiting = true) ∧
    (∀ task ∈ state.tasks, task.busy = true → task.isWaiting = true) ∧
    ∀ position, step workers state .start position = none

/-- While fewer than `workers` tasks are busy, a pending task can start. -/
theorem startable (member : task ∈ state.tasks)
    (stage : task.stage = .pending)
    (free : state.count Task.busy < workers) :
    ∃ position, step workers state .start position ≠ none := by
  obtain ⟨position, found⟩ := List.mem_iff_getElem?.mp member
  refine ⟨position, ?_⟩
  rw [step_eq_some.mpr ⟨task, found, Move.start stage free⟩]
  exact Option.some_ne_none _

theorem Sound.not_starved {tasks : Nat} (sound : Sound workers tasks state)
    (enough : workers ≤ tasks) : ¬ state.Starved workers := by
  intro starved
  obtain ⟨⟨waiting, member, waits⟩, all, stuck⟩ := starved
  have gated := sound.gated
  have closed := gated.closed member (Or.inr (of_decide_eq_true waits))
  have busy : state.count Task.busy ≤ state.count Task.isWaiting :=
    List.countP_mono_left all
  have ended : ∀ task ∈ state.tasks, task.isWaiting = false →
      task.stage = .finished := by
    intro task inTasks still
    have idle : task.busy = false := by
      apply Bool.eq_false_iff.mpr
      intro isBusy
      rw [all task inTasks isBusy] at still
      cases still
    simp only [Task.busy, Bool.decide_and, Bool.and_eq_false_iff,
      decide_eq_false_iff_not, ne_eq, Decidable.not_not] at idle
    rcases idle with pending | finished
    · exfalso
      obtain ⟨position, starts⟩ := startable inTasks pending
        (Nat.lt_of_le_of_lt busy closed.2)
      exact starts (stuck position)
    · exact finished
  have slots : state.count Task.hasSlot = state.tasks.length := by
    apply List.countP_eq_length.mpr
    intro task inTasks
    cases waits : task.isWaiting with
    | true =>
        simp [Task.hasSlot, Task.hasEntered, of_decide_eq_true waits]
    | false =>
        simp [Task.hasSlot, Task.hasEntered, ended task inTasks waits]
  have early : state.count (Task.early workers) ≤
      state.count Task.isWaiting := by
    apply List.countP_mono_left
    intro task inTasks isEarly
    by_contra still
    have finished := ended task inTasks (Bool.eq_false_iff.mpr still)
    apply List.countP_eq_zero.mp closed.1 task inTasks
    simp only [Task.early, Bool.decide_and, Bool.and_eq_true,
      decide_eq_true_eq] at isEarly
    simp [Task.released, Task.passed, finished, isEarly.2]
  have taken := gated.slots
  have allEarly := gated.early
  have length := sound.length
  omega

/-! ### Too few tasks -/

/-- A task that was the next to come and waits. -/
def parkedTask (slot : Nat) : Task :=
  { stage := .waiting, observed := slot + 1, slot }

/-- The first tasks wait; they came one after another. -/
def parked (count rest : Nat) : LaunchState :=
  { tasks := (List.range count).map parkedTask ++
      List.replicate rest Task.fresh
    occupancy := { active := count, peak := count }
    gate := { nextSlot := count, arrived := count, waiters := count } }

/-- All steps of one task, up to the barrier. -/
def parking (position : Nat) : List (Action × Nat) :=
  [(.start, position), (.increment, position), (.raise, position),
    (.takeSlot, position), (.announce, position), (.wait, position)]

/-- A launch at one of its tasks. -/
def spot (before after : List Task) (task : Task) (occupancy : Occupancy)
    (gate : AdmissionGate) : LaunchState :=
  { tasks := before ++ task :: after, occupancy, gate }

theorem spot_found (before after : List Task) (task : Task)
    (occupancy : Occupancy) (gate : AdmissionGate) :
    (spot before after task occupancy gate).tasks[before.length]? =
      some task := by
  unfold spot
  rw [List.getElem?_append_right (le_refl _), Nat.sub_self]
  rfl

theorem spot_put (before after : List Task) (task changed : Task)
    (occupancy : Occupancy) (gate : AdmissionGate) :
    (spot before after task occupancy gate).put before.length changed =
      spot before after changed occupancy gate := by
  unfold spot LaunchState.put
  rw [List.set_append_right _ _ (le_refl _), Nat.sub_self, List.set_cons_zero]

theorem runSteps_cons {action : Action} {middle : LaunchState}
    {rest : List (Action × Nat)}
    (first : step workers state action position = some middle) :
    runSteps workers state ((action, position) :: rest) =
      runSteps workers middle rest := by
  rw [runSteps, first]

section Parking

variable (before after : List Task) (active peak observed : Int)
  (slot nextSlot arrived waiters : Nat) (occupancy : Occupancy)
  (gate : AdmissionGate)

theorem spot_start
    (free : (spot before after Task.fresh occupancy gate).count Task.busy <
      workers) :
    step workers (spot before after Task.fresh occupancy gate) .start
        before.length =
      some (spot before after ⟨.started, 0, 0⟩ occupancy gate) := by
  have started := step_eq_some.mpr
    ⟨_, spot_found before after _ _ _, Move.start rfl free⟩
  rw [spot_put] at started
  exact started

theorem spot_increment :
    step workers (spot before after ⟨.started, 0, 0⟩ ⟨active, peak⟩ gate)
        .increment before.length =
      some (spot before after ⟨.counted, active + 1, 0⟩ ⟨active + 1, peak⟩
        gate) := by
  unfold step
  rw [spot_found]
  dsimp only
  rw [spot_put]
  rfl

theorem spot_raise (higher : peak ≤ observed) :
    step workers
        (spot before after ⟨.counted, observed, 0⟩ ⟨active, peak⟩ gate)
        .raise before.length =
      some (spot before after ⟨.entered, observed, 0⟩ ⟨active, observed⟩
        gate) := by
  have highest : max peak observed = observed := max_eq_right higher
  unfold step
  rw [spot_found]
  dsimp only
  rw [spot_put]
  simp only [spot, highest]

theorem spot_takeSlot :
    step workers
        (spot before after ⟨.entered, observed, 0⟩ occupancy
          ⟨nextSlot, arrived, waiters⟩)
        .takeSlot before.length =
      some (spot before after ⟨.slotted, observed, nextSlot⟩ occupancy
        ⟨nextSlot + 1, arrived, waiters⟩) := by
  unfold step
  rw [spot_found]
  dsimp only
  rw [spot_put]
  rfl

theorem spot_announce (early : slot < workers) :
    step workers
        (spot before after ⟨.slotted, observed, slot⟩ occupancy
          ⟨nextSlot, arrived, waiters⟩)
        .announce before.length =
      some (spot before after ⟨.announced, observed, slot⟩ occupancy
        ⟨nextSlot, arrived + 1, waiters⟩) := by
  unfold step
  rw [spot_found]
  dsimp only
  rw [spot_put, if_neg (Nat.not_le.mpr early)]
  rfl

theorem spot_wait (few : waiters + 1 < workers) :
    step workers
        (spot before after ⟨.announced, observed, slot⟩ occupancy
          ⟨nextSlot, arrived, waiters⟩)
        .wait before.length =
      some (spot before after ⟨.waiting, observed, slot⟩ occupancy
        ⟨nextSlot, arrived, waiters + 1⟩) := by
  have shut : ¬ waiters + 1 = max workers 1 := by omega
  unfold step
  rw [spot_found]
  dsimp only
  unfold LaunchState.arrive
  dsimp only
  rw [spot_put]
  exact congrArg some (if_neg shut)

end Parking

/-- A task that comes to the barrier, too early to open it. -/
theorem runSteps_parking (before after : List Task)
    (short : before.length + 1 < workers)
    (free : (spot before after Task.fresh
      ⟨before.length, before.length⟩
      ⟨before.length, before.length, before.length⟩).count Task.busy <
        workers) :
    runSteps workers
        (spot before after Task.fresh ⟨before.length, before.length⟩
          ⟨before.length, before.length, before.length⟩)
        (parking before.length) =
      some (spot before after (parkedTask before.length)
        ⟨before.length + 1, before.length + 1⟩
        ⟨before.length + 1, before.length + 1, before.length + 1⟩) := by
  unfold parking
  rw [runSteps_cons (spot_start _ _ _ _ free),
    runSteps_cons (spot_increment _ _ _ _ _),
    runSteps_cons (spot_raise _ _ _ _ _ _ (by omega)),
    runSteps_cons (spot_takeSlot _ _ _ _ _ _ _),
    runSteps_cons (spot_announce _ _ _ _ _ _ _ _ (by omega)),
    runSteps_cons (spot_wait _ _ _ _ _ _ _ _ short)]
  rfl

theorem runSteps_append {first second : List (Action × Nat)}
    {middle : LaunchState}
    (begins : runSteps workers state first = some middle) :
    runSteps workers state (first ++ second) =
      runSteps workers middle second := by
  induction first generalizing state with
  | nil =>
      cases begins
      rfl
  | cons entry rest ih =>
      obtain ⟨action, position⟩ := entry
      rw [List.cons_append]
      cases one : step workers state action position with
      | none =>
          rw [runSteps, one] at begins
          cases begins
      | some after =>
          rw [runSteps_cons one] at begins ⊢
          exact ih begins

theorem count_busy_parked (count rest : Nat) :
    (parked count rest).count Task.busy = count := by
  have waits : ((List.range count).map parkedTask).countP Task.busy =
      count := by
    rw [List.countP_eq_length.mpr]
    · rw [List.length_map, List.length_range]
    · intro task member
      obtain ⟨slot, _, same⟩ := List.mem_map.mp member
      rw [← same]
      rfl
  have pending : (List.replicate rest Task.fresh).countP Task.busy = 0 := by
    apply List.countP_eq_zero.mpr
    intro task member
    rw [List.eq_of_mem_replicate member]
    exact Bool.false_ne_true
  unfold LaunchState.count parked
  rw [List.countP_append, waits, pending]
  exact Nat.add_zero count

/-- Fewer tasks than the barrier holds can all come to wait there. -/
theorem reachable_parked (count rest : Nat) (few : count + rest < workers) :
    Reachable workers (count + rest) (parked count rest) := by
  induction count generalizing rest with
  | zero =>
      rw [Nat.zero_add]
      exact ⟨[], fun entry member => absurd member List.not_mem_nil, rfl⟩
  | succ count ih =>
      have earlier := ih (rest + 1) (by omega)
      obtain ⟨steps, inTime, runs⟩ := earlier
      have length : ((List.range count).map parkedTask).length = count := by
        rw [List.length_map, List.length_range]
      have short : ((List.range count).map parkedTask).length + 1 <
          workers := by
        omega
      have comes := runSteps_parking ((List.range count).map parkedTask)
        (List.replicate rest Task.fresh) short (by
          rw [length]
          have busy := count_busy_parked count (rest + 1)
          exact lt_of_eq_of_lt busy (by omega))
      rw [length] at comes
      have next : spot ((List.range count).map parkedTask)
          (List.replicate rest Task.fresh) (parkedTask count)
          ⟨count + 1, count + 1⟩ ⟨count + 1, count + 1, count + 1⟩ =
            parked (count + 1) rest := by
        unfold spot parked
        rw [List.range_succ, List.map_append, List.append_assoc]
        rfl
      rw [next] at comes
      refine ⟨steps ++ parking count, ?_, ?_⟩
      · intro entry member
        rcases List.mem_append.mp member with before | now
        · exact inTime entry before
        · have actions : entry.1 ∈ (parking count).map Prod.fst :=
            List.mem_map_of_mem now
          intro timeout
          rw [timeout] at actions
          simp [parking] at actions
      · have same : count + 1 + rest = count + (rest + 1) := by omega
        rw [same, runSteps_append runs]
        exact comes

theorem parked_starved {count : Nat} (positive : 0 < count) :
    (parked count 0).Starved workers := by
  have all : ∀ task ∈ (parked count 0).tasks, task.stage = .waiting := by
    intro task member
    rw [parked, List.replicate_zero, List.append_nil] at member
    obtain ⟨slot, _, same⟩ := List.mem_map.mp member
    rw [← same]
    rfl
  refine ⟨?_, ?_, ?_⟩
  · refine ⟨parkedTask 0, ?_, rfl⟩
    rw [parked, List.replicate_zero, List.append_nil]
    exact List.mem_map_of_mem (List.mem_range.mpr positive)
  · intro task member _
    exact decide_eq_true (all task member)
  · intro position
    apply Option.eq_none_iff_forall_ne_some.mpr
    intro next steps
    obtain ⟨task, found, move⟩ := step_eq_some.mp steps
    cases move with
    | start stage free =>
        rw [all task (List.mem_of_getElem? found)] at stage
        cases stage

/-- On a restart the gate still waits for all configured workers: it starves
nobody exactly if nothing is left to run, or enough.  A launch from the start
always has enough. -/
theorem never_starved {rows width : UInt64} {partitions : UInt16}
    {count : UInt8}
    (accepted : validateShape rows partitions count = .ok width)
    (completed : List UInt16) :
    ((∀ state, Reachable count.toNat (remaining partitions completed).length
        state → ¬ state.Starved count.toNat) ↔
      remaining partitions completed = [] ∨
        count.toNat ≤ (remaining partitions completed).length) ∧
      count.toNat ≤ (remaining partitions []).length := by
  constructor
  · constructor
    · intro never
      by_contra neither
      have parts := not_or.mp neither
      have positive := List.length_pos_iff.mpr parts.1
      apply never _ (reachable_parked _ 0 (Nat.lt_of_not_le parts.2))
      exact parked_starved positive
    · intro enough state reachable
      have sound := reachable.sound
      rcases enough with nothing | enough
      · intro starved
        obtain ⟨task, member, _⟩ := starved.1
        have length := sound.length
        rw [nothing] at length
        rw [List.length_eq_zero_iff.mp length] at member
        cases member
      · exact sound.not_starved enough
  · have whole : remaining partitions [] = indices partitions := by
      apply List.filter_eq_self.mpr
      intro index _
      exact decide_eq_true List.not_mem_nil
    rw [whole, indices, List.length_map, List.length_range]
    exact (validateShape_eq_ok.mp accepted).2.2

theorem never_starved_four :
    validateShape 4 4 2 = .ok 1 ∧
      ∀ state, Reachable 2 (remaining 4 [0, 2]).length state →
        ¬ state.Starved 2 := by
  have accepted : validateShape 4 4 2 = .ok 1 := by decide
  exact ⟨accepted,
    (never_starved accepted [0, 2]).1.mpr (Or.inr (by decide))⟩

/-- Of two partitions for two workers, one is left. -/
theorem last_partition_starves :
    validateShape 4 2 2 = .ok 2 ∧ remaining 2 [0] = [1] ∧
      ∃ state, Reachable 2 (remaining 2 [0]).length state ∧
        state.Starved 2 := by
  refine ⟨by decide, by decide, parked 1 0, ?_, ?_⟩
  · exact reachable_parked 1 0 (by decide)
  · exact parked_starved (by decide)

end Partition
