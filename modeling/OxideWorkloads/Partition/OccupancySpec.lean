/-
The steps of a launch by the task that moves, and the counters.

Among the tasks counted in `active`, at most `n` have observed a value of at
most `n`; so the peak is at least the number of tasks that are counted and have
entered.
-/

import OxideWorkloads.Partition.Admission

namespace Partition

open Foundation

variable {workers : Nat} {state next : LaunchState} {position : Nat}
  {task : Task}

/-! ### The moves of a task -/

/-- One step of a task, by its action. -/
inductive Move (workers : Nat) (state : LaunchState) (position : Nat)
    (task : Task) : Action → LaunchState → Prop where
  | start (stage : task.stage = .pending)
      (free : state.count Task.busy < workers) :
      Move workers state position task .start
        (state.put position { task with stage := .started })
  | increment (stage : task.stage = .started) :
      Move workers state position task .increment
        { state.put position
            { task with
              stage := .counted
              observed := state.occupancy.active + 1 } with
          occupancy :=
            { state.occupancy with active := state.occupancy.active + 1 } }
  | raise (stage : task.stage = .counted) :
      Move workers state position task .raise
        { state.put position { task with stage := .entered } with
          occupancy :=
            { state.occupancy with
              peak := max state.occupancy.peak task.observed } }
  | takeSlot (stage : task.stage = .entered) :
      Move workers state position task .takeSlot
        { state.put position
            { task with stage := .slotted, slot := state.gate.nextSlot } with
          gate := { state.gate with nextSlot := state.gate.nextSlot + 1 } }
  | pass (stage : task.stage = .slotted) (beyond : workers ≤ task.slot) :
      Move workers state position task .pass
        (state.put position { task with stage := .admitted })
  | announce (stage : task.stage = .slotted) (early : task.slot < workers) :
      Move workers state position task .announce
        { state.put position { task with stage := .announced } with
          gate := { state.gate with arrived := state.gate.arrived + 1 } }
  | wait (stage : task.stage = .announced) :
      Move workers state position task .wait
        (state.arrive workers position task)
  | timeout (stage : task.stage = .waiting) :
      Move workers state position task .timeout
        (state.put position { task with stage := .leaving })
  | finish (stage : task.stage = .admitted) :
      Move workers state position task .finish
        (state.put position { task with stage := .leaving })
  | leave (stage : task.stage = .leaving) :
      Move workers state position task .leave
        { state.put position { task with stage := .finished } with
          occupancy :=
            { state.occupancy with active := state.occupancy.active - 1 } }

theorem step_eq_some {action : Action} :
    step workers state action position = some next ↔
      ∃ task, state.tasks[position]? = some task ∧
        Move workers state position task action next := by
  constructor
  · intro steps
    unfold step at steps
    cases found : state.tasks[position]? with
    | none =>
        rw [found] at steps
        cases steps
    | some task =>
        rw [found] at steps
        refine ⟨task, rfl, ?_⟩
        simp only at steps
        split at steps
        · rename_i stage
          split at steps
          · cases steps
            exact Move.start stage (by assumption)
          · cases steps
        · cases steps
          exact Move.increment (by assumption)
        · cases steps
          exact Move.raise (by assumption)
        · cases steps
          exact Move.takeSlot (by assumption)
        · rename_i stage
          split at steps
          · cases steps
            exact Move.pass stage (by assumption)
          · cases steps
        · rename_i stage
          split at steps
          · cases steps
          · rename_i early
            cases steps
            exact Move.announce stage (by omega)
        · cases steps
          exact Move.wait (by assumption)
        · cases steps
          exact Move.timeout (by assumption)
        · cases steps
          exact Move.finish (by assumption)
        · cases steps
          exact Move.leave (by assumption)
        · cases steps
  · intro moves
    obtain ⟨task, found, move⟩ := moves
    unfold step
    rw [found]
    cases move with
    | start stage free => simp only [stage, if_pos free]
    | increment stage => simp only [stage]
    | raise stage => simp only [stage]
    | takeSlot stage => simp only [stage]
    | pass stage beyond => simp only [stage, if_pos beyond]
    | announce stage early => simp only [stage, if_neg (Nat.not_le.mpr early)]
    | wait stage => simp only [stage]
    | timeout stage => simp only [stage]
    | finish stage => simp only [stage]
    | leave stage => simp only [stage]

/-! ### The counters -/

/-- A counted task that has observed at most a limit. -/
def Task.ranked (limit : Int) (task : Task) : Bool :=
  task.present ∧ task.observed ≤ limit

/-- A counted task that has entered. -/
def Task.recorded (task : Task) : Bool := task.present ∧ task.hasEntered

/-- The counters agree with the tasks.  `ranks` is the reason why the peak
misses nobody: tasks that left only lower the ranks of the others. -/
structure Occupied (workers : Nat) (state : LaunchState) : Prop where
  active : state.occupancy.active = state.count Task.present
  bounded : state.count Task.busy ≤ workers
  ranks : ∀ limit : Int, 0 ≤ limit →
    (state.count (Task.ranked limit) : Int) ≤ limit
  observed : ∀ task ∈ state.tasks, task.present = true →
    task.observed ≤ workers
  raised : ∀ task ∈ state.tasks, task.recorded = true →
    task.observed ≤ state.occupancy.peak
  peak_nonneg : 0 ≤ state.occupancy.peak
  peak_le : state.occupancy.peak ≤ workers

/-- Two tasks that the counters do not tell apart. -/
structure Alike (old new : Task) : Prop where
  busy : new.busy = old.busy
  present : new.present = old.present
  hasEntered : new.hasEntered = old.hasEntered
  observed : new.observed = old.observed

theorem count_put (found : state.tasks[position]? = some task)
    (changed : Task) (counted : Task → Bool) :
    (state.put position changed).count counted + (counted task).toNat =
      state.count counted + (counted changed).toNat :=
  Roster.countP_set counted found

theorem count_put_of_eq (found : state.tasks[position]? = some task)
    {changed : Task} {counted : Task → Bool}
    (same : counted changed = counted task) :
    (state.put position changed).count counted = state.count counted :=
  Roster.countP_set_of_eq counted found same

theorem Alike.ranked {old new : Task} (alike : Alike old new)
    (limit : Int) : new.ranked limit = old.ranked limit := by
  unfold Task.ranked
  rw [alike.present, alike.observed]

theorem Alike.recorded {old new : Task} (alike : Alike old new) :
    new.recorded = old.recorded := by
  unfold Task.recorded
  rw [alike.present, alike.hasEntered]

/-- The stages of a task that is counted and has entered. -/
def afterEntering : List Stage :=
  [.entered, .slotted, .announced, .waiting, .admitted, .leaving]

theorem recorded_iff (task : Task) :
    task.recorded = true ↔ task.stage ∈ afterEntering := by
  cases task with
  | mk stage observed slot =>
      cases stage <;>
        simp [Task.recorded, Task.present, Task.busy, Task.hasEntered,
          afterEntering]

theorem alike_of_recorded {old new : Task} (was : old.recorded = true)
    (stays : new.recorded = true) (observed : new.observed = old.observed) :
    Alike old new := by
  have parts : ∀ task : Task, task.recorded = true →
      task.busy = true ∧ task.present = true ∧ task.hasEntered = true := by
    intro task recorded
    simp only [Task.recorded, Bool.decide_and, Bool.and_eq_true,
      decide_eq_true_eq] at recorded
    have present := recorded.1
    simp only [Task.present, Bool.decide_and, Bool.and_eq_true,
      decide_eq_true_eq] at present
    exact ⟨present.1, recorded.1, recorded.2⟩
  have before := parts old was
  have after := parts new stays
  exact ⟨after.1.trans before.1.symm, after.2.1.trans before.2.1.symm,
    after.2.2.trans before.2.2.symm, observed⟩

theorem Occupied.put (occupied : Occupied workers state)
    (found : state.tasks[position]? = some task) {changed : Task}
    (alike : Alike task changed) :
    Occupied workers (state.put position changed) := by
  have member := List.mem_of_getElem? found
  constructor
  · rw [count_put_of_eq found alike.present]
    exact occupied.active
  · rw [count_put_of_eq found alike.busy]
    exact occupied.bounded
  · intro limit positive
    rw [count_put_of_eq found (alike.ranked limit)]
    exact occupied.ranks limit positive
  · apply Roster.forall_set occupied.observed
    intro present
    rw [alike.present] at present
    rw [alike.observed]
    exact occupied.observed task member present
  · apply Roster.forall_set occupied.raised
    intro recorded
    rw [alike.recorded] at recorded
    rw [alike.observed]
    exact occupied.raised task member recorded
  · exact occupied.peak_nonneg
  · exact occupied.peak_le

theorem release_alike (task : Task) : Alike task task.release := by
  unfold Task.release
  split
  · rename_i waiting
    have stage : task.stage = .waiting := of_decide_eq_true waiting
    constructor
    · simp [Task.busy, stage]
    · simp [Task.present, Task.busy, stage]
    · simp [Task.hasEntered, stage]
    · rfl
  · exact ⟨rfl, rfl, rfl, rfl⟩

theorem count_release {counted : Task → Bool}
    (same : ∀ task : Task, counted task.release = counted task)
    (tasks : List Task) :
    (tasks.map Task.release).countP counted = tasks.countP counted := by
  rw [List.countP_map]
  apply List.countP_congr
  intro task _
  rw [Function.comp_apply, same]

theorem Occupied.release (occupied : Occupied workers state) :
    Occupied workers
      { state with tasks := state.tasks.map Task.release } := by
  have alike := release_alike
  constructor
  · rw [LaunchState.count, count_release (fun task => (alike task).present)]
    exact occupied.active
  · rw [LaunchState.count, count_release (fun task => (alike task).busy)]
    exact occupied.bounded
  · intro limit positive
    rw [LaunchState.count,
      count_release (fun task => (alike task).ranked limit)]
    exact occupied.ranks limit positive
  · intro released member present
    obtain ⟨task, inTasks, same⟩ := List.mem_map.mp member
    rw [← same, (alike task).present] at present
    rw [← same, (alike task).observed]
    exact occupied.observed task inTasks present
  · intro released member recorded
    obtain ⟨task, inTasks, same⟩ := List.mem_map.mp member
    rw [← same, (alike task).recorded] at recorded
    rw [← same, (alike task).observed]
    exact occupied.raised task inTasks recorded
  · exact occupied.peak_nonneg
  · exact occupied.peak_le

/-- The gate does not matter to the counters. -/
theorem Occupied.gate (occupied : Occupied workers state)
    (gate : AdmissionGate) : Occupied workers { state with gate } :=
  ⟨occupied.active, occupied.bounded, occupied.ranks, occupied.observed,
    occupied.raised, occupied.peak_nonneg, occupied.peak_le⟩

/-- The peak is at least the number of counted tasks that have entered. -/
theorem Occupied.recorded_le (occupied : Occupied workers state) :
    (state.count Task.recorded : Int) ≤ state.occupancy.peak := by
  have below : state.count Task.recorded ≤
      state.count (Task.ranked state.occupancy.peak) := by
    apply List.countP_mono_left
    intro task member recorded
    have raised := occupied.raised task member recorded
    simp only [Task.recorded, Bool.decide_and, Bool.and_eq_true,
      decide_eq_true_eq] at recorded
    simp only [Task.ranked, Bool.decide_and, Bool.and_eq_true,
      decide_eq_true_eq]
    exact ⟨recorded.1, raised⟩
  have ranks := occupied.ranks _ occupied.peak_nonneg
  omega

/-- Counted tasks are busy, and one that is only started is not counted. -/
theorem Occupied.present_lt (occupied : Occupied workers state)
    (found : state.tasks[position]? = some task)
    (started : task.stage = .started) :
    state.count Task.present + 1 ≤ workers := by
  have some_ : 1 ≤ state.tasks.countP
      (fun task => decide (task.stage = .started)) :=
    List.countP_pos_iff.mpr
      ⟨task, List.mem_of_getElem? found, decide_eq_true started⟩
  have inside : state.tasks.countP Task.present + state.tasks.countP
      (fun task => decide (task.stage = .started)) ≤
        state.tasks.countP Task.busy := by
    apply Roster.countP_add_le
    · intro other _ present
      simp only [Task.present, Bool.decide_and, Bool.and_eq_true,
        decide_eq_true_eq] at present
      exact present.1
    · intro other _ stage
      simp [Task.busy, of_decide_eq_true stage]
    · intro other _ present
      simp only [Task.present, Bool.decide_and, Bool.and_eq_true,
        decide_eq_true_eq] at present
      exact decide_eq_false present.2
  have bounded := occupied.bounded
  unfold LaunchState.count at *
  omega

theorem Occupied.ranked_le (occupied : Occupied workers state) (limit : Int) :
    (state.count (Task.ranked limit) : Int) ≤ state.occupancy.active := by
  have inside : state.count (Task.ranked limit) ≤
      state.count Task.present := by
    apply List.countP_mono_left
    intro task member ranked
    simp only [Task.ranked, Bool.decide_and, Bool.and_eq_true,
      decide_eq_true_eq] at ranked
    exact ranked.1
  rw [occupied.active]
  omega

theorem Occupied.start (occupied : Occupied workers state)
    (found : state.tasks[position]? = some task)
    (stage : task.stage = .pending)
    (free : state.count Task.busy < workers) :
    Occupied workers (state.put position { task with stage := .started }) := by
  have absent : task.present = false := by
    simp [Task.present, Task.busy, stage]
  constructor
  · have same : Task.present { task with stage := .started } =
        task.present := absent.symm
    rw [count_put_of_eq found same]
    exact occupied.active
  · have balance := count_put found { task with stage := .started } Task.busy
    have counted : Task.busy { task with stage := .started } = true := rfl
    rw [counted, Bool.toNat_true] at balance
    omega
  · intro limit positive
    have same : Task.ranked limit { task with stage := .started } =
        task.ranked limit := by
      unfold Task.ranked
      rw [absent]
      rfl
    rw [count_put_of_eq found same]
    exact occupied.ranks limit positive
  · apply Roster.forall_set occupied.observed
    intro present
    cases present
  · apply Roster.forall_set occupied.raised
    intro recorded
    simp [Task.recorded, Task.present] at recorded
  · exact occupied.peak_nonneg
  · exact occupied.peak_le

/-- The value observed is the number of counted tasks, the new one included:
it has the highest rank of all. -/
theorem Occupied.increment (occupied : Occupied workers state)
    (found : state.tasks[position]? = some task)
    (stage : task.stage = .started) :
    Occupied workers
      { state.put position
          { task with
            stage := .counted
            observed := state.occupancy.active + 1 } with
        occupancy :=
          { state.occupancy with active := state.occupancy.active + 1 } } := by
  have absent : task.present = false := by
    simp [Task.present, Task.busy, stage]
  constructor
  · have balance := count_put found
      { task with
        stage := .counted
        observed := state.occupancy.active + 1 } Task.present
    have counted : Task.present
        { task with
          stage := .counted
          observed := state.occupancy.active + 1 } = true := rfl
    rw [absent, counted, Bool.toNat_true, Bool.toNat_false] at balance
    have active := occupied.active
    change state.occupancy.active + 1 =
      ((state.put position _).count Task.present : Int)
    omega
  · have same : Task.busy
        { task with
          stage := .counted
          observed := state.occupancy.active + 1 } = task.busy := by
      simp [Task.busy, stage]
    have unchanged := count_put_of_eq found same
    have bounded := occupied.bounded
    rw [← unchanged] at bounded
    exact bounded
  · intro limit positive
    have balance := count_put found
      { task with
        stage := .counted
        observed := state.occupancy.active + 1 } (Task.ranked limit)
    have below := occupied.ranked_le limit
    have ranks := occupied.ranks limit positive
    change ((state.put position _).count (Task.ranked limit) : Int) ≤ limit
    by_cases high : state.occupancy.active + 1 ≤ limit
    · have one := Bool.toNat_le (Task.ranked limit
        { task with
          stage := .counted
          observed := state.occupancy.active + 1 })
      omega
    · have unranked : Task.ranked limit
          { task with
            stage := .counted
            observed := state.occupancy.active + 1 } = false := by
        simp [Task.ranked, high]
      rw [unranked, Bool.toNat_false] at balance
      omega
  · apply Roster.forall_set occupied.observed
    intro _
    have room := occupied.present_lt found stage
    have active := occupied.active
    change state.occupancy.active + 1 ≤ _
    omega
  · apply Roster.forall_set occupied.raised
    intro recorded
    simp [Task.recorded, Task.hasEntered] at recorded
  · exact occupied.peak_nonneg
  · exact occupied.peak_le

theorem Occupied.raise (occupied : Occupied workers state)
    (found : state.tasks[position]? = some task)
    (stage : task.stage = .counted) :
    Occupied workers
      { state.put position { task with stage := .entered } with
        occupancy :=
          { state.occupancy with
            peak := max state.occupancy.peak task.observed } } := by
  have member := List.mem_of_getElem? found
  have counted : task.present = true := by
    simp [Task.present, Task.busy, stage]
  have bound := occupied.observed task member counted
  constructor
  · have same : Task.present { task with stage := .entered } =
        task.present := counted.symm
    have unchanged := count_put_of_eq found same
    have active := occupied.active
    rw [← unchanged] at active
    exact active
  · have same : Task.busy { task with stage := .entered } = task.busy := by
      simp [Task.busy, stage]
    have unchanged := count_put_of_eq found same
    have bounded := occupied.bounded
    rw [← unchanged] at bounded
    exact bounded
  · intro limit positive
    have same : Task.ranked limit { task with stage := .entered } =
        task.ranked limit := by
      simp [Task.ranked, Task.present, Task.busy, stage]
    have unchanged := count_put_of_eq found same
    have ranks := occupied.ranks limit positive
    rw [← unchanged] at ranks
    exact ranks
  · apply Roster.forall_set occupied.observed
    intro _
    exact bound
  · apply Roster.forall_set
    · intro other inTasks recorded
      have raised := occupied.raised other inTasks recorded
      exact le_max_of_le_left raised
    · intro _
      exact le_max_right _ _
  · exact le_max_of_le_left occupied.peak_nonneg
  · exact max_le occupied.peak_le bound

/-- A task that leaves lowers the ranks of the others. -/
theorem Occupied.leave (occupied : Occupied workers state)
    (found : state.tasks[position]? = some task)
    (stage : task.stage = .leaving) :
    Occupied workers
      { state.put position { task with stage := .finished } with
        occupancy :=
          { state.occupancy with active := state.occupancy.active - 1 } } := by
  constructor
  · have balance := count_put found { task with stage := .finished }
      Task.present
    have counted : task.present = true := by
      simp [Task.present, Task.busy, stage]
    have absent : Task.present { task with stage := .finished } = false := rfl
    rw [counted, absent, Bool.toNat_true, Bool.toNat_false] at balance
    have active := occupied.active
    change state.occupancy.active - 1 =
      ((state.put position _).count Task.present : Int)
    omega
  · have balance := count_put found { task with stage := .finished } Task.busy
    have absent : Task.busy { task with stage := .finished } = false := rfl
    rw [absent, Bool.toNat_false] at balance
    have bounded := occupied.bounded
    change (state.put position _).count Task.busy ≤ workers
    omega
  · intro limit positive
    have balance := count_put found { task with stage := .finished }
      (Task.ranked limit)
    have unranked : Task.ranked limit { task with stage := .finished } =
        false := by
      simp [Task.ranked, Task.present, Task.busy]
    rw [unranked, Bool.toNat_false] at balance
    have ranks := occupied.ranks limit positive
    change ((state.put position _).count (Task.ranked limit) : Int) ≤ limit
    omega
  · apply Roster.forall_set occupied.observed
    intro present
    cases present
  · apply Roster.forall_set occupied.raised
    intro recorded
    simp [Task.recorded, Task.present, Task.busy] at recorded
  · exact occupied.peak_nonneg
  · exact occupied.peak_le

theorem Occupied.waits (occupied : Occupied workers state)
    (found : state.tasks[position]? = some task)
    (stage : task.stage = .announced) :
    Occupied workers (state.put position { task with stage := .waiting }) := by
  apply occupied.put found
  apply alike_of_recorded
  · apply (recorded_iff task).mpr
    rw [stage]
    decide
  · rfl
  · rfl

theorem Occupied.arrive (occupied : Occupied workers state)
    (found : state.tasks[position]? = some task)
    (stage : task.stage = .announced) :
    Occupied workers (state.arrive workers position task) := by
  have waits := occupied.waits found stage
  unfold LaunchState.arrive
  dsimp only
  split
  · exact waits.release.gate _
  · exact waits.gate _

theorem Occupied.move (occupied : Occupied workers state)
    (found : state.tasks[position]? = some task) {action : Action}
    (move : Move workers state position task action next) :
    Occupied workers next := by
  have recorded : ∀ stage ∈ afterEntering, task.stage = stage →
      task.recorded = true := by
    intro stage inside same
    rw [← same] at inside
    exact (recorded_iff task).mpr inside
  cases move with
  | start stage free => exact occupied.start found stage free
  | increment stage => exact occupied.increment found stage
  | raise stage => exact occupied.raise found stage
  | takeSlot stage =>
      have was := recorded _ (by decide) stage
      have slotted : Occupied workers (state.put position
          { task with stage := .slotted, slot := state.gate.nextSlot }) :=
        occupied.put found (alike_of_recorded was rfl rfl)
      exact slotted.gate _
  | pass stage beyond =>
      have was := recorded _ (by decide) stage
      exact occupied.put found (alike_of_recorded was rfl rfl)
  | announce stage early =>
      have was := recorded _ (by decide) stage
      have announced : Occupied workers
          (state.put position { task with stage := .announced }) :=
        occupied.put found (alike_of_recorded was rfl rfl)
      exact announced.gate _
  | wait stage => exact occupied.arrive found stage
  | timeout stage =>
      have was := recorded _ (by decide) stage
      exact occupied.put found (alike_of_recorded was rfl rfl)
  | finish stage =>
      have was := recorded _ (by decide) stage
      exact occupied.put found (alike_of_recorded was rfl rfl)
  | leave stage => exact occupied.leave found stage

end Partition
