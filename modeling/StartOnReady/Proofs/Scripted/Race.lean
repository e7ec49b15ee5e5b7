import StartOnReady.Proofs.Scripted.Tally

/-!
# Races for a start

Any tasks over one shared state, in any order of their acts, with statuses set from outside at
any time.  `Step` lists what a move can do.  `Sound` keeps every task on its course;
`run_count_isChange` and `recordedStarts_run` count the starts of a name, and `Contested` follows a
name that is set ready once before the tasks begin.
-/

namespace StartOnReady.Scripted

namespace System

variable {s s' : System} {m : Move} {name : String}

/-! ### Steps -/

/-- What a move can do to a system. -/
inductive Step (s : System) : Move → System → Prop
  | set (name : String) (status : ApplicationStatus) :
      Step s (.setStatus name status) ⟨s.shared.setStatus name status, s.tasks⟩
  | idle (place : Nat) : Step s (.advance place) s
  | perform (place : Nat) (task : Task) (a : Access) (next)
      (found : s.tasks[place]? = some task) (rest : task.rest = .ask (.access a) next) :
      Step s (.advance place) ⟨(access a s.shared).2, s.tasks.set place
        ⟨task.event, next (access a s.shared).1, task.deeds ++ [.performed a s.shared]⟩⟩
  | comeBack (place : Nat) (task : Task) (call : Call) (next)
      (found : s.tasks[place]? = some task) (rest : task.rest = .ask (.returned call) next) :
      Step s (.advance place) ⟨s.shared, s.tasks.set place
        ⟨task.event, next (), task.deeds ++ [.returned call]⟩⟩

theorem set_eq_self {α : Type} {l : List α} {i : Nat} {a : α} (found : l[i]? = some a) :
    l.set i a = l := by
  obtain ⟨bound, same⟩ := List.getElem?_eq_some_iff.1 found
  rw [← same]
  exact List.set_getElem_self bound

theorem step_move (s : System) (m : Move) : Step s m (s.move m) := by
  cases m with
  | setStatus name status => exact .set name status
  | advance place =>
    simp only [move]
    rcases found : s.tasks[place]? with _ | task
    · exact .idle place
    · obtain ⟨event, rest, deeds⟩ := task
      rcases rest with outcome | ⟨a | call, next⟩
      · simp only [Task.advance, set_eq_self found]
        exact .idle place
      · exact .perform place _ a next found rfl
      · exact .comeBack place _ call next found rfl

/-- What every step keeps holds after a run. -/
theorem run_induction (inv : System → Prop) (moves : List Move)
    (step : ∀ s s', ∀ m ∈ moves, inv s → Step s m s' → inv s') (start : inv s) :
    inv (s.run moves) := by
  induction moves generalizing s with
  | nil => exact start
  | cons m moves ih =>
    rw [run_cons]
    exact ih (fun s s' m hm => step s s' m (List.mem_cons_of_mem _ hm))
      (step s _ m List.mem_cons_self start (step_move s m))

/-! ### Replaced tasks -/

theorem sum_map_set {α : Type} (f : α → Nat) {l : List α} {i : Nat} {a : α} (a' : α)
    (found : l[i]? = some a) : ((l.set i a').map f).sum + f a = (l.map f).sum + f a' := by
  induction l generalizing i with
  | nil => cases found
  | cons b l ih =>
    cases i with
    | zero =>
      obtain rfl : b = a := Option.some.inj found
      simp only [List.set_cons_zero, List.map_cons, List.sum_cons]
      omega
    | succ i =>
      have := ih (i := i) found
      simp only [List.set_cons_succ, List.map_cons, List.sum_cons]
      omega

/-- One more deed of one task is one more deed of its sort. -/
theorem count_set {place : Nat} {task : Task} (found : s.tasks[place]? = some task)
    (sort : Deed → Bool) (shared : State) (rest) (deed : Deed) :
    count sort ⟨shared, s.tasks.set place ⟨task.event, rest, task.deeds ++ [deed]⟩⟩ =
      s.count sort + (sort deed).toNat := by
  have := sum_map_set (fun task => task.deeds.countP sort)
    ⟨task.event, rest, task.deeds ++ [deed]⟩ found
  simp only [List.countP_append, List.countP_singleton] at this
  unfold count
  cases counted : sort deed <;> simp [counted] at this ⊢ <;> omega

theorem count_ofEvents (events : List ChangeEvent) (sort : Deed → Bool) :
    (ofEvents events).count sort = 0 := by
  simp [count, ofEvents, Task.ofEvent, Function.comp_def, List.map_const']

theorem mem_set {place : Nat} {task task' : Task} (mem : task' ∈ s.tasks.set place task) :
    task' ∈ s.tasks ∨ task' = task := List.mem_or_eq_of_mem_set mem

/-- No event comes or goes. -/
theorem run_events (events : List ChangeEvent) (moves : List Move) :
    ((ofEvents events).run moves).tasks.map Task.event = events := by
  refine run_induction (fun s => s.tasks.map Task.event = events) moves ?_ ?_
  · intro s s' m _ same step
    cases step with
    | set | idle => exact same
    | perform place task a next found | comeBack place task call next found =>
      have found' := congrArg (Option.map Task.event) found
      rw [← List.getElem?_map] at found'
      simp only [List.map_set]
      exact (set_eq_self found').trans same
  · simp [ofEvents, Function.comp_def, Task.ofEvent]

/-! ### All tasks on their courses -/

theorem access_isQuiet (a : Access) {met : State} (quiet : met.IsQuiet) :
    (access a met).2.IsQuiet := by
  cases a with
  | takeDescribeError => exact ⟨rfl, quiet.2⟩
  | takeStartError => exact ⟨quiet.1, rfl⟩
  | claimStart other =>
    simp only [access]
    split
    · exact quiet
    · exact quiet
  | readStatus _ | recordDescribe _ | recordStart _ => exact quiet

/-- No error is injected, and every task is on the course of its event. -/
structure Sound (s : System) : Prop where
  quiet : s.shared.IsQuiet
  kept : ∀ task ∈ s.tasks, Keeps (Course task.event) (Ends task.event) task.rest task.deeds

theorem Sound.step (h : s.Sound) (step : Step s m s') : s'.Sound := by
  cases step with
  | set => exact ⟨h.quiet, h.kept⟩
  | idle => exact h
  | perform place task a next found rest =>
    refine ⟨access_isQuiet _ h.quiet, fun task' mem => ?_⟩
    rcases mem_set mem with old | rfl
    · exact h.kept task' old
    · have kept := h.kept _ (List.mem_of_getElem? found)
      rw [rest] at kept
      exact kept.2 s.shared h.quiet
  | comeBack place task call next found rest =>
    refine ⟨h.quiet, fun task' mem => ?_⟩
    rcases mem_set mem with old | rfl
    · exact h.kept task' old
    · have kept := h.kept _ (List.mem_of_getElem? found)
      rw [rest] at kept
      exact kept.2

theorem sound_run (events : List ChangeEvent) (moves : List Move) :
    ((ofEvents events).run moves).Sound := by
  refine run_induction Sound moves (fun _ _ _ _ h step => h.step step) ⟨⟨rfl, rfl⟩, ?_⟩
  intro task mem
  obtain ⟨event, -, rfl⟩ := List.mem_map.1 mem
  exact keeps_program event

theorem Sound.course (h : s.Sound) {task : Task} (mem : task ∈ s.tasks) :
    Course task.event task.deeds := (h.kept task mem).holds

theorem Sound.ends (h : s.Sound) {task : Task} (mem : task ∈ s.tasks) {outcome : Outcome}
    (finished : task.outcome? = some outcome) : Ends task.event outcome task.deeds := by
  have kept := h.kept task mem
  unfold Task.outcome? at finished
  split at finished
  · next rest =>
    rw [rest] at kept
    cases finished
    exact kept.2
  · cases finished

/-! ### Counting starts -/

/-- Whether an application is ready, as a number. -/
def readiness (name : String) (s : State) : Nat := if s.status name = some .ready then 1 else 0

/-- A move sets the status of a name, leaves it, or changes it from ready to starting. -/
theorem Step.status_cases (step : Step s m s') (name : String) :
    (∃ status, m = .setStatus name status ∧ s'.shared.status name = some status ∧
      s'.count (Deed.isChange name) = s.count (Deed.isChange name)) ∨
    (s'.shared.status name = s.shared.status name ∧
      s'.count (Deed.isChange name) = s.count (Deed.isChange name)) ∨
    s.shared.status name = some .ready ∧ s'.shared.status name = some .starting ∧
      s'.count (Deed.isChange name) = s.count (Deed.isChange name) + 1 := by
  cases step with
  | set other status =>
    have set := State.status_setStatus s.shared other name status
    by_cases same : name = other
    · subst same
      rw [if_pos rfl] at set
      exact Or.inl ⟨status, rfl, set, rfl⟩
    · rw [if_neg same] at set
      exact Or.inr (Or.inl ⟨set, rfl⟩)
  | idle => exact Or.inr (Or.inl ⟨rfl, rfl⟩)
  | comeBack place task call next found => exact Or.inr (Or.inl ⟨rfl, count_set found _ _ _ _⟩)
  | perform place task a next found =>
    rw [count_set found]
    rcases isChange_cases a s.shared name with ⟨idle, same⟩ | ⟨change, ready, starting⟩
    · rw [idle]
      exact Or.inr (Or.inl ⟨same, rfl⟩)
    · rw [change]
      exact Or.inr (Or.inr ⟨ready, starting, rfl⟩)

/-- A status is changed to starting at most as often as it becomes ready. -/
theorem Step.count_isChange (step : Step s m s') (name : String) :
    s'.count (Deed.isChange name) + readiness name s'.shared ≤
      s.count (Deed.isChange name) + readiness name s.shared +
        (decide (m = .setStatus name .ready)).toNat := by
  unfold readiness
  rcases step.status_cases name with ⟨status, rfl, set, count⟩ | ⟨same, count⟩ |
    ⟨ready, starting, count⟩
  · rw [set, count]
    cases status <;> simp
  · rw [same, count]
    exact Nat.le_add_right _ _
  · rw [ready, starting, count]
    simp

theorem run_count_isChange (moves : List Move) (s : System) (name : String) :
    (s.run moves).count (Deed.isChange name) + readiness name (s.run moves).shared ≤
      s.count (Deed.isChange name) + readiness name s.shared +
        moves.countP (· = .setStatus name .ready) := by
  induction moves generalizing s with
  | nil => exact Nat.le_refl _
  | cons m moves ih =>
    have first := (step_move s m).count_isChange name
    have later := ih (s.move m)
    rw [run_cons, List.countP_cons]
    cases set : decide (m = .setStatus name .ready) <;> simp [set] at first ⊢ <;> omega

/-! ### Records -/

theorem recordedStarts_access (a : Access) (met : State) (name : String) :
    (access a met).2.recordedStarts name =
      met.recordedStarts name + ((Deed.performed a met).isRecord name).toNat := by
  cases a with
  | recordStart call =>
    simp only [access, State.recordedStarts, Deed.isRecord, List.countP_append,
      List.countP_singleton, Bool.toNat, Bool.cond_eq_ite]
  | claimStart other =>
    simp only [access]
    split
    · rfl
    · rfl
  | takeDescribeError | takeStartError | readStatus _ | recordDescribe _ => rfl

/-- The recorded starts are those that the tasks have recorded. -/
theorem recordedStarts_run (events : List ChangeEvent) (moves : List Move) (name : String) :
    ((ofEvents events).run moves).shared.recordedStarts name =
      ((ofEvents events).run moves).count (Deed.isRecord name) := by
  refine run_induction
    (fun s => s.shared.recordedStarts name = s.count (Deed.isRecord name)) moves ?_ ?_
  · intro s s' m _ same step
    cases step with
    | set | idle => exact same
    | perform place task a next found => rw [count_set found, recordedStarts_access, same]
    | comeBack place task call next found =>
      rw [count_set found, same]
      rfl
  · rw [count_ofEvents]
    rfl

/-! ### Successes, records and changes -/

theorem count_le_count {sort sort' : Deed → Bool}
    (each : ∀ task ∈ s.tasks, task.deeds.countP sort ≤ task.deeds.countP sort') :
    s.count sort ≤ s.count sort' := List.sum_le_sum each

theorem Sound.count_isSuccess_le (h : s.Sound) (name : String) :
    s.count (Deed.isSuccess name) ≤ s.count (Deed.isRecord name) :=
  count_le_count fun _ mem => ((h.course mem).tally name).1

theorem Sound.count_isRecord_le (h : s.Sound) (name : String) :
    s.count (Deed.isRecord name) ≤ s.count (Deed.isChange name) :=
  count_le_count fun _ mem => ((h.course mem).tally name).2

theorem countP_eq_sum {α : Type} (p : α → Bool) (l : List α) :
    l.countP p = (l.map fun a => (p a).toNat).sum := by
  induction l with
  | nil => rfl
  | cons a l ih =>
    rw [List.countP_cons, List.map_cons, List.sum_cons, ih]
    cases p a <;> simp [Nat.add_comm]

/-- Whether about the name or not, a task of a settled system has what its outcome says. -/
theorem Sound.tally (h : s.Sound) (settled : s.Settled name) {task : Task} (mem : task ∈ s.tasks) :
    task.deeds.countP (Deed.isRecord name) = (task.requested name).toNat ∧
      task.deeds.countP (Deed.isChange name) = (task.requested name).toNat := by
  unfold Task.requested
  rcases finished : task.outcome? with _ | outcome
  · have other : ¬ IsAbout name task.event := by
      intro about
      have := settled task mem about
      rw [finished] at this
      cases this
    have unchanged := (h.course mem).countP_isChange_eq_zero other
    have recorded := ((h.course mem).tally name).2
    rw [unchanged] at recorded
    exact ⟨Nat.le_zero.1 recorded, unchanged⟩
  · exact (h.ends mem finished).tally name

theorem Sound.countP_requested (h : s.Sound) (settled : s.Settled name) :
    s.tasks.countP (Task.requested name) = s.count (Deed.isRecord name) ∧
      s.tasks.countP (Task.requested name) = s.count (Deed.isChange name) := by
  rw [countP_eq_sum]
  unfold count
  constructor
  · rw [List.map_congr_left fun task mem => (h.tally settled mem).1]
  · rw [List.map_congr_left fun task mem => (h.tally settled mem).2]

/-! ### One readiness for many tasks -/

/-- Every state that a task has met is the shared state of some moment. -/
theorem Step.met (step : Step s m s') {task' : Task} (mem : task' ∈ s'.tasks) {a : Access}
    {met : State} (done : .performed a met ∈ task'.deeds) :
    met = s.shared ∨ ∃ task ∈ s.tasks, .performed a met ∈ task.deeds := by
  cases step with
  | set | idle => exact Or.inr ⟨task', mem, done⟩
  | perform place task b next found rest =>
    rcases mem_set mem with old | rfl
    · exact Or.inr ⟨task', old, done⟩
    · rcases List.mem_append.1 done with old | new
      · exact Or.inr ⟨task, List.mem_of_getElem? found, old⟩
      · cases List.mem_singleton.1 new
        exact Or.inl rfl
  | comeBack place task call next found rest =>
    rcases mem_set mem with old | rfl
    · exact Or.inr ⟨task', old, done⟩
    · rcases List.mem_append.1 done with old | new
      · exact Or.inr ⟨task, List.mem_of_getElem? found, old⟩
      · cases List.mem_singleton.1 new

/-- The tasks have met a name ready or starting, and starting only if it still is. -/
def Seen (name : String) (s : System) : Prop :=
  ∀ task ∈ s.tasks, ∀ a met, .performed a met ∈ task.deeds →
    met.status name = some .ready ∨
      met.status name = some .starting ∧ s.shared.status name = some .starting

theorem Seen.step (h : s.Seen name) (step : Step s m s')
    (now : s.shared.status name = some .ready ∨ s.shared.status name = some .starting)
    (lasting : s.shared.status name = some .starting → s'.shared.status name = some .starting) :
    s'.Seen name := by
  intro task mem a met done
  rcases step.met mem done with rfl | ⟨task', mem', done'⟩
  · exact now.imp_right fun starting => ⟨starting, lasting starting⟩
  · exact (h task' mem' a met done').imp_right fun seen => ⟨seen.1, lasting seen.2⟩

/-- A name was set ready once: it is still ready and no task has changed it, or one task has and it
is starting ever since. -/
structure Contested (name : String) (s : System) : Prop where
  status : s.shared.status name = some .ready ∧ s.count (Deed.isChange name) = 0 ∨
    s.shared.status name = some .starting ∧ s.count (Deed.isChange name) = 1
  seen : s.Seen name

theorem Contested.step (h : s.Contested name) (step : Step s m s')
    (other : m.isSettingOf name = false) : s'.Contested name := by
  have now := h.status.imp And.left And.left
  rcases step.status_cases name with ⟨status, rfl, -, -⟩ | ⟨same, count⟩ |
    ⟨ready, starting, count⟩
  · simp [Move.isSettingOf] at other
  · refine ⟨?_, h.seen.step step now fun starting => same.trans starting⟩
    rw [same, count]
    exact h.status
  · refine ⟨Or.inr ⟨starting, ?_⟩, h.seen.step step now fun _ => starting⟩
    rcases h.status with ⟨-, none⟩ | ⟨starting', -⟩
    · rw [count, none]
    · cases ready.symm.trans starting'

/-- Settings that end with a name ready, and then no further setting of the name. -/
theorem contested_run (events : List ChangeEvent) {before after : List Move}
    (settings : ∀ m ∈ before, m.isSetting = true)
    (others : ∀ m ∈ after, m.isSettingOf name = false) :
    ((ofEvents events).run (before ++ .setStatus name .ready :: after)).Contested name := by
  have tasks : ((ofEvents events).run before).tasks = (ofEvents events).tasks := by
    refine run_induction (fun s => s.tasks = (ofEvents events).tasks) before ?_ rfl
    intro s s' m mem same step
    cases step with
    | set | idle => exact same
    | perform | comeBack => cases settings _ mem
  rw [run_append, run_cons]
  refine run_induction (Contested name) after
    (fun s s' m mem h step => h.step step (others m mem)) ⟨Or.inl ⟨?_, ?_⟩, ?_⟩
  · exact (State.status_setStatus _ name name .ready).trans (if_pos rfl)
  · show count _ ⟨_, ((ofEvents events).run before).tasks⟩ = 0
    rw [tasks]
    exact count_ofEvents events _
  · intro task mem a met done
    rw [move, tasks] at mem
    obtain ⟨event, -, rfl⟩ := List.mem_map.1 mem
    cases done

end System

/-- The outcome of a task that met its application ready or starting at each access. -/
theorem Ends.of_seen {event : ChangeEvent} {outcome : Outcome} {deeds : List Deed}
    {app : ApplicationRef} (h : Ends event outcome deeds) (acted : event.IsActionable)
    (target : event.applicationRef = .ok app)
    (seen : ∀ a met, .performed a met ∈ deeds →
      met.status app.name = some .ready ∨ met.status app.name = some .starting) :
    outcome = .startRequested app ∨
      (outcome = .statusFiltered app .starting ∨
        outcome = .failed
          (ControlPlaneError.conflict app.display "application is STARTING").message) ∧
      ∃ a met, .performed a met ∈ deeds ∧ met.status app.name = some .starting := by
  cases h with
  | passed idle => exact absurd ⟨acted, app, target⟩ idle
  | unready _ target' _ read unready =>
    cases target.symm.trans target'
    have starting := (seen _ _ read).resolve_left unready
    rw [starting]
    exact Or.inr ⟨Or.inl rfl, _, _, read, starting⟩
  | @asked before _ met met' _ target' _ =>
    cases target.symm.trans target'
    have claimed : .performed (.claimStart app.name) met ∈
        before ++ [claimOf app met] ++ [recordOf app met met'] ++ [returnOf app met] := by
      simp [claimOf]
    rcases seen _ _ claimed with ready | starting
    · rw [ready]
      exact Or.inl rfl
    · rw [starting]
      exact Or.inr ⟨Or.inr rfl, _, _, claimed, starting⟩

namespace System

variable {s : System} {name : String}

/-- Among the tasks about a contested name exactly one has started it. -/
theorem Contested.countP_requested (h : s.Contested name) (sound : s.Sound)
    (settled : s.Settled name) (about : ∃ task ∈ s.tasks, IsAbout name task.event) :
    s.tasks.countP (Task.requested name) = 1 := by
  have counted := (sound.countP_requested settled).2
  rcases h.status with ⟨ready, none⟩ | ⟨-, one⟩
  · exfalso
    rw [none, List.countP_eq_zero] at counted
    obtain ⟨task, mem, acted, app, target, rfl⟩ := about
    obtain ⟨outcome, finished⟩ := Option.isSome_iff_exists.1
      (settled task mem ⟨acted, app, target, rfl⟩)
    have seen := h.seen task mem
    rcases (sound.ends mem finished).of_seen acted target
      fun a met done => (seen a met done).imp_right And.left with rfl | ⟨-, a, met, done, starting⟩
    · refine counted task mem ?_
      simp [Task.requested, finished, requests]
    · rcases seen a met done with ready' | ⟨-, starting'⟩
      · cases starting.symm.trans ready'
      · cases ready.symm.trans starting'
  · exact counted.trans one

/-- Tasks that share a scripted plane on which nothing was set and no error is injected, in any
order of their acts, with any statuses set from outside in between.  A start of a name succeeds at
most as often as the name was set ready; once the tasks about it have finished, the outcomes, the
records and the changes of its status agree; and a start that fails changes nothing.  If the name is
set ready before the tasks and never again, exactly one of the tasks about it starts it and every
other one ends without a start. -/
theorem run_starts_once (events : List ChangeEvent) (moves : List Move) (name : String) :
    let system := (ofEvents events).run moves
    (system.count (Deed.isSuccess name) ≤ system.shared.recordedStarts name ∧
      system.shared.recordedStarts name ≤ system.count (Deed.isChange name) ∧
        system.count (Deed.isChange name) ≤ moves.countP (· = .setStatus name .ready)) ∧
    (system.Settled name →
      system.tasks.countP (Task.requested name) = system.shared.recordedStarts name ∧
        system.tasks.countP (Task.requested name) = system.count (Deed.isChange name)) ∧
    (∀ task ∈ system.tasks, ∀ app e, .returned (.start app (.error e)) ∈ task.deeds →
      IsRefusal app e ∧ Unchanging task.deeds) ∧
    (∀ before after, moves = before ++ .setStatus name .ready :: after →
      (∀ m ∈ before, m.isSetting = true) → (∀ m ∈ after, m.isSettingOf name = false) →
      (∃ event ∈ events, IsAbout name event) → system.Settled name →
        system.tasks.countP (Task.requested name) = 1 ∧
        ∀ task ∈ system.tasks, ∀ app, task.event.IsActionable →
          task.event.applicationRef = .ok app → app.name = name →
            task.outcome? = some (.startRequested app) ∨
            task.outcome? = some (.statusFiltered app .starting) ∨
            task.outcome? = some (.failed
              (ControlPlaneError.conflict app.display "application is STARTING").message)) := by
  intro system
  have sound : system.Sound := sound_run events moves
  have recorded : system.shared.recordedStarts name = system.count (Deed.isRecord name) :=
    recordedStarts_run events moves name
  rw [recorded]
  refine ⟨⟨sound.count_isSuccess_le name, sound.count_isRecord_le name, ?_⟩, ?_, ?_, ?_⟩
  · have balance := run_count_isChange moves (ofEvents events) name
    rw [count_ofEvents] at balance
    have unset : readiness name (ofEvents events).shared = 0 := rfl
    rw [unset, Nat.zero_add] at balance
    exact (Nat.le_add_right _ _).trans balance
  · exact sound.countP_requested
  · intro task mem app e failed
    exact (sound.course mem).of_start_failed failed
  · rintro before after rfl settings others ⟨event, given, about⟩ settled
    have contested : system.Contested name := contested_run events settings others
    constructor
    · have kept : event ∈ system.tasks.map Task.event := by
        rw [run_events]
        exact given
      obtain ⟨task, mem, rfl⟩ := List.mem_map.1 kept
      exact contested.countP_requested sound settled ⟨task, mem, about⟩
    · rintro task mem app acted target rfl
      obtain ⟨outcome, finished⟩ := Option.isSome_iff_exists.1
        (settled task mem ⟨acted, app, target, rfl⟩)
      have seen := fun a met done => (contested.seen task mem a met done).imp_right And.left
      rw [finished]
      rcases (sound.ends mem finished).of_seen acted target seen with
        rfl | ⟨rfl | rfl, -⟩
      · exact Or.inl rfl
      · exact Or.inr (Or.inl rfl)
      · exact Or.inr (Or.inr rfl)

/-- An event that is delivered twice. -/
def duplicate : ChangeEvent where
  region := some (.string "us-east-1")
  detail := some ⟨some (.string "UpdateApplication"), some (.object [("applicationDetail",
    .object [("applicationName", .string "orders")])])⟩

/-- Two tasks that take turns, so that both of them read the status before either starts. -/
def turns : List Move := (List.replicate 8 [.advance 0, .advance 1]).flatten

theorem run_starts_once_of_duplicates :
    let system := (ofEvents [duplicate, duplicate]).run (.setStatus "orders" .ready :: turns)
    system.Settled "orders" ∧ system.shared.recordedStarts "orders" = 1 ∧
      ∀ task ∈ system.tasks, ∀ app, task.event.IsActionable →
        task.event.applicationRef = .ok app → app.name = "orders" →
          task.outcome? = some (.startRequested app) ∨
          task.outcome? = some (.statusFiltered app .starting) ∨
          task.outcome? = some (.failed
            (ControlPlaneError.conflict app.display "application is STARTING").message) := by
  intro system
  have finished : ∀ task ∈ system.tasks, task.outcome?.isSome = true := by decide
  have settled : system.Settled "orders" := fun task mem _ => finished task mem
  have others : ∀ m ∈ turns, m.isSettingOf "orders" = false := by decide
  have about : IsAbout "orders" duplicate := ⟨⟨_, rfl, rfl⟩, ⟨"us-east-1", "orders"⟩, rfl, rfl⟩
  obtain ⟨-, agree, -, once⟩ :=
    run_starts_once [duplicate, duplicate] (.setStatus "orders" .ready :: turns) "orders"
  obtain ⟨one, ends⟩ := once [] turns rfl (by simp) others ⟨duplicate, by simp, about⟩ settled
  exact ⟨settled, (agree settled).1.symm.trans one, ends⟩

end System

end StartOnReady.Scripted
