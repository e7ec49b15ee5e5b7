import StartOnReady.Proofs.Scripted.Race

/-!
# Tasks can always finish

No task waits for another one: from every point of every run the tasks that are left can be finished
by their own acts alone, so that a run never gets stuck before `System.Settled` holds.
-/

namespace StartOnReady.Scripted.System

theorem move_of_found {s : System} {place : Nat} {task : Task}
    (found : s.tasks[place]? = some task) :
    (s.move (.advance place)).tasks = s.tasks.set place (task.advance s.shared).1 := by
  rw [move, found]

/-- Enough turns of one task finish it and leave the other tasks as they are. -/
theorem exists_turns (s : System) {place : Nat} {task : Task}
    (found : s.tasks[place]? = some task) :
    ∃ turns task', (s.run (List.replicate turns (.advance place))).tasks =
      s.tasks.set place task' ∧ task'.outcome?.isSome = true := by
  obtain ⟨event, rest, deeds⟩ := task
  induction rest generalizing s deeds with
  | done outcome => exact ⟨0, _, (set_eq_self found).symm, rfl⟩
  | ask act next ih =>
    have bound := (List.getElem?_eq_some_iff.1 found).1
    have moved := move_of_found found
    rcases act with a | call
    · obtain ⟨turns, task', same, finished⟩ := ih (access a s.shared).1
        (s.move (.advance place)) (deeds ++ [.performed a s.shared]) (by
          rw [moved, List.getElem?_set_self bound]
          rfl)
      refine ⟨turns + 1, task', ?_, finished⟩
      rw [List.replicate_succ, run_cons, same, moved, List.set_set]
    · obtain ⟨turns, task', same, finished⟩ := ih () (s.move (.advance place))
        (deeds ++ [.returned call]) (by
          rw [moved, List.getElem?_set_self bound]
          rfl)
      refine ⟨turns + 1, task', ?_, finished⟩
      rw [List.replicate_succ, run_cons, same, moved, List.set_set]

/-- From everywhere the tasks can be finished without any status being set. -/
theorem exists_run_finished (s : System) :
    ∃ moves : List Move, (∀ m ∈ moves, m.isSetting = false) ∧
      ∀ task ∈ (s.run moves).tasks, task.outcome?.isSome = true := by
  -- The tasks are finished one after the other, in the order of their places.
  have finish (n : Nat) : n ≤ s.tasks.length → ∃ moves : List Move,
      (∀ m ∈ moves, m.isSetting = false) ∧ (s.run moves).tasks.length = s.tasks.length ∧
        ∀ place < n, ∀ task, (s.run moves).tasks[place]? = some task →
          task.outcome?.isSome = true := by
    induction n with
    | zero => exact fun _ => ⟨[], nofun, rfl, nofun⟩
    | succ n ih =>
      intro bound
      obtain ⟨moves, advancing, length, finished⟩ := ih (Nat.le_of_succ_le bound)
      have inside : n < (s.run moves).tasks.length := by omega
      obtain ⟨turns, task', same, done⟩ := exists_turns _ (List.getElem?_eq_getElem inside)
      refine ⟨moves ++ List.replicate turns (.advance n), ?_, ?_, ?_⟩
      · intro m mem
        rcases List.mem_append.1 mem with mem | mem
        · exact advancing m mem
        · rw [List.eq_of_mem_replicate mem, Move.isSetting]
      · rw [run_append, same, List.length_set, length]
      · intro place here task found
        rw [run_append, same] at found
        by_cases last : n = place
        · subst last
          rw [List.getElem?_set_self inside] at found
          cases found
          exact done
        · rw [List.getElem?_set_ne last] at found
          exact finished place (by omega) task found
  obtain ⟨moves, advancing, length, finished⟩ := finish _ (Nat.le_refl _)
  refine ⟨moves, advancing, fun task mem => ?_⟩
  obtain ⟨place, inside, rfl⟩ := List.mem_iff_getElem.1 mem
  exact finished place (by omega) _ (List.getElem?_eq_getElem inside)

end StartOnReady.Scripted.System
