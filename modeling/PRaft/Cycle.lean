import Mathlib

/-!
`cycle.py`: it runs `change_ycsb.py` three times, with `--duration` 10, 20 and 30, each for at
most twenty minutes. A child is polled every five seconds while it runs and its twenty minutes are
not over; one still running then gets `SIGTERM`, and `SIGKILL` when it has not exited ten seconds
later.

A child's behaviour is the world: the second after its start at which it exits by itself, if it
does, and whether it exits within ten seconds of `SIGTERM`. Time is ideal: the checks fall on the
multiples of five seconds after the start. Events carry the second after their child's start.
`cycleMain_events` says what the script does with each child.
-/

namespace PRaft.Cycle

/-- `BASE_CMD + ["--duration", str(dur)]`. -/
def childArgv (dur : ℕ) : List String :=
  ["python3", "change_ycsb.py", "--workload", "./workloads/workloada", "--duration", toString dur]

/-- `intervals`: the duration of each run and the seconds it may take. -/
def intervals : List (ℕ × ℕ) := [(10, 20 * 60), (20, 20 * 60), (30, 20 * 60)]

/-- How a child behaves: when it exits by itself, in seconds after its start, if it does, and
whether it exits within ten seconds of `SIGTERM`. -/
structure Child where
  exitsAt : Option ℕ
  exitsOnTerm : Bool

/-- `proc.poll() is None` at second `t`. -/
def Child.running (c : Child) (t : ℕ) : Bool := c.exitsAt.all (t < ·)

inductive CycleEvent
  | start (argv : List String)
  | terminate (second : ℕ)
  | kill (second : ℕ)
deriving DecidableEq, Repr

/-- The `while` loop, from the check at second `t` on: the second at which it stops. -/
def pollLoop (c : Child) (total : ℕ) : ℕ → ℕ → ℕ
  | 0, t => t
  | fuel + 1, t => if c.running t && decide (t < total) then pollLoop c total fuel (t + 5) else t

/-- One pass of the `for` loop: start the child, poll it, and end it if it still runs; after
`proc.kill()` the script does not wait. The loop makes at most `total / 5 + 1` checks. -/
def runInterval (c : Child) (dur total : ℕ) : List CycleEvent :=
  let t := pollLoop c total (total / 5 + 1) 0
  .start (childArgv dur) ::
    if c.running t then .terminate t :: (if c.exitsOnTerm then [] else [.kill (t + 10)]) else []

/-- The script, with `children i` the `i`-th child. -/
def cycleMain (children : ℕ → Child) : List CycleEvent :=
  intervals.enum.flatMap fun (i, dur, total) => runInterval (children i) dur total

/-! ### The polling loop -/

/-- The first check at or after second `total`, counting from a check at second `t`. -/
def nextCheck (t total : ℕ) : ℕ := if total ≤ t then t else t + 5 * ((total - t + 4) / 5)

theorem Child.running_anti (c : Child) {t t' : ℕ} (h : t ≤ t') (h' : c.running t' = true) :
    c.running t = true := by
  cases he : c.exitsAt <;> simp_all [Child.running]
  omega

/-- The loop stops at the first check at or after `total`, unless the child has exited by an
earlier check; so the child runs when the loop stops exactly when it runs at that first check,
and then the loop stopped there. -/
theorem pollLoop_spec (c : Child) (total : ℕ) :
    ∀ (fuel t : ℕ), total ≤ t + 5 * fuel →
      c.running (pollLoop c total fuel t) = c.running (nextCheck t total) ∧
        (c.running (pollLoop c total fuel t) = true → pollLoop c total fuel t = nextCheck t total)
  | 0, t, h => by
    have ht : nextCheck t total = t := if_pos (by omega)
    simp [pollLoop, ht]
  | fuel + 1, t, h => by
    by_cases hgo : c.running t = true ∧ t < total
    · have hnext : nextCheck (t + 5) total = nextCheck t total := by
        unfold nextCheck
        split_ifs <;> omega
      have hgo' : (c.running t && decide (t < total)) = true := by simp [hgo.1, hgo.2]
      simp only [pollLoop, hgo', if_true]
      rw [← hnext]
      exact pollLoop_spec c total fuel (t + 5) (by omega)
    · have hstop : (c.running t && decide (t < total)) = false := by
        simpa [Bool.and_eq_true] using hgo
      simp only [pollLoop, hstop, Bool.false_eq_true, if_false]
      by_cases hr : c.running t = true
      · have ht : nextCheck t total = t := if_pos (by simpa [hr] using hgo)
        simp [ht]
      · have hn : c.running (nextCheck t total) = false := by
          by_contra hn
          exact hr (c.running_anti (show t ≤ nextCheck t total by unfold nextCheck; split_ifs <;> omega)
            (by simpa using hn))
        simp [hr, hn]

theorem runInterval_twenty_minutes (c : Child) (dur : ℕ) :
    runInterval c dur 1200 =
      .start (childArgv dur) ::
        if c.running 1200 then .terminate 1200 :: (if c.exitsOnTerm then [] else [.kill 1210])
        else [] := by
  obtain ⟨hr, ht⟩ := pollLoop_spec c (20 * 60) (20 * 60 / 5 + 1) 0 (by norm_num)
  have h1200 : nextCheck 0 (20 * 60) = 1200 := by decide
  rw [h1200] at hr ht
  unfold runInterval
  dsimp only
  by_cases hrun : c.running 1200 = true
  · rw [ht (hr.trans hrun), if_pos hrun]
  · rw [hr, if_neg hrun, if_neg hrun]

/-- `cycle.py` runs its three children one after the other, with `--duration` 10, 20 and 30:
each is started once the one before has exited, been terminated or been killed. A child that
still runs 1200 seconds after its start gets `SIGTERM` at that second, and `SIGKILL` ten seconds
later when it ignores `SIGTERM`; a child that exits by itself before is left alone. The seconds
are those of ideal time, where every poll falls on a multiple of five seconds after the start;
the script's `time.sleep(5)` and `time.time()` drift from them. -/
theorem cycleMain_events (children : ℕ → Child) :
    cycleMain children = [0, 1, 2].flatMap fun i =>
      .start (childArgv (10 * (i + 1))) ::
        if (children i).running 1200 then
          .terminate 1200 :: if (children i).exitsOnTerm then [] else [.kill 1210]
        else [] := by
  simp [cycleMain, intervals, List.enum, runInterval_twenty_minutes]

end PRaft.Cycle
