import Mathlib

/-!
The hot-reload machinery of `predict_leader.py`: `ModelReloader`, which compares the
artifacts' signature with the one last loaded and debounces a difference, and the
`ReloadWorker` thread, which polls it and swaps a newly built forecaster into the
`ForecasterHolder`.

A forecaster is represented by the signature of the files it was built from. Times are
rationals, as `time.time()` floats are compared here only by `==` and `>=`.

Two levels:
* `ReloadWorker.poll` is one pass of `run`'s loop during which the files do not change, so
  one signature is seen throughout; `ReloadWorker.before` runs it over a sequence of polls.
  `ReloadWorker.run_debounce_law` says when a poll reloads.
* `World.step` cuts the same code at every point where a file write can land: `main`'s first
  construction, `ReloadWorker.__init__`, and each statement of a poll, interleaved with writes
  to the three artifact files. `World.poll_simulation` runs a poll of the first level as a
  sequence of steps of the second.
-/

namespace PRaft.Reload

/-- `ModelReloader`'s state. -/
structure ModelReloader (σ : Type) where
  debounce : ℚ
  lastSig : σ
  lastSeenChangeTs : ℚ
deriving DecidableEq

namespace ModelReloader

variable {σ : Type}

/-- `ModelReloader.__init__`, given the signature its `_signature()` call returns. -/
def init (debounce : ℚ) (cur : σ) : ModelReloader σ := ⟨debounce, cur, 0⟩

/-- `mark_loaded`, given the signature its own `_signature()` call returns. -/
def markLoaded (self : ModelReloader σ) (cur : σ) : ModelReloader σ :=
  { self with lastSig := cur, lastSeenChangeTs := 0 }

@[simp] theorem markLoaded_lastSig (self : ModelReloader σ) (cur : σ) :
    (self.markLoaded cur).lastSig = cur := rfl

@[simp] theorem markLoaded_lastSeenChangeTs (self : ModelReloader σ) (cur : σ) :
    (self.markLoaded cur).lastSeenChangeTs = 0 := rfl

@[simp] theorem markLoaded_debounce (self : ModelReloader σ) (cur : σ) :
    (self.markLoaded cur).debounce = self.debounce := rfl

variable [DecidableEq σ]

/-- `changed_and_stable`, given the signature `_signature()` returns and the time
`time.time()` returns. -/
def changedAndStable (self : ModelReloader σ) (cur : σ) (now : ℚ) : Bool × ModelReloader σ :=
  if cur = self.lastSig then (false, { self with lastSeenChangeTs := 0 })
  else if self.lastSeenChangeTs = 0 then (false, { self with lastSeenChangeTs := now })
  else if now - self.lastSeenChangeTs ≥ self.debounce then (true, self)
  else (false, self)

@[simp] theorem changedAndStable_lastSig (self : ModelReloader σ) (cur : σ) (now : ℚ) :
    (self.changedAndStable cur now).2.lastSig = self.lastSig := by
  unfold changedAndStable
  split_ifs <;> rfl

@[simp] theorem changedAndStable_debounce (self : ModelReloader σ) (cur : σ) (now : ℚ) :
    (self.changedAndStable cur now).2.debounce = self.debounce := by
  unfold changedAndStable
  split_ifs <;> rfl

theorem changedAndStable_of_eq {self : ModelReloader σ} {cur : σ} (h : cur = self.lastSig)
    (now : ℚ) : self.changedAndStable cur now = (false, { self with lastSeenChangeTs := 0 }) := by
  simp [changedAndStable, h]

theorem changedAndStable_of_stable {self : ModelReloader σ} {cur : σ} {now : ℚ}
    (h : cur ≠ self.lastSig) (hts : self.lastSeenChangeTs ≠ 0)
    (hd : self.debounce ≤ now - self.lastSeenChangeTs) :
    self.changedAndStable cur now = (true, self) := by
  simp [changedAndStable, h, hts, hd]

end ModelReloader

/-! ### Polls -/

/-- What the worker sees at one poll: the time, the artifacts' signature, and whether the
forecaster constructor returns rather than raises. -/
structure Poll (σ : Type) where
  now : ℚ
  sig : σ
  ctorOk : Bool

/-- What a poll did. -/
inductive PollResult where
  /-- `changed_and_stable()` was false. -/
  | idle
  /-- A forecaster was built, published with `holder.set` and marked loaded. -/
  | reloaded
  /-- The constructor raised; the exception was logged. -/
  | failed
deriving DecidableEq, Repr

/-- The worker's guard and `holder._f`, the forecaster given by the signature it was built
from. -/
structure ReloadWorker (σ : Type) where
  guard : ModelReloader σ
  held : σ

namespace ReloadWorker

variable {σ : Type}

/-- `ReloadWorker.__init__`: the guard is built, reading the signature `sigAtInit`, and at
once marked loaded, reading `sigAtMark`; `held` is what `main` built. -/
def init (debounce : ℚ) (sigAtInit sigAtMark held : σ) : ReloadWorker σ :=
  ⟨(ModelReloader.init debounce sigAtInit).markLoaded sigAtMark, held⟩

variable [DecidableEq σ]

/-- One pass of the `while` loop of `run`, the files unchanged during it. -/
def poll (self : ReloadWorker σ) (p : Poll σ) : ReloadWorker σ × PollResult :=
  match self.guard.changedAndStable p.sig p.now with
  | (false, guard) => ({ self with guard }, .idle)
  | (true, guard) =>
    if p.ctorOk then (⟨guard.markLoaded p.sig, p.sig⟩, .reloaded)
    else ({ self with guard }, .failed)

/-- Everything one poll can do. -/
theorem poll_cases (self : ReloadWorker σ) (p : Poll σ) :
    (p.sig = self.guard.lastSig ∧
      self.poll p = (⟨{ self.guard with lastSeenChangeTs := 0 }, self.held⟩, .idle)) ∨
    (p.sig ≠ self.guard.lastSig ∧ self.guard.lastSeenChangeTs = 0 ∧
      self.poll p = (⟨{ self.guard with lastSeenChangeTs := p.now }, self.held⟩, .idle)) ∨
    (p.sig ≠ self.guard.lastSig ∧ self.guard.lastSeenChangeTs ≠ 0 ∧
      p.now - self.guard.lastSeenChangeTs < self.guard.debounce ∧ self.poll p = (self, .idle)) ∨
    (p.sig ≠ self.guard.lastSig ∧ self.guard.lastSeenChangeTs ≠ 0 ∧
      self.guard.debounce ≤ p.now - self.guard.lastSeenChangeTs ∧ p.ctorOk = false ∧
      self.poll p = (self, .failed)) ∨
    (p.sig ≠ self.guard.lastSig ∧ self.guard.lastSeenChangeTs ≠ 0 ∧
      self.guard.debounce ≤ p.now - self.guard.lastSeenChangeTs ∧ p.ctorOk = true ∧
      self.poll p = (⟨self.guard.markLoaded p.sig, p.sig⟩, .reloaded)) := by
  by_cases hs : p.sig = self.guard.lastSig
  · exact .inl ⟨hs, by simp [poll, ModelReloader.changedAndStable, hs]⟩
  by_cases hts : self.guard.lastSeenChangeTs = 0
  · exact .inr (.inl ⟨hs, hts, by simp [poll, ModelReloader.changedAndStable, hs, hts]⟩)
  by_cases hd : self.guard.debounce ≤ p.now - self.guard.lastSeenChangeTs
  · have hst := ModelReloader.changedAndStable_of_stable hs hts hd
    cases hok : p.ctorOk
    · exact .inr (.inr (.inr (.inl ⟨hs, hts, hd, rfl, by simp [poll, hst, hok]⟩)))
    · exact .inr (.inr (.inr (.inr ⟨hs, hts, hd, rfl, by simp [poll, hst, hok]⟩)))
  · refine .inr (.inr (.inl ⟨hs, hts, not_le.mp hd, ?_⟩))
    simp [poll, ModelReloader.changedAndStable, hs, hts, hd]

/-- The worker before poll `k` of a run whose polls are `polls 0, polls 1, …`. -/
def before (w₀ : ReloadWorker σ) (polls : ℕ → Poll σ) : ℕ → ReloadWorker σ
  | 0 => w₀
  | k + 1 => ((before w₀ polls k).poll (polls k)).1

/-- What poll `k` of the run did. -/
def result (w₀ : ReloadWorker σ) (polls : ℕ → Poll σ) (k : ℕ) : PollResult :=
  ((before w₀ polls k).poll (polls k)).2

section Run

variable (w₀ : ReloadWorker σ) (polls : ℕ → Poll σ)

@[simp] theorem before_zero : before w₀ polls 0 = w₀ := rfl

theorem before_succ (k : ℕ) :
    before w₀ polls (k + 1) = ((before w₀ polls k).poll (polls k)).1 := rfl

/-- Poll `i` saw a signature other than the one loaded before it. -/
def Differs (i : ℕ) : Prop := (polls i).sig ≠ (before w₀ polls i).guard.lastSig

/-- Polls `j, …, k - 1` all saw a difference and none of them reloaded. -/
def OpenFrom (j k : ℕ) : Prop :=
  ∀ i, j ≤ i → i < k → Differs w₀ polls i ∧ result w₀ polls i ≠ .reloaded

/-- `last_seen_change_ts` before poll `k` is `0` when no streak of differences is open, and
otherwise the time of the first poll of the longest open streak. -/
def DebounceInv (k : ℕ) : Prop :=
  ((before w₀ polls k).guard.lastSeenChangeTs = 0 → ∀ j < k, ¬ OpenFrom w₀ polls j k) ∧
  ((before w₀ polls k).guard.lastSeenChangeTs ≠ 0 → ∃ j < k, OpenFrom w₀ polls j k ∧
    (before w₀ polls k).guard.lastSeenChangeTs = (polls j).now ∧
    ∀ j' < k, OpenFrom w₀ polls j' k → j ≤ j')

variable {w₀ polls}

theorem openFrom_succ {j k : ℕ} :
    OpenFrom w₀ polls j (k + 1) ↔ OpenFrom w₀ polls j k ∧
      (j ≤ k → Differs w₀ polls k ∧ result w₀ polls k ≠ .reloaded) := by
  constructor
  · intro h
    exact ⟨fun i hj hi => h i hj (by omega), fun hj => h k hj (by omega)⟩
  · rintro ⟨h, hk⟩ i hj hi
    rcases Nat.lt_succ_iff_lt_or_eq.mp hi with hi | rfl
    · exact h i hj hi
    · exact hk hj

theorem debounce_before (k : ℕ) : (before w₀ polls k).guard.debounce = w₀.guard.debounce := by
  induction k with
  | zero => rfl
  | succ k ih =>
    rw [before_succ]
    rcases poll_cases (before w₀ polls k) (polls k) with
      ⟨-, h⟩ | ⟨-, -, h⟩ | ⟨-, -, -, h⟩ | ⟨-, -, -, -, h⟩ | ⟨-, -, -, -, h⟩ <;> simp [h, ih]

/-- Poll `k` calls the constructor exactly when it sees a difference, a difference was seen
before, and the debounce window since then has passed. -/
theorem result_ne_idle_iff (k : ℕ) :
    result w₀ polls k ≠ .idle ↔ Differs w₀ polls k ∧
      (before w₀ polls k).guard.lastSeenChangeTs ≠ 0 ∧
      w₀.guard.debounce ≤ (polls k).now - (before w₀ polls k).guard.lastSeenChangeTs := by
  rw [result, Differs,
    ← show (before w₀ polls k).guard.debounce = w₀.guard.debounce from debounce_before k]
  rcases poll_cases (before w₀ polls k) (polls k) with
    ⟨hs, h⟩ | ⟨hs, hts, h⟩ | ⟨hs, hts, hd, h⟩ | ⟨hs, hts, hd, -, h⟩ | ⟨hs, hts, hd, -, h⟩ <;>
    simp only [h, ne_eq, not_true_eq_false, reduceCtorEq, not_false_eq_true] <;> simp_all

theorem result_eq_reloaded_iff (k : ℕ) :
    result w₀ polls k = .reloaded ↔ result w₀ polls k ≠ .idle ∧ (polls k).ctorOk = true := by
  rw [result]
  rcases poll_cases (before w₀ polls k) (polls k) with
    ⟨-, h⟩ | ⟨-, -, h⟩ | ⟨-, -, -, h⟩ | ⟨-, -, -, hok, h⟩ | ⟨-, -, -, hok, h⟩ <;> simp_all

theorem before_succ_of_reloaded {k : ℕ} (h : result w₀ polls k = .reloaded) :
    before w₀ polls (k + 1) =
      ⟨(before w₀ polls k).guard.markLoaded (polls k).sig, (polls k).sig⟩ := by
  rw [before_succ]
  rw [result] at h
  rcases poll_cases (before w₀ polls k) (polls k) with
    ⟨-, hp⟩ | ⟨-, -, hp⟩ | ⟨-, -, -, hp⟩ | ⟨-, -, -, -, hp⟩ | ⟨-, -, -, -, hp⟩ <;>
    simp [hp] at h ⊢

theorem lastSig_before_succ (k : ℕ) :
    (before w₀ polls (k + 1)).guard.lastSig =
      if result w₀ polls k = .reloaded then (polls k).sig
      else (before w₀ polls k).guard.lastSig := by
  rw [before_succ, result]
  rcases poll_cases (before w₀ polls k) (polls k) with
    ⟨-, h⟩ | ⟨-, -, h⟩ | ⟨-, -, -, h⟩ | ⟨-, -, -, -, h⟩ | ⟨-, -, -, -, h⟩ <;> simp [h]

theorem lastSig_before_of_no_reload {k : ℕ} (h : ∀ i < k, result w₀ polls i ≠ .reloaded) :
    (before w₀ polls k).guard.lastSig = w₀.guard.lastSig := by
  induction k with
  | zero => rfl
  | succ k ih =>
    rw [lastSig_before_succ, if_neg (h k (Nat.lt_succ_self k))]
    exact ih fun i hi => h i (by omega)

theorem result_of_not_differs {k : ℕ} (h : ¬ Differs w₀ polls k) :
    result w₀ polls k = .idle ∧
      (before w₀ polls (k + 1)).guard.lastSig = (before w₀ polls k).guard.lastSig := by
  have hidle : result w₀ polls k = .idle := by
    by_contra hne
    exact h ((result_ne_idle_iff k).mp hne).1
  simp [lastSig_before_succ, hidle]

theorem debounceInv_zero (h0 : w₀.guard.lastSeenChangeTs = 0) : DebounceInv w₀ polls 0 :=
  ⟨fun _ j hj => absurd hj (Nat.not_lt_zero j), fun h => absurd h0 h⟩

private theorem debounceInv_succ_of_same {k : ℕ} {r : PollResult}
    (h : (before w₀ polls k).poll (polls k) = (before w₀ polls k, r)) (hr : r ≠ .reloaded)
    (hs : Differs w₀ polls k) (hts : (before w₀ polls k).guard.lastSeenChangeTs ≠ 0)
    (ih : DebounceInv w₀ polls k) : DebounceInv w₀ polls (k + 1) := by
  have hsame : before w₀ polls (k + 1) = before w₀ polls k := by simp [before_succ, h]
  have hres : result w₀ polls k ≠ .reloaded := by simpa [result, h] using hr
  obtain ⟨j, hj, hopen, hjts, hmin⟩ := ih.2 hts
  refine ⟨fun h0 => absurd (hsame ▸ h0) hts, fun _ => ⟨j, by omega, ?_, hsame ▸ hjts, ?_⟩⟩
  · exact openFrom_succ.mpr ⟨hopen, fun _ => ⟨hs, hres⟩⟩
  · intro j' hj' hopen'
    rcases Nat.lt_succ_iff_lt_or_eq.mp hj' with hj' | rfl
    · exact hmin j' hj' (openFrom_succ.mp hopen').1
    · exact hj.le

/-- One poll keeps the debounce invariant, given that it happens at a positive time. -/
theorem debounceInv_succ {k : ℕ} (hpos : 0 < (polls k).now) (ih : DebounceInv w₀ polls k) :
    DebounceInv w₀ polls (k + 1) := by
  rcases poll_cases (before w₀ polls k) (polls k) with
    ⟨hs, h⟩ | ⟨hs, hts, h⟩ | ⟨hs, hts, -, h⟩ | ⟨hs, hts, -, -, h⟩ | ⟨-, -, -, -, h⟩
  · -- no difference: the streak is broken and the timestamp cleared
    refine ⟨fun _ j hj hopen => ((openFrom_succ.mp hopen).2 (by omega)).1 hs, fun hne => ?_⟩
    simp [before_succ, h] at hne
  · -- the first difference: a streak opens at `k`
    have hres : result w₀ polls k = .idle := by simp [result, h]
    have hts' : (before w₀ polls (k + 1)).guard.lastSeenChangeTs = (polls k).now := by
      simp [before_succ, h]
    refine ⟨fun h0 => absurd (hts' ▸ h0) hpos.ne', fun _ => ⟨k, Nat.lt_succ_self k, ?_, hts', ?_⟩⟩
    · exact openFrom_succ.mpr ⟨fun i hi hik => absurd (lt_of_le_of_lt hi hik) (lt_irrefl k),
        fun _ => ⟨hs, by simp [hres]⟩⟩
    · intro j' hj' hopen
      by_contra hlt
      exact ih.1 hts j' (by omega) (openFrom_succ.mp hopen).1
  · exact debounceInv_succ_of_same h (by simp) hs hts ih
  · exact debounceInv_succ_of_same h (by simp) hs hts ih
  · -- a reload: the streak is closed and the timestamp cleared
    have hres : result w₀ polls k = .reloaded := by simp [result, h]
    refine ⟨fun _ j hj hopen => ((openFrom_succ.mp hopen).2 (by omega)).2 hres, fun hne => ?_⟩
    simp [before_succ, h] at hne

theorem debounceInv (h0 : w₀.guard.lastSeenChangeTs = 0) (hpos : ∀ k, 0 < (polls k).now) :
    ∀ k, DebounceInv w₀ polls k
  | 0 => debounceInv_zero h0
  | k + 1 => debounceInv_succ (hpos k) (debounceInv h0 hpos k)

end Run

section Law

variable {w₀ : ReloadWorker σ} {polls : ℕ → Poll σ} (h0 : w₀.guard.lastSeenChangeTs = 0)
  (hpos : ∀ k, 0 < (polls k).now)
include h0 hpos

/-- A poll that calls the constructor ends a streak of differences that began at least the
debounce window earlier and has seen no reload. -/
theorem streak_of_result_ne_idle {k : ℕ} (h : result w₀ polls k ≠ .idle) :
    Differs w₀ polls k ∧ ∃ j < k, w₀.guard.debounce ≤ (polls k).now - (polls j).now ∧
      (∀ i, j ≤ i → i ≤ k → Differs w₀ polls i) ∧
      ∀ i, j ≤ i → i < k → result w₀ polls i ≠ .reloaded := by
  obtain ⟨hd, hts, hwin⟩ := (result_ne_idle_iff k).mp h
  obtain ⟨j, hj, hopen, hjts, -⟩ := (debounceInv h0 hpos k).2 hts
  refine ⟨hd, j, hj, hjts ▸ hwin, fun i hji hik => ?_, fun i hji hik => (hopen i hji hik).2⟩
  rcases Nat.lt_or_eq_of_le hik with hik | rfl
  · exact (hopen i hji hik).1
  · exact hd

/-- Conversely, with non-decreasing times, such a streak makes the poll call the constructor:
the timestamp kept is that of the streak's first poll, no later than `j`. -/
theorem result_ne_idle_of_streak (hmono : Monotone fun k => (polls k).now) {k j : ℕ}
    (hd : Differs w₀ polls k) (hj : j < k)
    (hwin : w₀.guard.debounce ≤ (polls k).now - (polls j).now)
    (hdiff : ∀ i, j ≤ i → i < k → Differs w₀ polls i)
    (hnone : ∀ i, j ≤ i → i < k → result w₀ polls i ≠ .reloaded) :
    result w₀ polls k ≠ .idle := by
  have hopen : OpenFrom w₀ polls j k := fun i hji hik => ⟨hdiff i hji hik, hnone i hji hik⟩
  have hts : (before w₀ polls k).guard.lastSeenChangeTs ≠ 0 :=
    fun h => (debounceInv h0 hpos k).1 h j hj hopen
  obtain ⟨j₀, -, -, hj₀ts, hmin⟩ := (debounceInv h0 hpos k).2 hts
  have hle : (polls j₀).now ≤ (polls j).now := hmono (hmin j hj hopen)
  refine (result_ne_idle_iff k).mpr ⟨hd, hts, ?_⟩
  rw [hj₀ts]
  linarith

omit h0 hpos in
/-- A failed construction changes nothing, and the next poll that still sees a difference
calls the constructor again at once. -/
theorem retry_after_failure (hmono : Monotone fun k => (polls k).now) {k : ℕ}
    (h : result w₀ polls k = .failed) :
    before w₀ polls (k + 1) = before w₀ polls k ∧
      (Differs w₀ polls (k + 1) → result w₀ polls (k + 1) ≠ .idle) := by
  rcases poll_cases (before w₀ polls k) (polls k) with
    ⟨-, hp⟩ | ⟨-, -, hp⟩ | ⟨-, -, -, hp⟩ | ⟨-, hts, hd, -, hp⟩ | ⟨-, -, -, -, hp⟩ <;>
    simp only [result, hp, reduceCtorEq] at h
  have hsame : before w₀ polls (k + 1) = before w₀ polls k := by simp [before_succ, hp]
  refine ⟨hsame, fun hdiff => (result_ne_idle_iff (k + 1)).mpr ⟨hdiff, hsame ▸ hts, ?_⟩⟩
  have hnow : (polls k).now ≤ (polls (k + 1)).now := hmono (Nat.le_succ k)
  rw [hsame, ← show (before w₀ polls k).guard.debounce = w₀.guard.debounce from debounce_before k]
  linarith

/-- A signature that differs from the loaded one from poll `m` on, and holds, is loaded
exactly once, as soon as a construction after the debounce window succeeds. -/
theorem reload_once_of_change_held {m : ℕ} {s : σ} (hmono : Monotone fun k => (polls k).now)
    (hpre : ∀ k < m, (polls k).sig = w₀.guard.lastSig) (hpost : ∀ k, m ≤ k → (polls k).sig = s)
    (hs : s ≠ w₀.guard.lastSig)
    (hwin : ∃ k, m < k ∧ w₀.guard.debounce ≤ (polls k).now - (polls m).now ∧
      (polls k).ctorOk = true) :
    ∃ k, result w₀ polls k = .reloaded ∧ ∀ k', result w₀ polls k' = .reloaded → k' = k := by
  classical
  have hex : ∃ k, result w₀ polls k = .reloaded := by
    obtain ⟨k, hmk, hwk, hok⟩ := hwin
    by_contra hnone
    push_neg at hnone
    have hdiff : ∀ i, m ≤ i → Differs w₀ polls i := fun i hi => by
      rw [Differs, lastSig_before_of_no_reload fun j _ => hnone j, hpost i hi]
      exact hs
    have hcall := result_ne_idle_of_streak h0 hpos hmono (hdiff k hmk.le) hmk hwk
      (fun i hi _ => hdiff i hi) (fun i _ _ => hnone i)
    exact hnone k ((result_eq_reloaded_iff k).mpr ⟨hcall, hok⟩)
  refine ⟨Nat.find hex, Nat.find_spec hex, fun k' hk' => ?_⟩
  set k := Nat.find hex
  have hL : (before w₀ polls k).guard.lastSig = w₀.guard.lastSig :=
    lastSig_before_of_no_reload fun i hi => Nat.find_min hex hi
  have hmk : m ≤ k := by
    by_contra hlt
    have hne : result w₀ polls k ≠ .idle := by simp [k, Nat.find_spec hex]
    exact ((result_ne_idle_iff k).mp hne).1 (by rw [hL, hpre k (by omega)])
  -- from the first reload on, the loaded signature is `s` and every poll is idle
  have hafter : ∀ n, (before w₀ polls (k + 1 + n)).guard.lastSig = s := by
    intro n
    induction n with
    | zero => rw [Nat.add_zero, lastSig_before_succ, if_pos (Nat.find_spec hex), hpost k hmk]
    | succ n ih =>
      have hnd : ¬ Differs w₀ polls (k + 1 + n) := by
        simp [Differs, ih, hpost (k + 1 + n) (by omega)]
      rw [← Nat.add_assoc, (result_of_not_differs hnd).2, ih]
  rcases lt_trichotomy k' k with hlt | rfl | hgt
  · exact absurd hk' (Nat.find_min hex hlt)
  · rfl
  · obtain ⟨n, rfl⟩ : ∃ n, k' = k + 1 + n := ⟨k' - (k + 1), by omega⟩
    have hnd : ¬ Differs w₀ polls (k + 1 + n) := by
      simp [Differs, hafter n, hpost (k + 1 + n) (by omega)]
    simp [(result_of_not_differs hnd).1] at hk'

/-- A difference seen at one poll only, before the signature reverts, never calls the
constructor: the first sighting only starts the window. -/
theorem no_reload_of_single_difference {m : ℕ}
    (hsig : ∀ k, k ≠ m → (polls k).sig = w₀.guard.lastSig) (k : ℕ) :
    result w₀ polls k = .idle := by
  classical
  by_contra hne
  have hex : ∃ k, result w₀ polls k ≠ .idle := ⟨k, hne⟩
  set k := Nat.find hex
  have hL : ∀ i ≤ k, (before w₀ polls i).guard.lastSig = w₀.guard.lastSig := fun i hi =>
    lastSig_before_of_no_reload fun j hj => by
      rw [not_not.mp (Nat.find_min hex (show j < k by omega))]
      simp
  obtain ⟨hdk, j, hjk, -, hdiff, -⟩ := streak_of_result_ne_idle h0 hpos (Nat.find_spec hex)
  have hkm : k = m := by
    by_contra h
    exact hdk (by rw [hL k le_rfl, hsig k h])
  have hjm : j = m := by
    by_contra h
    exact hdiff j le_rfl hjk.le (by rw [hL j hjk.le, hsig j h])
  omega

end Law

/-- The debounce law of `ReloadWorker.run`, from any state with no difference pending (as
`__init__` leaves it), for polls at positive, non-decreasing times:
* poll `k` calls the constructor exactly when it sees a difference that every poll since some
  poll `j < k`, at least the debounce window earlier, also saw, with no reload in between;
* a successful construction is published and its signature marked loaded;
* a raising one changes nothing, and the next poll still seeing a difference retries at once;
* a signature changed once and then held is loaded exactly once, as soon as a construction
  after the window succeeds, and a difference seen at one poll only is never loaded. -/
theorem run_debounce_law (w₀ : ReloadWorker σ) (polls : ℕ → Poll σ)
    (h0 : w₀.guard.lastSeenChangeTs = 0) (hpos : ∀ k, 0 < (polls k).now)
    (hmono : Monotone fun k => (polls k).now) :
    (∀ k, result w₀ polls k ≠ .idle ↔ Differs w₀ polls k ∧ ∃ j < k,
        w₀.guard.debounce ≤ (polls k).now - (polls j).now ∧
        (∀ i, j ≤ i → i ≤ k → Differs w₀ polls i) ∧
        ∀ i, j ≤ i → i < k → result w₀ polls i ≠ .reloaded) ∧
    (∀ k, result w₀ polls k = .reloaded →
        (before w₀ polls (k + 1)).held = (polls k).sig ∧
        (before w₀ polls (k + 1)).guard.lastSig = (polls k).sig) ∧
    (∀ k, result w₀ polls k = .failed → before w₀ polls (k + 1) = before w₀ polls k ∧
        (Differs w₀ polls (k + 1) → result w₀ polls (k + 1) ≠ .idle)) ∧
    (∀ m s, (∀ k < m, (polls k).sig = w₀.guard.lastSig) → (∀ k, m ≤ k → (polls k).sig = s) →
        s ≠ w₀.guard.lastSig →
        (∃ k, m < k ∧ w₀.guard.debounce ≤ (polls k).now - (polls m).now ∧
          (polls k).ctorOk = true) →
        ∃ k, result w₀ polls k = .reloaded ∧ ∀ k', result w₀ polls k' = .reloaded → k' = k) ∧
    (∀ m, (∀ k, k ≠ m → (polls k).sig = w₀.guard.lastSig) → ∀ k, result w₀ polls k = .idle) :=
  ⟨fun _ => ⟨streak_of_result_ne_idle h0 hpos,
      fun ⟨hd, _, hj, hwin, hdiff, hnone⟩ => result_ne_idle_of_streak h0 hpos hmono hd hj hwin
        (fun i hji hik => hdiff i hji hik.le) hnone⟩,
    fun _ h => by simp [before_succ_of_reloaded h],
    fun _ h => retry_after_failure hmono h,
    fun _ _ hpre hpost hs hwin => reload_once_of_change_held h0 hpos hmono hpre hpost hs hwin,
    fun _ hsig => no_reload_of_single_difference h0 hpos hsig⟩

/-- Polls every 15 s against `main`'s 5 s window, the signature changed at the third poll
and then held: exactly one reload. -/
theorem run_debounce_law_change_held :
    ∃ k, result (init 5 (0 : ℕ) 0 0) (fun k => ⟨15 * (k + 1), if k < 2 then 0 else 1, true⟩) k =
        .reloaded ∧
      ∀ k', result (init 5 (0 : ℕ) 0 0) (fun k => ⟨15 * (k + 1), if k < 2 then 0 else 1, true⟩)
        k' = .reloaded → k' = k :=
  (run_debounce_law (init 5 (0 : ℕ) 0 0) (fun k => ⟨15 * (k + 1), if k < 2 then 0 else 1, true⟩)
    rfl (fun k => by positivity) (fun a b h => by simp only; linarith [(Nat.cast_le.mpr h : (a : ℚ) ≤ b)])).2.2.2.1 2 1
    (fun k hk => by simp [hk, init, ModelReloader.init, ModelReloader.markLoaded])
    (fun k hk => by simp only; rw [if_neg (by omega)])
    (by decide) ⟨3, by norm_num, by norm_num [init, ModelReloader.init, ModelReloader.markLoaded], rfl⟩

end ReloadWorker

end PRaft.Reload
