import PRaft.Reload

/-!
The reload machinery interleaved with writes to the artifact files. `train.py` writes the
model, the scaler and the meta file one after another, and each write changes one entry of
the signature `_signature()` returns. The code is cut wherever such a write can land between
two reads of the files: `main`'s first `Forecaster(...)`, `ModelReloader(...)` and
`mark_loaded()` in `ReloadWorker.__init__`, and in each poll `changed_and_stable()`, the
constructor reading the three files, `holder.set` and `mark_loaded()`.

`World.Synced` says that a loaded signature equal to the files on disk is the signature the
held forecaster was built from. `World.mark_after_write_desyncs` breaks it by one write inside
a poll, after which the new files are never loaded while they stay; `World.synced_of_safeReach`
keeps it in every interleaving where no write lands between a read of the files and the
`mark_loaded` that records them. `World.poll_simulation` runs a poll of `ReloadWorker` as
steps of the world.
-/

namespace PRaft.Reload

/-- The three files `_signature()` reads. -/
inductive Artifact where
  | model
  | scaler
  | meta
deriving DecidableEq, Repr

/-- `_signature()`: each file's `st_mtime` (or hash), `none` for a missing file. -/
structure Signature (τ : Type) where
  model : Option τ
  scaler : Option τ
  meta : Option τ
deriving DecidableEq, Repr

variable {τ : Type}

/-- The signature after a write that gives file `a` the signature `v`. -/
def Signature.update (s : Signature τ) : Artifact → Option τ → Signature τ
  | .model, v => { s with model := v }
  | .scaler, v => { s with scaler := v }
  | .meta, v => { s with meta := v }

/-- Where `main`'s start-up and the worker thread are. -/
inductive Pc (σ : Type) where
  /-- `main` has not built its first forecaster. -/
  | boot
  /-- `Forecaster(...)` returned in `main` and the holder is made; `ReloadWorker(...)` has
  not run. -/
  | loaded
  /-- `ModelReloader(...)` is built in `ReloadWorker.__init__`; `mark_loaded` has not run. -/
  | guarded
  /-- The worker waits for its next poll. -/
  | polling
  /-- `changed_and_stable()` returned `True`. -/
  | stable
  /-- `self.ctor()` returned a forecaster built from files with signature `fnew`. -/
  | built (fnew : σ)
  /-- `self.holder.set(fnew)` is done. -/
  | published (fnew : σ)
deriving DecidableEq

/-- The program points between a read of the files and the `mark_loaded` that records the
signature. -/
def Pc.inWindow {σ : Type} : Pc σ → Bool
  | .loaded | .guarded | .built _ | .published _ => true
  | .boot | .polling | .stable => false

/-- One move of an interleaving: a write to an artifact, or the next statement of the code. -/
inductive Step (τ : Type) where
  | write (a : Artifact) (v : Option τ)
  | initialLoad (ok : Bool)
  | initGuard
  | initMark
  | check (now : ℚ)
  | construct (ok : Bool)
  | set
  | mark

def Step.isWrite : Step τ → Bool
  | .write _ _ => true
  | _ => false

/-- The files, the program point, the worker's guard once built, and the signature of the
files the held forecaster was built from, once `main` has one. -/
structure World (τ : Type) where
  files : Signature τ
  pc : Pc (Signature τ)
  guard : Option (ModelReloader (Signature τ))
  held : Option (Signature τ)

namespace World

variable [DecidableEq τ]

/-- Start-up, with the files as they are. -/
def boot (files : Signature τ) : World τ := ⟨files, .boot, none, none⟩

/-- One move, or `none` when the statement is not the next one of the code. `debounce` is the
`debounce_sec` that `main` passes to the worker. -/
def step (debounce : ℚ) (w : World τ) : Step τ → Option (World τ)
  | .write a v => some { w with files := w.files.update a v }
  | .initialLoad ok => match w.pc with
    | .boot => some (if ok then { w with pc := .loaded, held := some w.files } else w)
    | _ => none
  | .initGuard => match w.pc with
    | .loaded => some { w with pc := .guarded, guard := some (ModelReloader.init debounce w.files) }
    | _ => none
  | .initMark => match w.pc, w.guard with
    | .guarded, some g => some { w with pc := .polling, guard := some (g.markLoaded w.files) }
    | _, _ => none
  | .check now => match w.pc, w.guard with
    | .polling, some g =>
      some { w with
        pc := if (g.changedAndStable w.files now).1 then .stable else .polling
        guard := some (g.changedAndStable w.files now).2 }
    | _, _ => none
  | .construct ok => match w.pc with
    | .stable => some { w with pc := if ok then .built w.files else .polling }
    | _ => none
  | .set => match w.pc with
    | .built f => some { w with pc := .published f, held := some f }
    | _ => none
  | .mark => match w.pc, w.guard with
    | .published _, some g => some { w with pc := .polling, guard := some (g.markLoaded w.files) }
    | _, _ => none

/-- A run of moves. -/
def run (debounce : ℚ) (w : World τ) (steps : List (Step τ)) : Option (World τ) :=
  steps.foldlM (step debounce) w

@[simp] theorem run_nil (d : ℚ) (w : World τ) : run d w [] = some w := rfl

theorem run_cons (d : ℚ) (w : World τ) (s : Step τ) (steps : List (Step τ)) :
    run d w (s :: steps) = (w.step d s).bind fun w' => run d w' steps := rfl

/-- A loaded signature equal to the files on disk is the one the held forecaster was built
from. -/
def Synced (w : World τ) : Prop :=
  ∀ g, w.guard = some g → g.lastSig = w.files → w.held = some w.files

/-- Everything one move can do. -/
theorem step_cases {d : ℚ} {w w' : World τ} {s : Step τ} (h : w.step d s = some w') :
    (∃ a v, s = .write a v ∧ w' = { w with files := w.files.update a v }) ∨
    (∃ ok, s = .initialLoad ok ∧ w.pc = .boot ∧
      w' = if ok then { w with pc := .loaded, held := some w.files } else w) ∨
    (s = .initGuard ∧ w.pc = .loaded ∧
      w' = { w with pc := .guarded, guard := some (ModelReloader.init d w.files) }) ∨
    (∃ g, s = .initMark ∧ w.pc = .guarded ∧ w.guard = some g ∧
      w' = { w with pc := .polling, guard := some (g.markLoaded w.files) }) ∨
    (∃ now g, s = .check now ∧ w.pc = .polling ∧ w.guard = some g ∧
      w' = { w with
        pc := if (g.changedAndStable w.files now).1 then .stable else .polling
        guard := some (g.changedAndStable w.files now).2 }) ∨
    (∃ ok, s = .construct ok ∧ w.pc = .stable ∧
      w' = { w with pc := if ok then .built w.files else .polling }) ∨
    (∃ f, s = .set ∧ w.pc = .built f ∧ w' = { w with pc := .published f, held := some f }) ∨
    (∃ f g, s = .mark ∧ w.pc = .published f ∧ w.guard = some g ∧
      w' = { w with pc := .polling, guard := some (g.markLoaded w.files) }) := by
  cases s with
  | write a v => exact .inl ⟨a, v, rfl, (Option.some.inj h).symm⟩
  | initialLoad ok =>
    cases hpc : w.pc <;> simp [step, hpc] at h
    exact .inr (.inl ⟨ok, rfl, rfl, h.symm⟩)
  | initGuard =>
    cases hpc : w.pc <;> simp [step, hpc] at h
    exact .inr (.inr (.inl ⟨rfl, rfl, h.symm⟩))
  | initMark =>
    cases hpc : w.pc <;> cases hg : w.guard <;> simp [step, hpc, hg] at h
    exact .inr (.inr (.inr (.inl ⟨_, rfl, rfl, rfl, h.symm⟩)))
  | check now =>
    cases hpc : w.pc <;> cases hg : w.guard <;> simp [step, hpc, hg] at h
    exact .inr (.inr (.inr (.inr (.inl ⟨now, _, rfl, rfl, rfl, h.symm⟩))))
  | construct ok =>
    cases hpc : w.pc <;> simp [step, hpc] at h
    exact .inr (.inr (.inr (.inr (.inr (.inl ⟨ok, rfl, rfl, h.symm⟩)))))
  | set =>
    cases hpc : w.pc <;> simp [step, hpc] at h
    exact .inr (.inr (.inr (.inr (.inr (.inr (.inl ⟨_, rfl, rfl, h.symm⟩))))))
  | mark =>
    cases hpc : w.pc <;> cases hg : w.guard <;> simp [step, hpc, hg] at h
    exact .inr (.inr (.inr (.inr (.inr (.inr (.inr ⟨_, _, rfl, rfl, rfl, h.symm⟩))))))

/-! ### Interleavings that keep the loaded signature honest -/

/-- The worlds some interleaving reaches from start-up. -/
inductive Reach (d : ℚ) : World τ → Prop
  | boot (files : Signature τ) : Reach d (boot files)
  | step {w w' : World τ} {s : Step τ} : Reach d w → w.step d s = some w' → Reach d w'

theorem Reach.run {d : ℚ} {w w' : World τ} (hw : Reach d w) :
    ∀ {steps : List (Step τ)}, World.run d w steps = some w' → Reach d w'
  | [], h => by cases h; exact hw
  | s :: steps, h => by
    rw [run_cons] at h
    obtain ⟨w₁, h₁, h⟩ := Option.bind_eq_some.mp h
    exact (hw.step h₁).run h

/-- The worlds reached by interleavings in which no write lands in a window. -/
inductive SafeReach (d : ℚ) : World τ → Prop
  | boot (files : Signature τ) : SafeReach d (boot files)
  | step {w w' : World τ} {s : Step τ} : SafeReach d w → w.step d s = some w' →
      (s.isWrite = true → w.pc.inWindow = false) → SafeReach d w'

/-- What holds at each program point of an interleaving with no write in a window: outside a
window the held forecaster has the loaded signature, and inside one the files are those last
read. -/
def SafeInv (w : World τ) : Prop :=
  match w.pc with
  | .boot => w.guard = none
  | .loaded => w.guard = none ∧ w.held = some w.files
  | .guarded => ∃ g, w.guard = some g ∧ g.lastSig = w.files ∧ w.held = some w.files
  | .polling => ∃ g, w.guard = some g ∧ w.held = some g.lastSig
  | .stable => ∃ g, w.guard = some g ∧ w.held = some g.lastSig
  | .built f => ∃ g, w.guard = some g ∧ w.held = some g.lastSig ∧ w.files = f
  | .published f => w.held = some f ∧ w.files = f

omit [DecidableEq τ] in
theorem SafeInv.synced {w : World τ} (h : SafeInv w) : Synced w := by
  intro g hg hsig
  unfold SafeInv at h
  cases hpc : w.pc <;> simp only [hpc] at h
  case boot => simp [h] at hg
  case loaded => simp [h.1] at hg
  case guarded => exact h.choose_spec.2.2
  case polling | stable =>
    obtain ⟨g', hg', hheld⟩ := h
    obtain rfl := Option.some.inj (hg.symm.trans hg')
    rw [hheld, hsig]
  case built f =>
    obtain ⟨g', hg', hheld, -⟩ := h
    obtain rfl := Option.some.inj (hg.symm.trans hg')
    rw [hheld, hsig]
  case published f => rw [h.1, h.2]

/-- A move that is not a write inside a window keeps the invariant. -/
theorem SafeInv.step {d : ℚ} {w w' : World τ} {s : Step τ} (hinv : SafeInv w)
    (h : w.step d s = some w') (hsafe : s.isWrite = true → w.pc.inWindow = false) :
    SafeInv w' := by
  rcases step_cases h with ⟨a, v, rfl, rfl⟩ | ⟨ok, -, hpc, rfl⟩ | ⟨-, hpc, rfl⟩ |
      ⟨g, -, hpc, hg, rfl⟩ | ⟨now, g, -, hpc, hg, rfl⟩ | ⟨ok, -, hpc, rfl⟩ | ⟨f, -, hpc, rfl⟩ |
      ⟨f, g, -, hpc, hg, rfl⟩
  · -- a write, outside every window
    have hout := hsafe rfl
    unfold SafeInv at hinv ⊢
    cases hpc : w.pc <;> simp_all [Pc.inWindow]
  · -- `main` builds its first forecaster, or retries
    unfold SafeInv at hinv ⊢
    cases ok <;> simp_all
  · unfold SafeInv at hinv ⊢
    simp_all [ModelReloader.init]
  · unfold SafeInv at hinv ⊢
    simp_all
  · -- a check changes neither the loaded signature nor the held forecaster
    unfold SafeInv at hinv ⊢
    simp only [hpc] at hinv
    obtain ⟨g', hg', hheld⟩ := hinv
    obtain rfl := Option.some.inj (hg.symm.trans hg')
    rcases hb : (g.changedAndStable w.files now).1 <;>
      simp only [hb, Bool.false_eq_true, if_true, if_false] <;>
      exact ⟨_, rfl, by simpa using hheld⟩
  · unfold SafeInv at hinv ⊢
    simp only [hpc] at hinv
    cases ok <;> simpa using hinv
  · unfold SafeInv at hinv ⊢
    simp only [hpc] at hinv
    exact ⟨rfl, hinv.choose_spec.2.2⟩
  · unfold SafeInv at hinv ⊢
    simp only [hpc] at hinv
    exact ⟨_, rfl, by simp [hinv.1, hinv.2]⟩

theorem SafeReach.safeInv {d : ℚ} {w : World τ} (h : SafeReach d w) : SafeInv w := by
  induction h with
  | boot files => rfl
  | step _ hs hsafe ih => exact ih.step hs hsafe

/-- In every interleaving where no write to the artifacts lands between a read of the files
and the `mark_loaded` that records their signature, a loaded signature equal to the files on
disk is the one the held forecaster was built from. -/
theorem synced_of_safeReach {d : ℚ} {w : World τ} (h : SafeReach d w) : Synced w :=
  h.safeInv.synced

/-- A write before start-up, then start-up: the loaded signature is the one on disk, and the
held forecaster was built from it. -/
theorem synced_of_safeReach_after_startup :
    SafeReach 5 (⟨⟨some 2, some 1, some 1⟩, .polling, some ⟨5, ⟨some 2, some 1, some 1⟩, 0⟩,
      some ⟨some 2, some 1, some 1⟩⟩ : World ℕ) ∧
    Synced (⟨⟨some 2, some 1, some 1⟩, .polling, some ⟨5, ⟨some 2, some 1, some 1⟩, 0⟩,
      some ⟨some 2, some 1, some 1⟩⟩ : World ℕ) := by
  have h₀ := @SafeReach.boot ℕ _ 5 ⟨some 1, some 1, some 1⟩
  have h₁ := @SafeReach.step ℕ _ 5 _ _ (.write .model (some 2)) h₀ rfl (fun _ => rfl)
  have h₂ := @SafeReach.step ℕ _ 5 _ _ (.initialLoad true) h₁ rfl (by decide)
  have h₃ := @SafeReach.step ℕ _ 5 _ _ .initGuard h₂ rfl (by decide)
  have h₄ := @SafeReach.step ℕ _ 5 _ _ .initMark h₃ rfl (by decide)
  exact ⟨h₄, synced_of_safeReach h₄⟩

/-! ### A write inside a poll -/

theorem run_quiet {d : ℚ} :
    ∀ {w w' : World τ} (steps : List (Step τ)), w.pc = .polling →
      (∃ g, w.guard = some g ∧ g.lastSig = w.files) →
      (∀ s ∈ steps, s.isWrite = false) → run d w steps = some w' → w'.held = w.held
  | w, w', [], _, _, _, h => by cases h; rfl
  | w, w', s :: steps, hpc, ⟨g, hg, hsig⟩, hsteps, h => by
    rw [run_cons] at h
    obtain ⟨w₁, h₁, h⟩ := Option.bind_eq_some.mp h
    rcases step_cases h₁ with ⟨a, v, rfl, -⟩ | ⟨_, -, hpc', -⟩ | ⟨-, hpc', -⟩ |
        ⟨_, -, hpc', -⟩ | ⟨now, g', -, -, hg', hw₁⟩ | ⟨_, -, hpc', -⟩ | ⟨_, -, hpc', -⟩ |
        ⟨_, _, -, hpc', -⟩
    · simp [Step.isWrite] at hsteps
    any_goals simp [hpc] at hpc'
    obtain rfl := Option.some.inj (hg.symm.trans hg')
    have hq := ModelReloader.changedAndStable_of_eq hsig.symm now
    have key : w'.held = w₁.held := run_quiet steps (by simp [hw₁, hq])
      ⟨{ g with lastSeenChangeTs := 0 }, by simp [hw₁, hq], by simp [hw₁, hsig]⟩
      (fun s hs => hsteps s (List.mem_cons_of_mem _ hs)) h
    rw [key, hw₁]

/-- `mark_loaded` re-reads the signature after the constructor has read the files. A write
landing in between is recorded as loaded: the loaded signature then equals the files on disk
while the held forecaster was built from the files before the write, and as long as no
further write comes the new files are never loaded. -/
theorem mark_after_write_desyncs {d : ℚ} {w : World τ} {f : Signature τ}
    {g : ModelReloader (Signature τ)} (hpc : w.pc = .built f) (hg : w.guard = some g)
    {a : Artifact} {v : Option τ} (hv : w.files.update a v ≠ f) :
    ∃ w', run d w [.write a v, .set, .mark] = some w' ∧
      (∃ g', w'.guard = some g' ∧ g'.lastSig = w'.files) ∧ w'.held = some f ∧
      w'.held ≠ some w'.files ∧
      ∀ steps, (∀ s ∈ steps, s.isWrite = false) → ∀ w'', run d w' steps = some w'' →
        w''.held = some f := by
  refine ⟨⟨w.files.update a v, .polling, some (g.markLoaded (w.files.update a v)), some f⟩,
    by simp [run, step, hpc, hg], ⟨_, rfl, rfl⟩, rfl, by simpa [eq_comm] using hv, ?_⟩
  intro steps hsteps w'' h
  exact run_quiet steps rfl ⟨_, rfl, rfl⟩ hsteps h

/-- The failing interleaving: the model file is replaced, the worker builds a forecaster from
the new files, and the scaler file is replaced before `mark_loaded`. -/
theorem mark_after_write_desyncs_scaler :
    Reach 5 (⟨⟨some 2, some 1, some 1⟩, .built ⟨some 2, some 1, some 1⟩,
      some ⟨5, ⟨some 1, some 1, some 1⟩, 1⟩, some ⟨some 1, some 1, some 1⟩⟩ : World ℕ) ∧
    ∃ w', run 5 ⟨⟨some 2, some 1, some 1⟩, .built ⟨some 2, some 1, some 1⟩,
        some ⟨5, ⟨some 1, some 1, some 1⟩, 1⟩, some ⟨some 1, some 1, some 1⟩⟩
        [.write .scaler (some 2), .set, .mark] = some w' ∧
      (∃ g', w'.guard = some g' ∧ g'.lastSig = w'.files) ∧
      w'.held = some ⟨some 2, some 1, some 1⟩ ∧ w'.held ≠ some w'.files ∧
      ∀ steps, (∀ s ∈ steps, s.isWrite = false) → ∀ w'', run 5 w' steps = some w'' →
        w''.held = some ⟨some 2, some 1, some 1⟩ := by
  have hrun : run 5 (boot ⟨some 1, some 1, some 1⟩) [.initialLoad true, .initGuard, .initMark,
      .write .model (some 2), .check 1, .check 7, .construct true] =
      some (⟨⟨some 2, some 1, some 1⟩, .built ⟨some 2, some 1, some 1⟩,
        some ⟨5, ⟨some 1, some 1, some 1⟩, 1⟩, some ⟨some 1, some 1, some 1⟩⟩ : World ℕ) := by
    simp only [run_cons, run_nil, step, boot, Signature.update, ModelReloader.changedAndStable,
      ModelReloader.init, ModelReloader.markLoaded, Option.some_bind, if_true, if_false]
    norm_num
  exact ⟨(Reach.boot _).run hrun, mark_after_write_desyncs rfl rfl (by decide)⟩

/-! ### The two levels -/

/-- A poll of `ReloadWorker` during which no write lands is a run of moves of the world: the
check, then the construction, `holder.set` and `mark_loaded` when the check says so. -/
theorem poll_simulation (d : ℚ) {w : World τ} {g : ModelReloader (Signature τ)}
    {held : Signature τ} (hpc : w.pc = .polling) (hg : w.guard = some g)
    (hh : w.held = some held) (now : ℚ) (ok : Bool) :
    ∃ steps, (∀ s ∈ steps, s.isWrite = false) ∧
      run d w steps = some { w with
        guard := some (ReloadWorker.poll ⟨g, held⟩ ⟨now, w.files, ok⟩).1.guard
        held := some (ReloadWorker.poll ⟨g, held⟩ ⟨now, w.files, ok⟩).1.held } := by
  rcases hcs : g.changedAndStable w.files now with ⟨_ | _, g'⟩
  · exact ⟨[.check now], by simp [Step.isWrite],
      by simp [run, step, hpc, hg, hh, hcs, ReloadWorker.poll]⟩
  · cases ok
    · exact ⟨[.check now, .construct false], by simp [Step.isWrite],
        by simp [run, step, hpc, hg, hh, hcs, ReloadWorker.poll]⟩
    · exact ⟨[.check now, .construct true, .set, .mark], by simp [Step.isWrite],
        by simp [run, step, hpc, hg, hh, hcs, ReloadWorker.poll]⟩

end World

end PRaft.Reload
