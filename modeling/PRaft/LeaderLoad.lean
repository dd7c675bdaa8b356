import PRaft.PredictLeader

/-!
More load at the chosen leader never costs it the leadership, in either cost model.

In both models a domain's own requests cost its leader nothing (`domain.id ==
leader_domain.id` gives latency `0`), so extra load at the leader `D` leaves `D`'s cost as
it was, while every other candidate pays for it at a non-negative latency. Since the loop
keeps the first candidate of strictly least cost, `D` stays first
(`runningMin_update`).

Python updates the object `D` in place. The list may hold that object at several
positions, and other objects equal to it; `UpdatedAt` lets any of the positions after the
chosen one change with it. The chosen position is the first occurrence of `D`'s value, since
an earlier equal value would have the same cost and be chosen instead, so the results split
the list there: `pre ++ D :: post` with `D ∉ pre`.
-/

namespace PRaft

open OptimalLeaderCalculator

/-- `ys` is `xs` after the domain object `D` is updated in place to `D'`: every position holds
what it held, except that some positions holding `D` now hold `D'`. -/
def UpdatedAt {α : Type} (D D' : Domain α) (xs ys : List (Domain α)) : Prop :=
  List.Forall₂ (fun e e' => e' = e ∨ e = D ∧ e' = D') xs ys

section Updated

variable {α : Type} {D D' : Domain α} {xs ys : List (Domain α)}

theorem UpdatedAt.map_eq_map {γ : Type} (h : UpdatedAt D D' xs ys) {f g : Domain α → γ}
    (hfg : ∀ e, f e = g e) (hD : f D = g D') : xs.map f = ys.map g := by
  unfold UpdatedAt at h
  induction h with
  | nil => rfl
  | cons hr _ ih =>
    rcases hr with rfl | ⟨rfl, rfl⟩
    · simp only [List.map_cons, ih, hfg]
    · simp only [List.map_cons, ih, hD]

theorem UpdatedAt.sum_le {M : Type} [OrderedAddCommMonoid M] (h : UpdatedAt D D' xs ys)
    {f g : Domain α → M} (hfg : ∀ e, f e ≤ g e) (hD : f D ≤ g D') :
    (xs.map f).sum ≤ (ys.map g).sum := by
  unfold UpdatedAt at h
  induction h with
  | nil => rfl
  | cons hr _ ih =>
    simp only [List.map_cons, List.sum_cons]
    rcases hr with rfl | ⟨rfl, rfl⟩
    exacts [add_le_add (hfg _) ih, add_le_add hD ih]

theorem UpdatedAt.append_cons {post post' : List (Domain α)} (h : UpdatedAt D D' post post')
    (pre : List (Domain α)) :
    UpdatedAt D D' (pre ++ D :: post) (pre ++ D' :: post') :=
  List.rel_append (List.forall₂_same.mpr fun _ _ => .inl rfl) (.cons (.inr ⟨rfl, rfl⟩) h)

end Updated

theorem domainLatency_congr {α : Type} (self : OptimalLeaderCalculator) {x y e e' : Domain α}
    (hid : y.id = x.id) (haddr : y.address = x.address) (hid' : e'.id = e.id)
    (haddr' : e'.address = e.address) : self.domainLatency y e' = self.domainLatency x e := by
  simp [domainLatency, hid, haddr, hid', haddr']

/-! ### The quorum model of `moveleader.py` -/

namespace MoveLeader

variable {α : Type} [LinearOrderedCommRing α] (self : OptimalLeaderCalculator)
  {D D' : Domain α} {xs ys : List (Domain α)}

omit [LinearOrderedCommRing α] in
theorem latenciesFrom_eq_keys (leader : Domain α) (domains : List (Domain α)) :
    latenciesFrom self leader domains =
      ((domains.map fun d => (d.id, d.address)).filter (fun k => k.1 != leader.id)).map
        fun k => self.getLatency leader.address k.2 := by
  simp [latenciesFrom, List.filter_map, Function.comp_def]

theorem findOptimalLeader_of_ne_nil {domains : List (Domain α)} (h : domains ≠ []) :
    findOptimalLeader self domains =
      .pair (.ofOption (runningMin (candidateCost self domains (quorumSize domains)) domains).1)
        (if (runningMin (candidateCost self domains (quorumSize domains)) domains).1.isSome then
          .num (runningMin (candidateCost self domains (quorumSize domains)) domains).2
        else .pair .none .none) := by
  cases domains
  · exact absurd rfl h
  · rfl

section Update

-- `D'` is `D` with more read requests and nothing else changed.
variable (hD : D'.id = D.id ∧ D'.address = D.address ∧ D'.nodes = D.nodes ∧
  D'.writeRequests = D.writeRequests ∧ D.readRequests ≤ D'.readRequests)
  (hup : UpdatedAt D D' xs ys)
include hD hup

theorem quorumSize_updated : quorumSize ys = quorumSize xs := by
  simp only [quorumSize, hup.map_eq_map (fun _ => rfl) hD.2.2.1.symm]

theorem calculateCommitLatency_updated {x y : Domain α} (hid : y.id = x.id)
    (haddr : y.address = x.address) (q : ℤ) :
    calculateCommitLatency self y ys q = calculateCommitLatency self x xs q := by
  have hkeys : xs.map (fun d => (d.id, d.address)) = ys.map (fun d => (d.id, d.address)) :=
    hup.map_eq_map (fun _ => rfl) (by simp [hD.1, hD.2.1])
  simp only [calculateCommitLatency, followerLatencies_eq, latenciesFrom_eq_keys, hkeys, hid,
    haddr]

theorem calculateTotalLatency_updated {x y : Domain α} (hid : y.id = x.id)
    (haddr : y.address = x.address) (w : Nat) :
    calculateTotalLatency self x xs w ≤ calculateTotalLatency self y ys w ∧
      (x.id = D.id → calculateTotalLatency self y ys w = calculateTotalLatency self x xs w) := by
  have hwrites : xs.map Domain.writeRequests = ys.map Domain.writeRequests :=
    hup.map_eq_map (fun _ => rfl) hD.2.2.2.1.symm
  have hlat : ∀ e, self.domainLatency y e = self.domainLatency x e := fun e =>
    domainLatency_congr self hid haddr rfl rfl
  have hlatD : self.domainLatency y D' = self.domainLatency x D :=
    domainLatency_congr self hid haddr hD.1 hD.2.1
  simp only [calculateTotalLatency_eq, hwrites]
  refine ⟨add_le_add_right (hup.sum_le (fun e => by rw [hlat]) ?_) _, fun hx => ?_⟩
  · rw [hlatD]
    exact mul_le_mul_of_nonneg_right hD.2.2.2.2 (Nat.cast_nonneg _)
  · have hzero : self.domainLatency x D = 0 := by simp [domainLatency, hx]
    have hreads : xs.map (fun d => d.readRequests * (self.domainLatency x d : α)) =
        ys.map (fun d => d.readRequests * (self.domainLatency y d : α)) :=
      hup.map_eq_map (fun e => by simp only [hlat])
        (by simp only [hlatD, hzero, Nat.cast_zero, mul_zero])
    rw [hreads]

theorem candidateCost_updated :
    (∀ x, ∀ d', candidateCost self ys (quorumSize ys) x = some d' →
      ∃ d, candidateCost self xs (quorumSize xs) x = some d ∧ d ≤ d') ∧
    candidateCost self ys (quorumSize ys) D' = candidateCost self xs (quorumSize xs) D := by
  simp only [candidateCost, quorumSize_updated hD hup]
  refine ⟨fun x d' hx => ?_, ?_⟩
  · rw [calculateCommitLatency_updated self hD hup rfl rfl] at hx
    obtain ⟨w, hw, rfl⟩ := Option.map_eq_some'.mp hx
    exact ⟨_, by rw [hw]; rfl, (calculateTotalLatency_updated self hD hup rfl rfl w).1⟩
  · rw [calculateCommitLatency_updated self hD hup hD.1 hD.2.1]
    congr 1
    funext w
    exact (calculateTotalLatency_updated self hD hup hD.1 hD.2.1 w).2 rfl

omit hup in
/-- `find_optimal_leader` still chooses the leader `D`, at the same least cost, after `D` is
updated in place with more read requests. -/
theorem findOptimalLeader_updated {pre post post' : List (Domain α)} (hpre : D ∉ pre)
    {v : PyValue (Domain α) α} (h : findOptimalLeader self (pre ++ D :: post) = .pair (.obj D) v)
    (hpost : UpdatedAt D D' post post') :
    findOptimalLeader self (pre ++ D' :: post') = .pair (.obj D') v := by
  obtain ⟨hraise, hcost⟩ := candidateCost_updated self hD (hpost.append_cons pre)
  have hne : pre ++ D :: post ≠ [] := by simp
  have hne' : pre ++ D' :: post' ≠ [] := by simp
  rw [findOptimalLeader_of_ne_nil self hne] at h
  rw [findOptimalLeader_of_ne_nil self hne']
  rcases runningMin_spec (candidateCost self (pre ++ D :: post) (quorumSize (pre ++ D :: post)))
      (pre ++ D :: post) with ⟨hr, -⟩ | ⟨L, c, hr, -⟩ <;> rw [hr] at h
  · cases h
  simp only [PyValue.ofOption_some, Option.isSome_some, if_true, PyValue.pair.injEq,
    PyValue.obj.injEq] at h
  obtain ⟨rfl, rfl⟩ := h
  rw [runningMin_update hr hpre hcost (fun x _ => hraise x) hpost]
  rfl

end Update

end MoveLeader

/-! ### The point-to-point model of `predict_leader.py` -/

namespace PredictLeader

theorem pyInt_mono {x y : ℚ} (h : x ≤ y) : pyInt x ≤ pyInt y := by
  unfold pyInt
  split_ifs with hx hy hy
  · exact Int.floor_mono h
  · exact absurd (hx.trans h) hy
  · exact (Int.ceil_le.mpr (by simpa using (not_le.mp hx).le)).trans (Int.floor_nonneg.mpr hy)
  · exact Int.ceil_mono h

variable (self : OptimalLeaderCalculator) {D D' : Domain ℚ} {xs ys : List (Domain ℚ)}

theorem findOptimalLeader_of_ne_nil {domains : List (Domain ℚ)} (h : domains ≠ []) :
    findOptimalLeader self domains =
      .pair (.ofOption (runningMin (fun c => some (calculateTotalLatency self c domains))
          domains).1)
        (.num (runningMin (fun c => some (calculateTotalLatency self c domains)) domains).2) := by
  cases domains
  · exact absurd rfl h
  · rfl

section Update

-- `D'` is `D` with more requests, read or write, and the same id and address.
variable (hD : D'.id = D.id ∧ D'.address = D.address ∧
  D.readRequests + D.writeRequests ≤ D'.readRequests + D'.writeRequests)
  (hup : UpdatedAt D D' xs ys)
include hD hup

theorem calculateTotalLatency_updated {x y : Domain ℚ} (hid : y.id = x.id)
    (haddr : y.address = x.address) :
    calculateTotalLatency self x xs ≤ calculateTotalLatency self y ys ∧
      (x.id = D.id → calculateTotalLatency self y ys = calculateTotalLatency self x xs) := by
  have hterm : ∀ e, latencyTerm self x e = latencyTerm self y e := fun e => by
    simp only [latencyTerm, domainLatency_congr self hid haddr rfl rfl]
  have hlatD : self.domainLatency y D' = self.domainLatency x D :=
    domainLatency_congr self hid haddr hD.1 hD.2.1
  simp only [calculateTotalLatency_eq]
  refine ⟨hup.sum_le (fun e => (hterm e).le) ?_, fun hx => ?_⟩
  · simp only [latencyTerm, hlatD]
    exact pyInt_mono (binary64_mono
      (mul_le_mul_of_nonneg_right (binary64_mono hD.2.2) (Nat.cast_nonneg _)))
  · have hzero : self.domainLatency x D = 0 := by simp [domainLatency, hx]
    rw [hup.map_eq_map hterm (by simp [latencyTerm, hlatD, hzero])]

omit hup in
/-- `find_optimal_leader` still chooses the leader `D`, at the same least cost, after `D` is
updated in place with more requests. -/
theorem findOptimalLeader_updated {pre post post' : List (Domain ℚ)} (hpre : D ∉ pre)
    {v : PyValue (Domain ℚ) ℤ} (h : findOptimalLeader self (pre ++ D :: post) = .pair (.obj D) v)
    (hpost : UpdatedAt D D' post post') :
    findOptimalLeader self (pre ++ D' :: post') = .pair (.obj D') v := by
  have hall := hpost.append_cons pre
  have hne : pre ++ D :: post ≠ [] := by simp
  have hne' : pre ++ D' :: post' ≠ [] := by simp
  rw [findOptimalLeader_of_ne_nil self hne] at h
  rw [findOptimalLeader_of_ne_nil self hne']
  rcases runningMin_spec (fun c => some (calculateTotalLatency self c (pre ++ D :: post)))
      (pre ++ D :: post) with ⟨hr, hnone⟩ | ⟨L, c, hr, -⟩
  · exact absurd (hnone D (by simp)) (by simp)
  rw [hr] at h
  simp only [PyValue.ofOption_some, PyValue.pair.injEq, PyValue.obj.injEq] at h
  obtain ⟨rfl, rfl⟩ := h
  have hraise : ∀ x ∈ pre ++ L :: post, ∀ d', some (calculateTotalLatency self x (pre ++ D' :: post')) = some d' →
      ∃ d, some (calculateTotalLatency self x (pre ++ L :: post)) = some d ∧ d ≤ d' :=
    fun x _ d' hx => ⟨_, rfl, Option.some.inj hx ▸ (calculateTotalLatency_updated self hD hall rfl rfl).1⟩
  rw [runningMin_update hr hpre
    (congrArg some ((calculateTotalLatency_updated self hD hall hD.1 hD.2.1).2 rfl)) hraise hpost]
  rfl

end Update

end PredictLeader

/-! ### The law -/

/-- More load at the chosen leader never makes it lose the leadership. Let
`find_optimal_leader` choose `D` in `pre ++ D :: post`, where `D ∉ pre` places `D` at the
position it was chosen from, and add `δ ≥ 0` to the object `D`: that position changes, and so
may any later one holding the same object (`post'`). In `moveleader`'s quorum model, adding `δ`
to `read_requests` leaves the updated `D` the returned leader, at the same least total latency.
In `predict_leader`'s model, so does adding `δ` to `read_requests` or to `write_requests`. -/
theorem findOptimalLeader_keeps_loaded_leader (self : OptimalLeaderCalculator) :
    (∀ {α : Type} [LinearOrderedCommRing α] {pre post post' : List (Domain α)} {D : Domain α}
      {v : PyValue (Domain α) α} {δ : α}, D ∉ pre →
      MoveLeader.findOptimalLeader self (pre ++ D :: post) = .pair (.obj D) v → 0 ≤ δ →
      UpdatedAt D { D with readRequests := D.readRequests + δ } post post' →
      MoveLeader.findOptimalLeader self
          (pre ++ { D with readRequests := D.readRequests + δ } :: post') =
        .pair (.obj { D with readRequests := D.readRequests + δ }) v) ∧
    (∀ {pre post post' : List (Domain ℚ)} {D D' : Domain ℚ} {v : PyValue (Domain ℚ) ℤ} {δ : ℚ},
      D ∉ pre → PredictLeader.findOptimalLeader self (pre ++ D :: post) = .pair (.obj D) v →
      0 ≤ δ → (D' = { D with readRequests := D.readRequests + δ } ∨
        D' = { D with writeRequests := D.writeRequests + δ }) →
      UpdatedAt D D' post post' →
      PredictLeader.findOptimalLeader self (pre ++ D' :: post') = .pair (.obj D') v) := by
  refine ⟨fun hpre h hδ hpost => MoveLeader.findOptimalLeader_updated self
    (by exact ⟨rfl, rfl, rfl, rfl, le_add_of_nonneg_right hδ⟩) hpre h hpost,
    fun hpre h hδ hD' hpost => ?_⟩
  refine PredictLeader.findOptimalLeader_updated self ?_ hpre h hpost
  rcases hD' with rfl | rfl <;> exact ⟨rfl, rfl, by dsimp only; linarith⟩

/-- Three replicas of the shipped cluster, where `moveleader` chooses `192.168.0.38`, which
stays the leader with 5 more reads; and two forecast domains, where `predict_leader` chooses
`192.168.0.38` at cost 30 against 60, and it stays the leader with one more write. -/
theorem findOptimalLeader_keeps_loaded_leader_fixture :
    let a : Domain ℤ := ⟨"933ca51d2bb602b8", "192.168.0.38", 1, 10, 5⟩
    let b : Domain ℤ := ⟨"b92b49a4de72942d", "192.168.0.82", 1, 2, 1⟩
    let c : Domain ℤ := ⟨"69f554c3f7f50a72", "192.168.0.223", 1, 1, 1⟩
    let p : Domain ℚ := ⟨"933ca51d2bb602b8", "192.168.0.38", 1, 2, 0⟩
    let q : Domain ℚ := ⟨"b92b49a4de72942d", "192.168.0.82", 1, 1, 0⟩
    MoveLeader.findOptimalLeader init ([] ++ a :: [b, c]) = .pair (.obj a) (.num 310) ∧
      MoveLeader.findOptimalLeader init ([] ++ { a with readRequests := a.readRequests + 5 } :: [b, c]) =
        .pair (.obj { a with readRequests := a.readRequests + 5 }) (.num 310) ∧
      PredictLeader.findOptimalLeader init ([] ++ p :: [q]) = .pair (.obj p) (.num 30) ∧
      PredictLeader.findOptimalLeader init ([] ++ { p with writeRequests := p.writeRequests + 1 } :: [q]) =
        .pair (.obj { p with writeRequests := p.writeRequests + 1 }) (.num 30) := by
  intro a b c p q
  have ha : MoveLeader.findOptimalLeader init ([] ++ a :: [b, c]) = .pair (.obj a) (.num 310) := by
    decide
  have hlat : init.domainLatency p q = 30 ∧ init.domainLatency q p = 30 ∧
      init.domainLatency p p = 0 ∧ init.domainLatency q q = 0 := by decide
  have hexact : binary64 2 = 2 ∧ binary64 30 = 30 ∧ binary64 60 = 60 :=
    ⟨binary64_ofNat 2 (by norm_num), binary64_ofNat 30 (by norm_num), binary64_ofNat 60 (by norm_num)⟩
  have hp : PredictLeader.calculateTotalLatency init p [p, q] = 30 := by
    simp only [PredictLeader.calculateTotalLatency_eq, List.map, PredictLeader.latencyTerm, hlat,
      List.sum_cons, List.sum_nil]
    rw [PredictLeader.pyInt_eq_of_bounds 0, PredictLeader.pyInt_eq_of_bounds 30] <;>
      norm_num [p, q, hexact]
  have hq : PredictLeader.calculateTotalLatency init q [p, q] = 60 := by
    simp only [PredictLeader.calculateTotalLatency_eq, List.map, PredictLeader.latencyTerm, hlat,
      List.sum_cons, List.sum_nil]
    rw [PredictLeader.pyInt_eq_of_bounds 60, PredictLeader.pyInt_eq_of_bounds 0] <;>
      norm_num [p, q, hexact]
  have hpq : PredictLeader.findOptimalLeader init ([] ++ p :: [q]) = .pair (.obj p) (.num 30) := by
    rw [List.nil_append, PredictLeader.findOptimalLeader_two init p q (by rw [hp, hq]; decide), hp]
    rfl
  exact ⟨ha, (findOptimalLeader_keeps_loaded_leader init).1 (List.not_mem_nil a) ha (by decide)
      (.cons (.inl rfl) (.cons (.inl rfl) .nil)),
    hpq, (findOptimalLeader_keeps_loaded_leader init).2 (List.not_mem_nil p) hpq zero_le_one
      (.inr rfl) (.cons (.inl rfl) .nil)⟩

end PRaft
