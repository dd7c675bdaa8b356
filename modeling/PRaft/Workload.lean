import Mathlib

/-!
The experiment driver under `go-ycsb-master`. `generate_abc_matrix` gives every row of the
load matrix one dominant column; the slot loop of `rotate_ycsb.main` makes the replica of
column `j` run `M[slot % load_rows, j]` of the load during slot `slot`, `--duration` seconds
long; `write_hotspot_plan` of `recordIP.py` writes `rightIP.csv`, the replica it expects to be
hot in each 10 s slot from the same start time.

`random.random()` is a stream `rand` of draws read from a position that every row advances
by the draws it made, so the statements hold for every seed; `random.uniform(a, b)` is
`a + (b - a) * u` for the draw `u`. Draws in `[0, 1]` give every value of `[a, b]`, the
interval `random.uniform` states; the plan results assume `random.random()`'s `[0, 1)`.
Loads are elements of any linearly ordered field, the reals among them. The slot loop is timed ideally: slot `slot` runs from
`t0 + slot * win` to `t0 + (slot + 1) * win`.

* `generateAbcMatrix_rows`: for every sequence of draws, every row `i` has non-negative
  entries summing to 1 and its strictly largest entry in column `i % 3`.
* `mainPlan_misses_rotation`: with windows longer than 10 s the plan's second row names a
  replica that does not hold the dominant load at that time.
* `mainPlan_follows_rotation_iff`: with 10 s windows the plan names the dominant replica in
  every row exactly when `load_rows` is a multiple of 3 or at least the plan's 720 slots.
-/

namespace PRaft.Workload

section Matrix

variable {α : Type} [LinearOrderedField α]

/-- `random.uniform(a, b)`, given the `random.random()` draw `u`. -/
def uniform (a b u : α) : α := a + (b - a) * u

/-- `second_col_for_dominant`. -/
def secondColForDominant : Fin 3 → Fin 3
  | 0 => 1
  | 1 => 0
  | 2 => 1

/-- `third = 3 - dominant - second`. -/
def thirdCol (dominant : Fin 3) : Fin 3 :=
  ⟨3 - dominant.val - (secondColForDominant dominant).val, by fin_cases dominant <;> decide⟩

/-- The float-stability step of `generate_abc_matrix`, with `eps = 1e-12`. -/
def stabilize (majorVal secondVal thirdVal : α) : α × α × α :=
  if thirdVal < -(1 / 10 ^ 12) then
    if majorVal + secondVal > 0 then
      (majorVal * (1 / (majorVal + secondVal)), secondVal * (1 / (majorVal + secondVal)), 0)
    else (1, 0, 0)
  else if thirdVal < 0 then
    if majorVal + secondVal - 1 > 0 then
      let take := min (majorVal + secondVal - 1) majorVal
      let adjust := majorVal + secondVal - 1 - take
      (majorVal - take, if adjust > 0 then max 0 (secondVal - adjust) else secondVal, 0)
    else (majorVal, secondVal, 0)
  else (majorVal, secondVal, thirdVal)

/-- `row[dominant] = major_val; row[second] = second_val; row[third] = third_val` on a row of
zeros. -/
def placeRow (dominant second third : Fin 3) (majorVal secondVal thirdVal : α) : Fin 3 → α :=
  Function.update (Function.update (Function.update (fun _ => 0) dominant majorVal) second
    secondVal) third thirdVal

/-- Row `i` of `generate_abc_matrix`, drawing from position `k` of `rand`; also the position
the next row draws from. -/
def abcRow (rand : ℕ → α) (i k : ℕ) : (Fin 3 → α) × ℕ :=
  let dominant : Fin 3 := ⟨i % 3, Nat.mod_lt i (by decide)⟩
  let majorVal := uniform (3 / 5) 1 (rand k)
  let upper := min (1 / 5) (max 0 (1 - majorVal))
  let draw : α × ℕ :=
    if upper ≤ 0 then (0, k + 1) else (uniform 0 upper (rand (k + 1)), k + 2)
  let vals := stabilize majorVal draw.1 (1 - majorVal - draw.1)
  let row := placeRow dominant (secondColForDominant dominant) (thirdCol dominant)
    vals.1 vals.2.1 vals.2.2
  let s := row 0 + row 1 + row 2
  (if s ≠ 0 then fun j => row j / s else row, draw.2)

/-- Rows `i, i + 1, …` of `generate_abc_matrix`, `n` of them, drawing from position `k`. -/
def abcRowsFrom (rand : ℕ → α) : ℕ → ℕ → ℕ → List (Fin 3 → α)
  | _, _, 0 => []
  | i, k, n + 1 => (abcRow rand i k).1 :: abcRowsFrom rand (i + 1) (abcRow rand i k).2 n

/-- `generate_abc_matrix(n_rows, seed)`, where `rand` is the stream `random.seed(seed)` sets. -/
def generateAbcMatrix (nRows : ℕ) (rand : ℕ → α) : List (Fin 3 → α) :=
  abcRowsFrom rand 0 0 nRows

/-- Column `j` holds the largest entry of `row`, strictly. -/
def IsHot (row : Fin 3 → α) (j : Fin 3) : Prop := ∀ j', j' ≠ j → row j' < row j

theorem IsHot.unique {row : Fin 3 → α} {j j' : Fin 3} (h : IsHot row j) (h' : IsHot row j') :
    j = j' := by
  by_contra hne
  exact lt_asymm (h j' (Ne.symm hne)) (h' j hne)

/-! ### Every row has its dominant column -/

theorem uniform_mem_Icc {a b u : α} (hab : a ≤ b) (hu : 0 ≤ u ∧ u ≤ 1) :
    a ≤ uniform a b u ∧ uniform a b u ≤ b := by
  have hba : 0 ≤ b - a := sub_nonneg.mpr hab
  refine ⟨le_add_of_nonneg_right (mul_nonneg hba hu.1), ?_⟩
  have := mul_le_of_le_one_right hba hu.2
  simp only [uniform]
  linarith

theorem uniform_surj {a b x : α} (hab : a < b) (hax : a ≤ x) (hxb : x ≤ b) :
    ∃ u, 0 ≤ u ∧ u ≤ 1 ∧ uniform a b u = x := by
  have hba : 0 < b - a := sub_pos.mpr hab
  refine ⟨(x - a) / (b - a), div_nonneg (by linarith) hba.le,
    (div_le_one hba).mpr (by linarith), ?_⟩
  rw [uniform, mul_div_cancel₀ _ hba.ne']
  ring

/-- With draws in `[0, 1)` nothing needs stabilizing: the third share is not negative. -/
theorem stabilize_of_nonneg {a b c : α} (hc : 0 ≤ c) : stabilize a b c = (a, b, c) := by
  have heps : ¬ c < -(1 / 10 ^ 12) := not_lt.mpr (le_trans (by norm_num) hc)
  simp only [stabilize, heps, not_lt.mpr hc, if_false]

/-- The three shares land in three different columns, the dominant one where it belongs. -/
theorem placeRow_shares (d : Fin 3) (a b c : α) :
    let row := placeRow d (secondColForDominant d) (thirdCol d) a b c
    row d = a ∧ row 0 + row 1 + row 2 = a + b + c ∧ ∀ j, j ≠ d → row j = b ∨ row j = c := by
  fin_cases d <;> refine ⟨rfl, ?_, fun j hj => ?_⟩
  all_goals simp only [placeRow, Function.update, secondColForDominant, thirdCol]
  all_goals first | (fin_cases j <;> simp_all) | (simp <;> ring)

/-- With draws in `[0, 1]`, row `i` has non-negative shares summing to 1 and its largest
share in column `i % 3`: at least `3/5` there, at most `1/5` and at most `2/5` in the others.
-/
theorem abcRow_spec (rand : ℕ → α) (i k : ℕ) (hu : 0 ≤ rand k ∧ rand k ≤ 1)
    (hv : 0 ≤ rand (k + 1) ∧ rand (k + 1) ≤ 1) :
    (∀ j, 0 ≤ (abcRow rand i k).1 j) ∧
      (abcRow rand i k).1 0 + (abcRow rand i k).1 1 + (abcRow rand i k).1 2 = 1 ∧
      IsHot (abcRow rand i k).1 ⟨i % 3, Nat.mod_lt i (by decide)⟩ := by
  simp only [abcRow]
  set a := uniform (3 / 5) 1 (rand k)
  set up := min (1 / 5) (max 0 (1 - a)) with hup
  obtain ⟨ha1, ha2⟩ : 3 / 5 ≤ a ∧ a ≤ 1 := uniform_mem_Icc (by norm_num) hu
  have hup' : up = min (1 / 5) (1 - a) := by rw [hup, max_eq_right (by linarith)]
  have hup1 : up ≤ 1 / 5 := hup' ▸ min_le_left _ _
  have hup2 : up ≤ 1 - a := hup' ▸ min_le_right _ _
  generalize hdraw : (if up ≤ 0 then ((0 : α), k + 1) else (uniform 0 up (rand (k + 1)), k + 2)) = draw
  obtain ⟨hb0, hb1⟩ : 0 ≤ draw.1 ∧ draw.1 ≤ up := by
    rw [← hdraw]
    split_ifs with h0
    · exact ⟨le_rfl, show (0 : α) ≤ up by rw [hup']; exact le_min (by norm_num) (by linarith)⟩
    · exact uniform_mem_Icc (le_of_not_le h0) hv
  have hc : 0 ≤ 1 - a - draw.1 := by linarith
  obtain ⟨hd, hsum, hoff⟩ := placeRow_shares ⟨i % 3, Nat.mod_lt i (by decide)⟩ a draw.1 (1 - a - draw.1)
  simp only [stabilize_of_nonneg hc, hsum, show a + draw.1 + (1 - a - draw.1) = 1 by ring, ne_eq,
    one_ne_zero, not_false_eq_true, if_true, div_one]
  refine ⟨fun j => ?_, trivial, fun j hj => ?_⟩
  · by_cases hj : j = ⟨i % 3, Nat.mod_lt i (by decide)⟩
    · rw [hj, hd]; linarith
    · rcases hoff j hj with h | h <;> rw [h] <;> linarith
  · dsimp only
    rw [hd]
    rcases hoff j hj with h | h <;> rw [h] <;> linarith

theorem length_abcRowsFrom (rand : ℕ → α) :
    ∀ i k n, (abcRowsFrom rand i k n).length = n
  | _, _, 0 => rfl
  | i, k, n + 1 => by simp [abcRowsFrom, length_abcRowsFrom rand (i + 1) _ n]

theorem getElem_abcRowsFrom (rand : ℕ → α) :
    ∀ i k n t (ht : t < (abcRowsFrom rand i k n).length),
      ∃ k', (abcRowsFrom rand i k n)[t] = (abcRow rand (i + t) k').1
  | _, _, 0, _, ht => absurd ht (Nat.not_lt_zero _)
  | i, k, n + 1, 0, _ => ⟨k, rfl⟩
  | i, k, n + 1, t + 1, ht => by
    obtain ⟨k', hk'⟩ := getElem_abcRowsFrom rand (i + 1) (abcRow rand i k).2 n t
      (by simpa [abcRowsFrom] using ht)
    exact ⟨k', by simpa [abcRowsFrom, Nat.add_assoc, Nat.add_comm 1 t] using hk'⟩

theorem getElem_generateAbcMatrix (rand : ℕ → α) (nRows i : ℕ)
    (hi : i < (generateAbcMatrix nRows rand).length) :
    ∃ k, (generateAbcMatrix nRows rand)[i] = (abcRow rand i k).1 := by
  simpa using getElem_abcRowsFrom rand 0 0 nRows i hi

/-- Every row of the load matrix, for every seed, has its largest entry in column
`row % 3`. -/
theorem generateAbcMatrix_hot (rand : ℕ → α) (hrand : ∀ k, 0 ≤ rand k ∧ rand k < 1)
    (nRows i : ℕ) (hi : i < (generateAbcMatrix nRows rand).length) :
    IsHot (generateAbcMatrix nRows rand)[i] ⟨i % 3, Nat.mod_lt _ (by decide)⟩ := by
  obtain ⟨k, hk⟩ := getElem_generateAbcMatrix rand nRows i hi
  rw [hk]
  exact (abcRow_spec rand i k ⟨(hrand k).1, (hrand k).2.le⟩
    ⟨(hrand (k + 1)).1, (hrand (k + 1)).2.le⟩).2.2

/-- Over exact arithmetic and for every sequence of draws `random.uniform` can make, every
row `i` of `generate_abc_matrix(n_rows)` has non-negative entries summing to 1 and its
strictly largest entry in column `i % 3`. The draws are `uniform a b u` for `u ∈ [0, 1]`,
which covers every value of `[a, b]` (the first conjunct). -/
theorem generateAbcMatrix_rows (rand : ℕ → α) (hrand : ∀ k, 0 ≤ rand k ∧ rand k ≤ 1)
    (nRows : ℕ) :
    (∀ a b x : α, a < b → a ≤ x → x ≤ b → ∃ u, 0 ≤ u ∧ u ≤ 1 ∧ uniform a b u = x) ∧
      (generateAbcMatrix nRows rand).length = nRows ∧
      ∀ i (hi : i < (generateAbcMatrix nRows rand).length),
        (∀ j, 0 ≤ (generateAbcMatrix nRows rand)[i] j) ∧
        (generateAbcMatrix nRows rand)[i] 0 + (generateAbcMatrix nRows rand)[i] 1 +
          (generateAbcMatrix nRows rand)[i] 2 = 1 ∧
        IsHot (generateAbcMatrix nRows rand)[i] ⟨i % 3, Nat.mod_lt _ (by decide)⟩ := by
  refine ⟨fun a b x hab hax hxb => uniform_surj hab hax hxb, length_abcRowsFrom rand 0 0 nRows,
    fun i hi => ?_⟩
  obtain ⟨k, hk⟩ := getElem_generateAbcMatrix rand nRows i hi
  rw [hk]
  exact abcRow_spec rand i k (hrand k) (hrand (k + 1))

/-- At the end of the draws' interval: every draw is 1, so every major share is 1 and no
second share is drawn. -/
theorem generateAbcMatrix_rows_at_one :
    (∀ _ : ℕ, (0 : ℚ) ≤ 1 ∧ (1 : ℚ) ≤ 1) ∧
      (∀ a b x : ℚ, a < b → a ≤ x → x ≤ b → ∃ u, 0 ≤ u ∧ u ≤ 1 ∧ uniform a b u = x) ∧
      (generateAbcMatrix 3 fun _ => (1 : ℚ)).length = 3 ∧
      ∀ i (hi : i < (generateAbcMatrix 3 fun _ => (1 : ℚ)).length),
        (∀ j, 0 ≤ (generateAbcMatrix 3 fun _ => (1 : ℚ))[i] j) ∧
        (generateAbcMatrix 3 fun _ => (1 : ℚ))[i] 0 + (generateAbcMatrix 3 fun _ => (1 : ℚ))[i] 1 +
          (generateAbcMatrix 3 fun _ => (1 : ℚ))[i] 2 = 1 ∧
        IsHot (generateAbcMatrix 3 fun _ => (1 : ℚ))[i] ⟨i % 3, Nat.mod_lt _ (by decide)⟩ :=
  ⟨fun _ => ⟨zero_le_one, le_rfl⟩,
    generateAbcMatrix_rows (fun _ => (1 : ℚ)) (fun _ => ⟨zero_le_one, le_rfl⟩) 3⟩

theorem length_generateAbcMatrix (nRows : ℕ) (rand : ℕ → α) :
    (generateAbcMatrix nRows rand).length = nRows :=
  length_abcRowsFrom rand 0 0 nRows

end Matrix

/-! ### The slot loop and the plan -/

/-- `rotate_ycsb`'s endpoints, in the order of the matrix columns: the replica of
`endpoints[j]` runs column `j` (`domain_col = my_idx`). -/
def rotateEndpoints : List String :=
  ["192.168.0.38:2379", "192.168.0.82:2379", "192.168.0.223:2379"]

/-- The slot `rotate_ycsb`'s loop runs `τ` seconds after `t0`: slot `slot` runs from
`t0 + slot * win` to `t0 + (slot + 1) * win`. -/
def slotAt (win τ : ℕ) : ℕ := τ / win

/-- The row of the load matrix slot `slot` uses: `slot % args.load_rows`. -/
def rowOfSlot (loadRows slot : ℕ) : ℕ := slot % loadRows

/-- Python's `repr` of a string with no quote or backslash in it. -/
def pyRepr (s : String) : String := "\x27" ++ s ++ "\x27"

/-- `write_hotspot_plan`: the rows it appends after the header, each slot's offset in seconds
from `start_time` with its IP, or the message of the `ValueError` it raises. `startTimeOk`
says whether `strptime` accepts `start_time`. -/
def writeHotspotPlan (startTimeOk : Bool) (firstIp : String) (domainIps : List String)
    (slotSecs horizonMinutes : ℤ) : Except String (List (ℤ × String)) := do
  if domainIps.length < 1 then throw "domain_ips 必须至少给出 1 个 IP"
  if !startTimeOk then throw "start_time 格式必须是 \x27YYYY-MM-DD HH:MM:SS\x27"
  let some firstIdx := domainIps.indexOf? firstIp
    | throw ("first_ip 不在 domain_ips 中：" ++ pyRepr firstIp)
  if slotSecs ≤ 0 ∨ horizonMinutes ≤ 0 then throw "slot_secs 和 horizon_minutes 必须为正整数"
  if horizonMinutes * 60 / slotSecs ≤ 0 then throw "规划时长太短，无法生成任何条目"
  return (List.range (horizonMinutes * 60 / slotSecs).toNat).map fun (s : ℕ) =>
    ((s : ℤ) * slotSecs, domainIps.getD ((firstIdx + s) % domainIps.length) "")

/-- Past its checks, `write_hotspot_plan` writes one row per slot, from `first_ip` on in
turn through `domain_ips`. -/
theorem writeHotspotPlan_eq_ok {firstIp : String} {domainIps : List String} {firstIdx : ℕ}
    {slotSecs horizonMinutes : ℤ} (hidx : domainIps.indexOf? firstIp = some firstIdx)
    (hslot : 0 < slotSecs) (hhorizon : 0 < horizonMinutes)
    (htotal : 0 < horizonMinutes * 60 / slotSecs) :
    writeHotspotPlan true firstIp domainIps slotSecs horizonMinutes =
      .ok ((List.range (horizonMinutes * 60 / slotSecs).toNat).map fun (s : ℕ) =>
        ((s : ℤ) * slotSecs, domainIps.getD ((firstIdx + s) % domainIps.length) "")) := by
  have hne : domainIps ≠ [] := by rintro rfl; simp at hidx
  have hlen : ¬domainIps.length < 1 := by simpa [Nat.lt_one_iff] using hne
  simp [writeHotspotPlan, hlen, hidx, not_le.mpr hslot, not_le.mpr hhorizon, not_le.mpr htotal]
  rfl

/-- `domain_ips`' default. -/
def defaultDomainIps : List String := ["192.168.0.38", "192.168.0.82", "192.168.0.223"]

/-- The plan `rotate_ycsb.main` writes: `write_hotspot_plan(start_time=...)` with the defaults,
from a start time `strftime` formatted. -/
def mainPlan : Except String (List (ℤ × String)) :=
  writeHotspotPlan true "192.168.0.38" defaultDomainIps 10 120

/-- The plan has a row for every 10 s slot of the two hours, naming the IPs in turn. -/
theorem mainPlan_eq :
    mainPlan = .ok ((List.range 720).map fun (s : ℕ) => ((s : ℤ) * 10, defaultDomainIps.getD (s % 3) "")) := by
  rw [mainPlan, @writeHotspotPlan_eq_ok _ _ 0 _ _ (by decide) (by decide) (by decide) (by decide)]
  simp [defaultDomainIps]

theorem rotateEndpoints_getD_eq_iff (j j' : Fin 3) :
    rotateEndpoints.getD j "" = defaultDomainIps.getD j' "" ++ ":2379" ↔ j = j' := by
  revert j j'; decide

/-! ### The plan against the load -/

section Rotation

variable {α : Type} [LinearOrderedField α] (rand : ℕ → α)

/-- Row `s` of the plan names the replica given the largest load in the row `rotate_ycsb`
runs `10 * s` seconds after the start, when each window lasts `win` seconds: the endpoint of
the load matrix's hot column there is the plan's IP. -/
def PlanFollows (M : List (Fin 3 → α)) (win loadRows : ℕ)
    (plan : List (ℤ × String)) (s : ℕ) : Prop :=
  ∃ hs : s < plan.length, ∃ hr : rowOfSlot loadRows (slotAt win (10 * s)) < M.length,
    ∃ j : Fin 3, IsHot M[rowOfSlot loadRows (slotAt win (10 * s))] j ∧
      rotateEndpoints.getD j "" = plan[s].2 ++ ":2379"

/-- With windows longer than the plan's 10 s slot, the plan's second row, 10 s after the
start, names `192.168.0.82`, while at that time `rotate_ycsb` still runs row 0, whose largest
entry, for every seed and every number of rows, is in column 0, the column of
`192.168.0.38:2379`. -/
theorem mainPlan_misses_rotation (hrand : ∀ k, 0 ≤ rand k ∧ rand k < 1) {win loadRows : ℕ}
    (hwin : 10 < win) (hrows : 0 < loadRows) :
    ∃ plan, mainPlan = .ok plan ∧ plan[1]? = some (10, "192.168.0.82") ∧
      rowOfSlot loadRows (slotAt win (10 * 1)) = 0 ∧
      ∃ h : 0 < (generateAbcMatrix loadRows rand).length,
        IsHot (generateAbcMatrix loadRows rand)[0] 0 ∧
        rotateEndpoints.getD 0 "" = "192.168.0.38:2379" := by
  have hlen : 0 < (generateAbcMatrix loadRows rand).length := by
    rwa [length_generateAbcMatrix]
  refine ⟨_, mainPlan_eq, by simp [defaultDomainIps], ?_, hlen,
    generateAbcMatrix_hot rand hrand loadRows 0 hlen, rfl⟩
  simp [rowOfSlot, slotAt, Nat.div_eq_of_lt hwin]

/-- With 20 s windows and the default 300 rows, 10 s after the start the plan names
`192.168.0.82` while `192.168.0.38:2379` still runs the dominant load of row 0. -/
theorem mainPlan_misses_rotation_twenty_seconds :
    (∀ _ : ℕ, 0 ≤ (0 : ℚ) ∧ (0 : ℚ) < 1) ∧ 10 < 20 ∧ 0 < 300 ∧
      ∃ plan, mainPlan = .ok plan ∧ plan[1]? = some (10, "192.168.0.82") ∧
        rowOfSlot 300 (slotAt 20 (10 * 1)) = 0 ∧
        ∃ h : 0 < (generateAbcMatrix 300 fun _ => (0 : ℚ)).length,
          IsHot (generateAbcMatrix 300 fun _ => (0 : ℚ))[0] 0 ∧
          rotateEndpoints.getD 0 "" = "192.168.0.38:2379" :=
  ⟨fun _ => ⟨le_rfl, one_pos⟩, by decide, by decide,
    mainPlan_misses_rotation (fun _ => (0 : ℚ)) (fun _ => ⟨le_rfl, one_pos⟩) (by decide)
      (by decide)⟩

/-- With the plan's own 10 s windows, the plan names the replica given the dominant load in
every one of its rows exactly when the number of rows is a multiple of 3 or covers the whole
plan; otherwise the two rotations part at the first wrap of the matrix. -/
theorem mainPlan_follows_rotation_iff (hrand : ∀ k, 0 ≤ rand k ∧ rand k < 1) {loadRows : ℕ}
    (hrows : 0 < loadRows) :
    ∃ plan, mainPlan = .ok plan ∧
      ((∀ s < plan.length, PlanFollows (generateAbcMatrix loadRows rand) 10 loadRows plan s) ↔
        3 ∣ loadRows ∨ 720 ≤ loadRows) := by
  have hslot : ∀ s, rowOfSlot loadRows (slotAt 10 (10 * s)) = s % loadRows := fun s => by
    simp [rowOfSlot, slotAt]
  have hrow : ∀ s, s % loadRows < (generateAbcMatrix loadRows rand).length := fun s => by
    rw [length_generateAbcMatrix]; exact Nat.mod_lt s hrows
  refine ⟨_, mainPlan_eq, ⟨fun h => ?_, fun h s hs => ?_⟩⟩
  · by_contra hne
    push_neg at hne
    obtain ⟨hs, hr, j, hj, hip⟩ := h loadRows (by simpa using hne.2)
    simp only [hslot, Nat.mod_self] at hr hj
    have hj0 : j = 0 := hj.unique (generateAbcMatrix_hot rand hrand loadRows 0 hr)
    subst hj0
    have h3 : (0 : Fin 3) = ⟨loadRows % 3, Nat.mod_lt _ (by decide)⟩ := by
      rw [← rotateEndpoints_getD_eq_iff, hip]
      simp
    exact hne.1 (Nat.dvd_of_mod_eq_zero (Fin.mk.inj_iff.mp h3).symm)
  · have hmod : s % loadRows % 3 = s % 3 := by
      rcases h with h3 | h720
      · exact Nat.mod_mod_of_dvd s h3
      · rw [Nat.mod_eq_of_lt (show s < loadRows by simp at hs; omega)]
    refine ⟨hs, hslot s ▸ hrow s, ⟨s % 3, Nat.mod_lt _ (by decide)⟩, ?_, ?_⟩
    · have hhot := generateAbcMatrix_hot rand hrand loadRows _ (hrow s)
      simp only [hmod] at hhot
      simpa only [hslot] using hhot
    · rw [rotateEndpoints_getD_eq_iff _ ⟨s % 3, Nat.mod_lt _ (by decide)⟩ |>.mpr rfl]
      simp

/-- With 10 s windows and the default 300 rows, a multiple of 3, the plan follows the load. -/
theorem mainPlan_follows_rotation_iff_default_rows :
    (∀ _ : ℕ, 0 ≤ (0 : ℚ) ∧ (0 : ℚ) < 1) ∧ 0 < 300 ∧
      ∃ plan, mainPlan = .ok plan ∧
        ((∀ s < plan.length,
            PlanFollows (generateAbcMatrix 300 fun _ => (0 : ℚ)) 10 300 plan s) ↔
          3 ∣ 300 ∨ 720 ≤ 300) :=
  ⟨fun _ => ⟨le_rfl, one_pos⟩, by decide,
    mainPlan_follows_rotation_iff (fun _ => (0 : ℚ)) (fun _ => ⟨le_rfl, one_pos⟩) (by decide)⟩

end Rotation

end PRaft.Workload
