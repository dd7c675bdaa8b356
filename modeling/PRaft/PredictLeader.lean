import PRaft.MoveLeader

/-!
The point-to-point cost model of `predict_leader.py`. Every domain's requests are charged
the leader-to-domain latency, and each domain's product is truncated by `int()` before it
is added. Loads are the forecast means, Python floats: `total_req = read + write` and
`total_req * latency` are float operations, each rounded to `binary64`, and only then
truncated. The exact cost `C(L)` is what the cost would be without rounding or truncation;
`findOptimalLeader_truncated_spec` bounds how far the chosen leader's exact cost can lie above
the least one.
-/

namespace PRaft.PredictLeader

open OptimalLeaderCalculator

/-- Python's `int()` on a float: truncation toward zero. -/
def pyInt (x : ℚ) : ℤ := if 0 ≤ x then ⌊x⌋ else ⌈x⌉

/-- One term of `calculate_total_latency`: `int(total_req * latency)`, the sum and the product
computed in `binary64`. -/
def latencyTerm (self : OptimalLeaderCalculator) (leader d : Domain ℚ) : ℤ :=
  pyInt (binary64 (binary64 (d.readRequests + d.writeRequests) * (self.domainLatency leader d : ℚ)))

/-- `calculate_total_latency`. -/
def calculateTotalLatency (self : OptimalLeaderCalculator) (leader : Domain ℚ)
    (domains : List (Domain ℚ)) : ℤ :=
  domains.foldl (fun total d => total + latencyTerm self leader d) 0

/-- `find_optimal_leader`. The quorum size it computes is only printed. -/
def findOptimalLeader (self : OptimalLeaderCalculator) (domains : List (Domain ℚ)) :
    PyValue (Domain ℚ) ℤ :=
  match domains with
  | [] => .pair .none .none
  | _ :: _ =>
    let r := runningMin (fun cand => some (calculateTotalLatency self cand domains)) domains
    .pair (.ofOption r.1) (.num r.2)

/-- The exact weighted latency `C(L) = Σ (R_D + W_D) · d(L,D)`, without rounding or
truncation. The code never computes it; it is what the computed cost is compared against. -/
def exactCost (self : OptimalLeaderCalculator) (domains : List (Domain ℚ))
    (leader : Domain ℚ) : ℚ :=
  (domains.map fun d => (d.readRequests + d.writeRequests) * (self.domainLatency leader d : ℚ)).sum

/-! ### Rounding and truncation -/

theorem pyInt_le {x : ℚ} (hx : 0 ≤ x) : (pyInt x : ℚ) ≤ x := by
  simp [pyInt, hx, Int.floor_le x]

theorem lt_pyInt_add_one {x : ℚ} (hx : 0 ≤ x) : x < pyInt x + 1 := by
  simp [pyInt, hx, Int.lt_floor_add_one x]

theorem pyInt_eq_of_bounds (k : ℤ) {x : ℚ} (hx : 0 ≤ x) (hlo : (k : ℚ) ≤ x)
    (hhi : x < k + 1) : pyInt x = k := by
  simp only [pyInt, hx, if_true]
  exact Int.floor_eq_iff.mpr ⟨hlo, hhi⟩

/-- The two roundings of a term move it by a factor within `1 ± 2 ^ -51`. -/
theorem binary64_term_mem {s : ℚ} (hs : 0 ≤ s) (l : ℕ) :
    (1 - 1 / 2 ^ 51) * (s * l) ≤ binary64 (binary64 s * l) ∧
      binary64 (binary64 s * l) ≤ (1 + 1 / 2 ^ 51) * (s * l) := by
  have hl : (0 : ℚ) ≤ l := Nat.cast_nonneg l
  have hsl : 0 ≤ s * l := mul_nonneg hs hl
  obtain ⟨h1, h2⟩ := binary64_mem_of_nonneg hs
  obtain ⟨h3, h4⟩ := binary64_mem_of_nonneg (mul_nonneg (binary64_nonneg hs) hl)
  constructor
  · calc (1 - 1 / 2 ^ 51) * (s * l) ≤ (1 - 1 / 2 ^ 53) ^ 2 * (s * l) :=
          mul_le_mul_of_nonneg_right (by norm_num) hsl
      _ = s * (1 - 1 / 2 ^ 53) * l * (1 - 1 / 2 ^ 53) := by ring
      _ ≤ binary64 s * l * (1 - 1 / 2 ^ 53) := by gcongr
      _ ≤ binary64 (binary64 s * l) := h3
  · calc binary64 (binary64 s * l) ≤ binary64 s * l * (1 + 1 / 2 ^ 53) := h4
      _ ≤ s * (1 + 1 / 2 ^ 53) * l * (1 + 1 / 2 ^ 53) := by gcongr
      _ = (1 + 1 / 2 ^ 53) ^ 2 * (s * l) := by ring
      _ ≤ (1 + 1 / 2 ^ 51) * (s * l) := mul_le_mul_of_nonneg_right (by norm_num) hsl

private theorem foldl_add_eq_sum {f : Domain ℚ → ℤ} (ds : List (Domain ℚ)) (a : ℤ) :
    ds.foldl (fun total d => total + f d) a = a + (ds.map f).sum := by
  induction ds generalizing a with
  | nil => simp
  | cons d rest ih => simp [ih, add_assoc]

theorem calculateTotalLatency_eq (self : OptimalLeaderCalculator) (leader : Domain ℚ)
    (domains : List (Domain ℚ)) :
    calculateTotalLatency self leader domains = (domains.map (latencyTerm self leader)).sum := by
  simp [calculateTotalLatency, foldl_add_eq_sum]

section Bounds

variable (self : OptimalLeaderCalculator) (domains : List (Domain ℚ))
  (hload : ∀ d ∈ domains, 0 ≤ d.readRequests ∧ 0 ≤ d.writeRequests)
include hload

private theorem load_nonneg {d : Domain ℚ} (hd : d ∈ domains) :
    0 ≤ d.readRequests + d.writeRequests :=
  add_nonneg (hload d hd).1 (hload d hd).2

/-- The computed cost is at most the exact one, up to rounding: `T(L) ≤ (1 + 2^-51) C(L)`. -/
theorem calculateTotalLatency_le_exactCost (leader : Domain ℚ) :
    (calculateTotalLatency self leader domains : ℚ) ≤ (1 + 1 / 2 ^ 51) * exactCost self domains leader := by
  rw [calculateTotalLatency_eq, exactCost, Int.cast_list_sum, List.map_map, ← List.sum_map_mul_left]
  refine List.sum_le_sum fun d hd => ?_
  have hs := load_nonneg domains hload hd
  exact (pyInt_le (binary64_nonneg (mul_nonneg (binary64_nonneg hs) (Nat.cast_nonneg _)))).trans
    (binary64_term_mem hs _).2

/-- Each term loses less than one: `(1 - 2^-51) C(L) < T(L) + n` on a non-empty list. -/
theorem exactCost_lt (leader : Domain ℚ) (hne : domains ≠ []) :
    (1 - 1 / 2 ^ 51) * exactCost self domains leader <
      calculateTotalLatency self leader domains + domains.length := by
  rw [calculateTotalLatency_eq, exactCost, Int.cast_list_sum, List.map_map, ← List.sum_map_mul_left]
  have hsum : ((domains.map ((↑) ∘ latencyTerm self leader)).sum : ℚ) + domains.length =
      (domains.map fun d => (latencyTerm self leader d : ℚ) + 1).sum := by
    simp [List.sum_map_add, Function.comp_def]
  rw [hsum]
  refine List.sum_lt_sum_of_ne_nil hne _ _ fun d hd => ?_
  have hs := load_nonneg domains hload hd
  exact (binary64_term_mem hs _).1.trans_lt
    (lt_pyInt_add_one (binary64_nonneg (mul_nonneg (binary64_nonneg hs) (Nat.cast_nonneg _))))

end Bounds

/-! ### What `find_optimal_leader` returns -/

/-- On non-negative loads `find_optimal_leader` returns `(None, None)` for the empty list,
and otherwise `(L, T(L))` for the first domain `L` of least computed cost: each term rounded to
`binary64` and truncated. That `L` need not minimise the exact cost, but its exact cost exceeds
every other domain's by less than the number of domains, up to a relative error of `2 ^ -51`. -/
theorem findOptimalLeader_truncated_spec (self : OptimalLeaderCalculator)
    (domains : List (Domain ℚ)) (hload : ∀ d ∈ domains, 0 ≤ d.readRequests ∧ 0 ≤ d.writeRequests) :
    (domains = [] ∧ findOptimalLeader self domains = .pair .none .none) ∨
    ∃ L, FirstMinimal (fun c => some (calculateTotalLatency self c domains)) domains L
        (calculateTotalLatency self L domains) ∧
      findOptimalLeader self domains = .pair (.obj L) (.num (calculateTotalLatency self L domains)) ∧
      ∀ M ∈ domains, (1 - 1 / 2 ^ 51) * exactCost self domains L <
        (1 + 1 / 2 ^ 51) * exactCost self domains M + domains.length := by
  match domains with
  | [] => exact .inl ⟨rfl, rfl⟩
  | d :: ds =>
    rcases runningMin_spec (fun c => some (calculateTotalLatency self c (d :: ds))) (d :: ds) with
      ⟨_, hnone⟩ | ⟨L, c, hr, hfirst⟩
    · exact absurd (hnone d (List.mem_cons_self d ds)) (by simp)
    obtain rfl : c = calculateTotalLatency self L (d :: ds) := (Option.some_injective _ hfirst.1).symm
    refine .inr ⟨L, hfirst, by simp [findOptimalLeader, hr], fun M hM => ?_⟩
    calc (1 - 1 / 2 ^ 51) * exactCost self (d :: ds) L
        < calculateTotalLatency self L (d :: ds) + (d :: ds).length :=
          exactCost_lt self _ hload L (List.cons_ne_nil d ds)
      _ ≤ calculateTotalLatency self M (d :: ds) + (d :: ds).length := by
          have := hfirst.2.1 M hM _ rfl
          exact_mod_cast add_le_add_right this _
      _ ≤ (1 + 1 / 2 ^ 51) * exactCost self (d :: ds) M + (d :: ds).length :=
          add_le_add_right (calculateTotalLatency_le_exactCost self _ hload M) _

/-- Two forecast domains with non-negative loads, as the projector builds them: the bound holds
for them. -/
theorem findOptimalLeader_truncated_spec_on_tie :
    let ds : List (Domain ℚ) :=
      [⟨"933ca51d2bb602b8", "192.168.0.38", 1, 1 / 4, 0⟩,
       ⟨"b92b49a4de72942d", "192.168.0.82", 1, 33 / 128, 0⟩]
    (∀ d ∈ ds, 0 ≤ d.readRequests ∧ 0 ≤ d.writeRequests) ∧
    ((ds = [] ∧ findOptimalLeader init ds = .pair .none .none) ∨
      ∃ L, FirstMinimal (fun c => some (calculateTotalLatency init c ds)) ds L
          (calculateTotalLatency init L ds) ∧
        findOptimalLeader init ds = .pair (.obj L) (.num (calculateTotalLatency init L ds)) ∧
        ∀ M ∈ ds, (1 - 1 / 2 ^ 51) * exactCost init ds L <
          (1 + 1 / 2 ^ 51) * exactCost init ds M + ds.length) := by
  intro ds
  have h : ∀ d ∈ ds, 0 ≤ d.readRequests ∧ 0 ≤ d.writeRequests := by norm_num [ds]
  exact ⟨h, findOptimalLeader_truncated_spec init ds h⟩

theorem findOptimalLeader_two (self : OptimalLeaderCalculator) (a b : Domain ℚ)
    (h : calculateTotalLatency self a [a, b] ≤ calculateTotalLatency self b [a, b]) :
    findOptimalLeader self [a, b] = .pair (.obj a) (.num (calculateTotalLatency self a [a, b])) := by
  simp [findOptimalLeader, runningMin, keepBetter, not_lt.mpr h]

/-- Two domains whose computed costs tie at 7 while their exact costs are 7.734375 and 7.5:
the first is returned although the second has the smaller exact cost. The loads are dyadic,
so every float operation on them is exact and only `int()` changes the costs. -/
theorem findOptimalLeader_truncation_reorders :
    let a : Domain ℚ := ⟨"933ca51d2bb602b8", "192.168.0.38", 1, 1 / 4, 0⟩
    let b : Domain ℚ := ⟨"b92b49a4de72942d", "192.168.0.82", 1, 33 / 128, 0⟩
    findOptimalLeader init [a, b] = .pair (.obj a) (.num (7 : ℤ)) ∧
      exactCost init [a, b] b < exactCost init [a, b] a := by
  intro a b
  have hlat : init.domainLatency a b = 30 ∧ init.domainLatency b a = 30 ∧
      init.domainLatency a a = 0 ∧ init.domainLatency b b = 0 := by decide
  have hexact : binary64 (1 / 4) = 1 / 4 ∧ binary64 (15 / 2) = 15 / 2 ∧
      binary64 (33 / 128) = 33 / 128 ∧ binary64 (495 / 64) = 495 / 64 :=
    ⟨roundBinary_eq_self 1 (-2) (by norm_num) (by norm_num),
      roundBinary_eq_self 15 (-1) (by norm_num) (by norm_num),
      roundBinary_eq_self 33 (-7) (by norm_num) (by norm_num),
      roundBinary_eq_self 495 (-6) (by norm_num) (by norm_num)⟩
  have ha : calculateTotalLatency init a [a, b] = 7 := by
    simp only [calculateTotalLatency_eq, List.map, latencyTerm, hlat, List.sum_cons, List.sum_nil]
    rw [pyInt_eq_of_bounds 0, pyInt_eq_of_bounds 7] <;> norm_num [a, b, hexact]
  have hb : calculateTotalLatency init b [a, b] = 7 := by
    simp only [calculateTotalLatency_eq, List.map, latencyTerm, hlat, List.sum_cons, List.sum_nil]
    rw [pyInt_eq_of_bounds 7, pyInt_eq_of_bounds 0] <;> norm_num [a, b, hexact]
  refine ⟨by rw [findOptimalLeader_two init a b (by rw [ha, hb]), ha], ?_⟩
  simp only [exactCost, List.map, hlat, List.sum_cons, List.sum_nil]
  norm_num [a, b]

theorem mem_of_findOptimalLeader {self : OptimalLeaderCalculator} {domains : List (Domain ℚ)}
    {L : Domain ℚ} {c : PyValue (Domain ℚ) ℤ}
    (h : findOptimalLeader self domains = .pair (.obj L) c) : L ∈ domains := by
  match domains, h with
  | d :: ds, h =>
    rcases runningMin_spec (fun c => some (calculateTotalLatency self c (d :: ds))) (d :: ds) with
      ⟨_, hnone⟩ | ⟨L', c', hr, hfirst⟩
    · exact absurd (hnone d (List.mem_cons_self d ds)) (by simp)
    simp only [findOptimalLeader, hr, PyValue.ofOption_some, PyValue.pair.injEq,
      PyValue.obj.injEq] at h
    exact h.1 ▸ hfirst.mem

theorem findOptimalLeader_singleton (self : OptimalLeaderCalculator) (d : Domain ℚ) :
    findOptimalLeader self [d] = .pair (.obj d) (.num 0) := by
  have h : calculateTotalLatency self d [d] = 0 := by
    simp [calculateTotalLatency, latencyTerm, domainLatency, pyInt]
  simp [findOptimalLeader, runningMin, keepBetter, h]

/-! ### Independence of the input order -/

theorem calculateTotalLatency_perm (self : OptimalLeaderCalculator) (leader : Domain ℚ)
    {l l' : List (Domain ℚ)} (hp : l.Perm l') :
    calculateTotalLatency self leader l = calculateTotalLatency self leader l' := by
  simp only [calculateTotalLatency_eq, (hp.map _).sum_eq]

/-- Permuting the domains changes neither the least truncated cost nor, when the least-cost
domains are all one value, the returned pair. -/
theorem findOptimalLeader_perm (self : OptimalLeaderCalculator) {l l' : List (Domain ℚ)}
    (hp : l.Perm l') :
    (findOptimalLeader self l').snd = (findOptimalLeader self l).snd ∧
    ((∀ a ∈ l, ∀ b ∈ l, Minimal (fun c => some (calculateTotalLatency self c l)) l a →
        Minimal (fun c => some (calculateTotalLatency self c l)) l b → a = b) →
      findOptimalLeader self l' = findOptimalLeader self l) := by
  rcases l with _ | ⟨d, ds⟩
  · obtain rfl := hp.nil_eq
    exact ⟨rfl, fun _ => rfl⟩
  obtain ⟨d', ds', rfl⟩ : ∃ d' ds', l' = d' :: ds' :=
    List.exists_cons_of_ne_nil fun h => by simp [h] at hp
  have hc : (fun c => some (calculateTotalLatency self c (d' :: ds'))) =
      fun c => some (calculateTotalLatency self c (d :: ds)) :=
    funext fun c => by rw [calculateTotalLatency_perm self c hp]
  simp only [findOptimalLeader, PyValue.snd_pair, hc]
  exact ⟨by rw [runningMin_snd_perm hp], fun hu => by rw [runningMin_perm_of_unique hp hu]⟩

/-- Both cost models are blind to the order of their input, except for which of several
equally cheap candidates they return: the least cost is the same for every permutation, and
when one candidate alone attains it, so is the whole result. -/
theorem findOptimalLeader_order_independent :
    (∀ {α : Type} [LinearOrderedCommRing α] (self : OptimalLeaderCalculator)
        {l l' : List (Domain α)}, l.Perm l' →
      (MoveLeader.findOptimalLeader self l').snd = (MoveLeader.findOptimalLeader self l).snd ∧
      ((∀ a ∈ l, ∀ b ∈ l,
          Minimal (MoveLeader.candidateCost self l (MoveLeader.quorumSize l)) l a →
          Minimal (MoveLeader.candidateCost self l (MoveLeader.quorumSize l)) l b → a = b) →
        MoveLeader.findOptimalLeader self l' = MoveLeader.findOptimalLeader self l)) ∧
    (∀ (self : OptimalLeaderCalculator) {l l' : List (Domain ℚ)}, l.Perm l' →
      (findOptimalLeader self l').snd = (findOptimalLeader self l).snd ∧
      ((∀ a ∈ l, ∀ b ∈ l, Minimal (fun c => some (calculateTotalLatency self c l)) l a →
          Minimal (fun c => some (calculateTotalLatency self c l)) l b → a = b) →
        findOptimalLeader self l' = findOptimalLeader self l)) :=
  ⟨fun self _ _ hp => MoveLeader.findOptimalLeader_perm self hp,
    fun self _ _ hp => findOptimalLeader_perm self hp⟩

/-- Three `moveleader` domains of the shipped cluster reversed, and two `predict_leader` domains
swapped: each list has one cheapest candidate, and both orders agree. -/
theorem findOptimalLeader_order_independent_reversed :
    let a : Domain ℤ := ⟨"933ca51d2bb602b8", "192.168.0.38", 1, 10, 5⟩
    let b : Domain ℤ := ⟨"b92b49a4de72942d", "192.168.0.82", 1, 2, 1⟩
    let c : Domain ℤ := ⟨"69f554c3f7f50a72", "192.168.0.223", 1, 1, 1⟩
    let p : Domain ℚ := ⟨"933ca51d2bb602b8", "192.168.0.38", 1, 1, 0⟩
    let q : Domain ℚ := ⟨"b92b49a4de72942d", "192.168.0.82", 1, 2, 0⟩
    [a, b, c].Perm [c, b, a] ∧
      (∀ x ∈ [a, b, c], ∀ y ∈ [a, b, c],
        Minimal (MoveLeader.candidateCost init [a, b, c] (MoveLeader.quorumSize [a, b, c])) [a, b, c] x →
        Minimal (MoveLeader.candidateCost init [a, b, c] (MoveLeader.quorumSize [a, b, c])) [a, b, c] y →
        x = y) ∧
      MoveLeader.findOptimalLeader init [c, b, a] = MoveLeader.findOptimalLeader init [a, b, c] ∧
    [p, q].Perm [q, p] ∧
      (∀ x ∈ [p, q], ∀ y ∈ [p, q], Minimal (fun d => some (calculateTotalLatency init d [p, q])) [p, q] x →
        Minimal (fun d => some (calculateTotalLatency init d [p, q])) [p, q] y → x = y) ∧
      findOptimalLeader init [q, p] = findOptimalLeader init [p, q] := by
  intro a b c p q
  have hlat : init.domainLatency p q = 30 ∧ init.domainLatency q p = 30 ∧
      init.domainLatency p p = 0 ∧ init.domainLatency q q = 0 := by decide
  have hexact : binary64 2 = 2 ∧ binary64 30 = 30 ∧ binary64 60 = 60 :=
    ⟨binary64_ofNat 2 (by norm_num), binary64_ofNat 30 (by norm_num), binary64_ofNat 60 (by norm_num)⟩
  have hp : calculateTotalLatency init p [p, q] = 60 := by
    simp only [calculateTotalLatency_eq, List.map, latencyTerm, hlat, List.sum_cons, List.sum_nil]
    rw [pyInt_eq_of_bounds 0, pyInt_eq_of_bounds 60] <;> norm_num [p, q, hexact]
  have hq : calculateTotalLatency init q [p, q] = 30 := by
    simp only [calculateTotalLatency_eq, List.map, latencyTerm, hlat, List.sum_cons, List.sum_nil]
    rw [pyInt_eq_of_bounds 30, pyInt_eq_of_bounds 0] <;> norm_num [p, q, hexact]
  have hperm : [a, b, c].Perm [c, b, a] := by decide
  have huniq : ∀ x ∈ [a, b, c], ∀ y ∈ [a, b, c],
      Minimal (MoveLeader.candidateCost init [a, b, c] (MoveLeader.quorumSize [a, b, c])) [a, b, c] x →
      Minimal (MoveLeader.candidateCost init [a, b, c] (MoveLeader.quorumSize [a, b, c])) [a, b, c] y →
      x = y := by
    decide
  have hnotp : ¬ Minimal (fun d => some (calculateTotalLatency init d [p, q])) [p, q] p := by
    rintro ⟨e, he, hle⟩
    have := hle q (by simp) _ rfl
    simp only [Option.some.injEq] at he
    rw [← he, hp, hq] at this
    norm_num at this
  have huniq' : ∀ x ∈ [p, q], ∀ y ∈ [p, q],
      Minimal (fun d => some (calculateTotalLatency init d [p, q])) [p, q] x →
      Minimal (fun d => some (calculateTotalLatency init d [p, q])) [p, q] y → x = y := by
    simp only [List.mem_cons, List.mem_singleton, List.not_mem_nil, or_false]
    rintro x (rfl | rfl) y (rfl | rfl) hx hy <;> first | rfl | exact absurd hx hnotp | exact absurd hy hnotp
  exact ⟨hperm, huniq, (findOptimalLeader_order_independent.1 init hperm).2 huniq,
    List.Perm.swap q p [], huniq', (findOptimalLeader_order_independent.2 init (List.Perm.swap q p [])).2 huniq'⟩
end PRaft.PredictLeader
