import Mathlib

/-!
The loop both `find_optimal_leader` methods share:

    best, best_cost = None, float("inf")
    for cand in domains:
        cost = ...          # moveleader skips (`continue`s) a candidate with no quorum
        if cost < best_cost:
            best, best_cost = cand, cost

`runningMin` returns the first candidate of least cost together with that cost. The
permutation lemmas at the end say which part of the result depends on the input order:
the least cost never does, the chosen candidate only when several attain it.
-/

namespace PRaft

variable {β α : Type} [LinearOrder α]

/-- One iteration of the loop body. A candidate without a cost is skipped. -/
def keepBetter (cost : β → Option α) (acc : Option β × WithTop α) (cand : β) :
    Option β × WithTop α :=
  match cost cand with
  | none => acc
  | some c => if (c : WithTop α) < acc.2 then (some cand, c) else acc

/-- The whole loop, from `(None, float("inf"))`. -/
def runningMin (cost : β → Option α) (xs : List β) : Option β × WithTop α :=
  xs.foldl (keepBetter cost) (none, ⊤)

/-- `a` has a cost, and no candidate of `xs` has a smaller one. -/
def Minimal (cost : β → Option α) (xs : List β) (a : β) : Prop :=
  ∃ c, cost a = some c ∧ ∀ x ∈ xs, ∀ d, cost x = some d → c ≤ d

/-- `best`, of cost `c`, is the first candidate of `xs` of least cost: `c` is least, and
every candidate with a cost before `best` costs strictly more. -/
def FirstMinimal (cost : β → Option α) (xs : List β) (best : β) (c : α) : Prop :=
  cost best = some c ∧ (∀ x ∈ xs, ∀ d, cost x = some d → c ≤ d) ∧
    ∃ pre post, xs = pre ++ best :: post ∧ ∀ x ∈ pre, ∀ d, cost x = some d → c < d

/-- What the loop has established after the candidates `xs`. -/
def ScanInv (cost : β → Option α) (xs : List β) : Option β × WithTop α → Prop
  | (none, m) => m = ⊤ ∧ ∀ x ∈ xs, cost x = none
  | (some b, m) => ∃ c : α, m = c ∧ FirstMinimal cost xs b c

variable {cost : β → Option α}

theorem FirstMinimal.mem {xs : List β} {b : β} {c : α} (h : FirstMinimal cost xs b c) :
    b ∈ xs := by
  obtain ⟨_, _, pre, post, rfl, _⟩ := h
  simp

theorem FirstMinimal.minimal {xs : List β} {b : β} {c : α} (h : FirstMinimal cost xs b c) :
    Minimal cost xs b :=
  ⟨c, h.1, h.2.1⟩

private theorem firstMinimal_snoc_skip {xs : List β} {b x : β} {c : α}
    (h : FirstMinimal cost xs b c) (hx : cost x = none) :
    FirstMinimal cost (xs ++ [x]) b c := by
  obtain ⟨hb, hle, pre, post, rfl, hpre⟩ := h
  refine ⟨hb, ?_, pre, post ++ [x], by simp, hpre⟩
  intro y hy d hd
  rcases List.mem_append.mp hy with hy | hy
  · exact hle y hy d hd
  · simp_all

private theorem firstMinimal_snoc_new {xs : List β} {x : β} {d : α} (hx : cost x = some d)
    (hlt : ∀ y ∈ xs, ∀ e, cost y = some e → d < e) :
    FirstMinimal cost (xs ++ [x]) x d := by
  refine ⟨hx, ?_, xs, [], rfl, hlt⟩
  intro y hy e he
  rcases List.mem_append.mp hy with hy | hy
  · exact (hlt y hy e he).le
  · simp_all

/-- The step lemma: one iteration of the body keeps `ScanInv`. -/
theorem scanInv_keepBetter {xs : List β} {acc : Option β × WithTop α} (x : β)
    (h : ScanInv cost xs acc) : ScanInv cost (xs ++ [x]) (keepBetter cost acc x) := by
  rcases acc with ⟨_ | b, m⟩
  · obtain ⟨rfl, hnone⟩ := h
    cases hx : cost x with
    | none =>
        simp only [keepBetter, hx, ScanInv, true_and, List.mem_append, List.mem_singleton]
        rintro y (hy | rfl)
        exacts [hnone y hy, hx]
    | some d =>
        simp only [keepBetter, hx, WithTop.coe_lt_top, if_true]
        exact ⟨d, rfl, firstMinimal_snoc_new hx fun y hy e he => by simp_all⟩
  · obtain ⟨c, rfl, hc⟩ := h
    cases hx : cost x with
    | none =>
        simp only [keepBetter, hx]
        exact ⟨c, rfl, firstMinimal_snoc_skip hc hx⟩
    | some d =>
        simp only [keepBetter, hx, WithTop.coe_lt_coe]
        split_ifs with hdc
        · exact ⟨d, rfl, firstMinimal_snoc_new hx fun y hy e he =>
            lt_of_lt_of_le hdc (hc.2.1 y hy e he)⟩
        · obtain ⟨hb, hle, pre, post, rfl, hpre⟩ := hc
          refine ⟨c, rfl, hb, ?_, pre, post ++ [x], by simp, hpre⟩
          intro y hy e he
          rcases List.mem_append.mp hy with hy | hy
          · exact hle y hy e he
          · simp only [List.mem_singleton] at hy
            subst hy
            simp_all [not_lt]

/-- The run lemma: after the whole loop `ScanInv` holds of the full list. -/
theorem scanInv_runningMin (cost : β → Option α) (xs : List β) :
    ScanInv cost xs (runningMin cost xs) := by
  induction xs using List.reverseRecOn with
  | nil => exact ⟨rfl, by simp⟩
  | append_singleton xs x ih =>
      simpa [runningMin, List.foldl_append] using scanInv_keepBetter x ih

/-- The loop returns `(None, inf)` exactly when no candidate has a cost, and otherwise
the first candidate of least cost with that cost. -/
theorem runningMin_spec (cost : β → Option α) (xs : List β) :
    (runningMin cost xs = (none, ⊤) ∧ ∀ x ∈ xs, cost x = none) ∨
      ∃ b, ∃ c : α, runningMin cost xs = (some b, (c : WithTop α)) ∧ FirstMinimal cost xs b c := by
  have h := scanInv_runningMin cost xs
  rcases hr : runningMin cost xs with ⟨_ | b, m⟩ <;> rw [hr] at h
  · exact .inl ⟨by rw [h.1], h.2⟩
  · obtain ⟨c, rfl, hc⟩ := h
    exact .inr ⟨b, c, rfl, hc⟩

theorem isSome_fst_runningMin (cost : β → Option α) (xs : List β) :
    (runningMin cost xs).1.isSome ↔ (runningMin cost xs).2 ≠ ⊤ := by
  rcases runningMin_spec cost xs with ⟨h, _⟩ | ⟨b, c, h, _⟩ <;> simp [h]

theorem minimal_iff {xs : List β} {a : β} :
    Minimal cost xs a ↔ ∃ c ∈ cost a, ∀ x ∈ xs, ∀ d ∈ cost x, c ≤ d := by
  simp [Minimal, Option.mem_def]

instance {xs : List β} {a : β} : Decidable (Minimal cost xs a) :=
  decidable_of_iff _ minimal_iff.symm

theorem Minimal.perm {xs ys : List β} {a : β} (hp : xs.Perm ys) (h : Minimal cost xs a) :
    Minimal cost ys a := by
  obtain ⟨c, hc, hle⟩ := h
  exact ⟨c, hc, fun x hx => hle x (hp.mem_iff.mpr hx)⟩

/-- The least cost the loop returns does not depend on the order of the candidates. -/
theorem runningMin_snd_perm {xs ys : List β} (hp : xs.Perm ys) :
    (runningMin cost xs).2 = (runningMin cost ys).2 := by
  rcases runningMin_spec cost xs with ⟨hx, nx⟩ | ⟨b, c, hx, fx⟩ <;>
  rcases runningMin_spec cost ys with ⟨hy, ny⟩ | ⟨b', c', hy, fy⟩ <;>
  rw [hx, hy]
  · have := nx b' (hp.mem_iff.mpr fy.mem)
    simp [fy.1] at this
  · have := ny b (hp.mem_iff.mp fx.mem)
    simp [fx.1] at this
  · have h1 := fx.2.1 b' (hp.mem_iff.mpr fy.mem) c' fy.1
    have h2 := fy.2.1 b (hp.mem_iff.mp fx.mem) c fx.1
    simp [le_antisymm h1 h2]

/-- When the candidates of least cost are all the same value, the whole result of the
loop does not depend on the order of the candidates. -/
theorem runningMin_perm_of_unique {xs ys : List β} (hp : xs.Perm ys)
    (hu : ∀ a ∈ xs, ∀ b ∈ xs, Minimal cost xs a → Minimal cost xs b → a = b) :
    runningMin cost xs = runningMin cost ys := by
  rcases runningMin_spec cost xs with ⟨hx, nx⟩ | ⟨b, c, hx, fx⟩ <;>
  rcases runningMin_spec cost ys with ⟨hy, ny⟩ | ⟨b', c', hy, fy⟩ <;>
  rw [hx, hy]
  · have := nx b' (hp.mem_iff.mpr fy.mem)
    simp [fy.1] at this
  · have := ny b (hp.mem_iff.mp fx.mem)
    simp [fx.1] at this
  · have hb : b = b' := hu b fx.mem b' (hp.mem_iff.mpr fy.mem) fx.minimal
      (fy.minimal.perm hp.symm)
    subst hb
    have hc : c = c' := Option.some_injective _ (fx.1.symm.trans fy.1)
    rw [hc]

/-! ### Updating the chosen candidate in place -/

private theorem append_cons_eq_of_first {P : β → Prop} :
    ∀ {pre pre' post post' : List β} {b b' : β}, pre ++ b :: post = pre' ++ b' :: post' →
      P b → P b' → (∀ x ∈ pre, ¬ P x) → (∀ x ∈ pre', ¬ P x) → pre = pre' ∧ b = b'
  | [], [], _, _, _, _, h, _, _, _, _ => ⟨rfl, (List.cons.inj h).1⟩
  | [], x :: _, _, _, _, _, h, hb, _, _, h' => absurd ((List.cons.inj h).1 ▸ hb) (h' x (by simp))
  | x :: _, [], _, _, _, _, h, _, hb', h₀, _ =>
    absurd ((List.cons.inj h).1 ▸ hb') (h₀ x (by simp))
  | x :: _, y :: _, _, _, _, _, h, hb, hb', h₀, h' => by
    have htail := (List.cons.inj h).2
    obtain rfl : x = y := (List.cons.inj h).1
    obtain ⟨rfl, rfl⟩ := append_cons_eq_of_first htail hb hb'
      (fun z hz => h₀ z (List.mem_cons_of_mem _ hz)) (fun z hz => h' z (List.mem_cons_of_mem _ hz))
    exact ⟨rfl, rfl⟩

theorem exists_of_forall₂_right {γ : Type} {R : β → γ → Prop} {xs : List β} {ys : List γ}
    (h : List.Forall₂ R xs ys) : ∀ y ∈ ys, ∃ x ∈ xs, R x y := by
  induction h with
  | nil => simp
  | cons hxy _ ih =>
    rintro y (_ | ⟨_, hy⟩)
    · exact ⟨_, List.mem_cons_self _ _, hxy⟩
    · obtain ⟨x, hx, hr⟩ := ih y hy
      exact ⟨x, List.mem_cons_of_mem _ hx, hr⟩

theorem runningMin_eq_of_firstMinimal {xs : List β} {b : β} {c : α}
    (h : FirstMinimal cost xs b c) : runningMin cost xs = (some b, (c : WithTop α)) := by
  rcases runningMin_spec cost xs with ⟨-, hnone⟩ | ⟨b', c', hr, h'⟩
  · exact absurd (hnone b h.mem) (by simp [h.1])
  have hc : c = c' := le_antisymm (h.2.1 b' h'.mem c' h'.1) (h'.2.1 b h.mem c h.1)
  subst hc
  obtain ⟨hb, -, pre, post, rfl, hpre⟩ := h
  obtain ⟨hb', -, pre', post', heq, hpre'⟩ := h'
  have hfirst := append_cons_eq_of_first (P := fun x => cost x = some c) heq hb hb'
    (fun x hx hc => lt_irrefl c (hpre x hx c hc)) (fun x hx hc => lt_irrefl c (hpre' x hx c hc))
  rw [hr, hfirst.2]

/-- At the first occurrence of `b`, the candidates before the first of least cost `b` all cost
strictly more. -/
theorem FirstMinimal.lt_of_not_mem {pre post : List β} {b : β} {c : α}
    (h : FirstMinimal cost (pre ++ b :: post) b c) (hb : b ∉ pre) :
    ∀ x ∈ pre, ∀ d, cost x = some d → c < d := by
  obtain ⟨hcb, -, pre₁, post₁, heq, hpre₁⟩ := h
  obtain ⟨rfl, -⟩ := append_cons_eq_of_first (P := (· = b)) heq rfl rfl
    (fun x hx hxb => hb (hxb ▸ hx)) (fun x hx hxb => lt_irrefl c (hpre₁ x hx c (hxb ▸ hcb)))
  exact hpre₁

/-- Update the candidate `b`, first of least cost, in place to `b'` of the same cost, and let no
candidate's cost fall: `b'` is then first of least cost, at the same cost. `post'` is `post`
with some occurrences of `b` replaced by `b'` (the positions holding the updated object). -/
theorem runningMin_update {cost' : β → Option α} {pre post post' : List β} {b b' : β} {c : α}
    (h : runningMin cost (pre ++ b :: post) = (some b, (c : WithTop α))) (hb : b ∉ pre)
    (hb' : cost' b' = cost b)
    (hraise : ∀ x ∈ pre ++ b :: post, ∀ d', cost' x = some d' → ∃ d, cost x = some d ∧ d ≤ d')
    (hpost : List.Forall₂ (fun x y => y = x ∨ x = b ∧ y = b') post post') :
    runningMin cost' (pre ++ b' :: post') = (some b', (c : WithTop α)) := by
  have hfirst : FirstMinimal cost (pre ++ b :: post) b c := by
    rcases runningMin_spec cost (pre ++ b :: post) with ⟨hr, -⟩ | ⟨b₁, c₁, hr, h₁⟩
    · rw [hr] at h; cases h
    · rw [hr, Prod.mk.injEq, Option.some.injEq, WithTop.coe_eq_coe] at h
      obtain ⟨rfl, rfl⟩ := h
      exact h₁
  have hcb' : cost' b' = some c := hb'.trans hfirst.1
  have hge : ∀ y ∈ pre ++ b' :: post', ∀ d', cost' y = some d' → c ≤ d' := by
    intro y hy d' hd'
    have hy' : y ∈ pre ++ b :: post ∨ y = b' := by
      simp only [List.mem_append, List.mem_cons] at hy
      rcases hy with hy | rfl | hy
      · exact .inl (by simp [hy])
      · exact .inr rfl
      · obtain ⟨x, hx, rfl | ⟨rfl, rfl⟩⟩ := exists_of_forall₂_right hpost y hy
        exacts [.inl (by simp [hx]), .inr rfl]
    rcases hy' with hy' | rfl
    · obtain ⟨d, hd, hdd⟩ := hraise y hy' d' hd'
      exact (hfirst.2.1 y hy' d hd).trans hdd
    · exact (Option.some.inj (hcb'.symm.trans hd')).le
  refine runningMin_eq_of_firstMinimal ⟨hcb', hge, pre, post', rfl, fun x hx d' hd' => ?_⟩
  obtain ⟨d, hd, hdd⟩ := hraise x (by simp [hx]) d' hd'
  exact (hfirst.lt_of_not_mem hb x hx d hd).trans_le hdd

end PRaft
