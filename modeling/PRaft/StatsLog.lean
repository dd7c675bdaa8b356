import PRaft.SlotLoop

/-!
The round trip of `append_total_stats_from_log`. Its docstring quotes the two lines of a go-ycsb
log it reads: the property `"operationcount"="182"` and the summary
`TOTAL - ... Count: 68 ... Avg(us): 43211 ...`. On a log with such lines, whatever go-ycsb prints
around the two fields, the row it appends holds the numbers printed there, the average in
milliseconds.

`opcountLine` and `totalLine` print the two lines as the docstring quotes them; the text around
the fields is free but for what the patterns need to pass over it: no newline and no letter that
starts the next field name (`.*?` stops at the first place the rest of the pattern matches).
-/

namespace PRaft.Workload

open MoveLeader (isPySpace isPyDigit pyDigitValue)

/-! ### `str(n)` read back -/

/-- The ten decimal digits. -/
def decimalDigits : List Char := "0123456789".data

theorem foldl_decimalValue (a : ℕ) (ds : List Char) :
    ds.foldl (fun n c => 10 * n + (pyDigitValue c).getD 0) a = a * 10 ^ ds.length + decimalValue ds := by
  induction ds generalizing a with
  | nil => simp [decimalValue]
  | cons d ds ih =>
    rw [List.foldl_cons, ih]
    conv_rhs => rw [decimalValue, List.foldl_cons, ih]
    simp only [List.length_cons, pow_succ]
    ring

theorem decimalValue_cons (d : Char) (ds : List Char) :
    decimalValue (d :: ds) = (pyDigitValue d).getD 0 * 10 ^ ds.length + decimalValue ds := by
  rw [decimalValue, List.foldl_cons, foldl_decimalValue]
  simp

theorem digitChar_mem {d : ℕ} (hd : d < 10) :
    Nat.digitChar d ∈ decimalDigits ∧ pyDigitValue (Nat.digitChar d) = some d := by
  interval_cases d <;> decide

/-- The digits `toDigitsCore` puts before `ds` are decimal digits and carry the value `n`. -/
theorem toDigitsCore_spec :
    ∀ (fuel n : ℕ) (ds : List Char), n < fuel → (∀ c ∈ ds, c ∈ decimalDigits) →
      (∀ c ∈ Nat.toDigitsCore 10 fuel n ds, c ∈ decimalDigits) ∧
        decimalValue (Nat.toDigitsCore 10 fuel n ds) = n * 10 ^ ds.length + decimalValue ds ∧
        Nat.toDigitsCore 10 fuel n ds ≠ []
  | 0, n, _, h, _ => absurd h (Nat.not_lt_zero n)
  | fuel + 1, n, ds, h, hds => by
    obtain ⟨hmem, hval⟩ := digitChar_mem (Nat.mod_lt n (by norm_num : 10 > 0))
    have hds' : ∀ c ∈ Nat.digitChar (n % 10) :: ds, c ∈ decimalDigits :=
      List.forall_mem_cons.2 ⟨hmem, hds⟩
    simp only [Nat.toDigitsCore]
    split_ifs with h0
    · refine ⟨hds', ?_, List.cons_ne_nil _ _⟩
      rw [decimalValue_cons, hval, Option.getD_some]
      congr 2
      omega
    · obtain ⟨h1, h2, h3⟩ := toDigitsCore_spec fuel (n / 10) _ (by omega) hds'
      refine ⟨h1, ?_, h3⟩
      rw [h2, decimalValue_cons, hval, Option.getD_some, List.length_cons, pow_succ]
      conv_rhs => rw [← Nat.div_add_mod n 10]
      ring

/-- `str(k)` is a non-empty run of decimal digits whose value is `k`. -/
theorem toString_digits (k : ℕ) :
    (toString k).data ≠ [] ∧ (∀ c ∈ (toString k).data, c ∈ decimalDigits) ∧
      decimalValue (toString k).data = k := by
  obtain ⟨h1, h2, h3⟩ := toDigitsCore_spec (k + 1) k [] (Nat.lt_succ_self k) (by simp)
  exact ⟨h3, h1, by simpa [decimalValue] using h2⟩

theorem decimalDigits_spec : ∀ c ∈ decimalDigits, isPyDigit c = true ∧ isPySpace c = false := by
  decide

theorem ignoreCasePrefix_append :
    ∀ (ps xs ys : List Char), ignoreCasePrefix ps xs = true → ignoreCasePrefix ps (xs ++ ys) = true
  | [], _, _, _ => rfl
  | _ :: _, [], _, h => absurd h (by simp [ignoreCasePrefix])
  | p :: ps, c :: cs, ys, h => by
    simp only [ignoreCasePrefix, Bool.and_eq_true] at h ⊢
    exact ⟨h.1, ignoreCasePrefix_append ps cs ys h.2⟩

/-! ### The patterns on the printed lines -/

theorem searchFrom_of_matchAt {α : Type} {f : List Char → Option α} {s : List Char} {a : α}
    (h : f s = some a) : searchFrom f s = some a := by
  cases s <;> simp [searchFrom, h]

theorem lazyThen_of_some {α : Type} {f : List Char → Option α} {s : List Char} {a : α}
    (h : f s = some a) : lazyThen f s = some a := by
  cases s <;> simp [lazyThen, h]

/-- `.*?` passes over text on which the rest of the pattern cannot start. -/
theorem lazyThen_append {α : Type} {f : List Char → Option α} {ys : List Char} :
    ∀ {xs : List Char}, (∀ c ∈ xs, c ≠ '\n' ∧ ∀ zs, f (c :: zs) = none) →
      lazyThen f (xs ++ ys) = lazyThen f ys
  | [], _ => rfl
  | c :: xs, h => by
    obtain ⟨⟨hnl, hf⟩, hxs⟩ := List.forall_mem_cons.1 h
    simp [lazyThen, hf, hnl, lazyThen_append hxs]

theorem takeWhile_dropWhile_digits {ds rest : List Char} (hds : ∀ c ∈ ds, c ∈ decimalDigits)
    (hrest : ∀ c ∈ rest.head?, isPyDigit c = false) :
    (ds ++ rest).takeWhile isPyDigit = ds ∧ (ds ++ rest).dropWhile isPyDigit = rest := by
  have hd : ∀ c ∈ ds, isPyDigit c = true := fun c hc => (decimalDigits_spec c (hds c hc)).1
  rw [List.takeWhile_append_of_pos hd, List.dropWhile_append_of_pos hd]
  cases rest with
  | nil => simp
  | cons c cs => simp [hrest c rfl]

theorem dropWhile_space_digits {ds rest : List Char} (hne : ds ≠ [])
    (hds : ∀ c ∈ ds, c ∈ decimalDigits) : (ds ++ rest).dropWhile isPySpace = ds ++ rest := by
  obtain ⟨c, cs, rfl⟩ := List.exists_cons_of_ne_nil hne
  simp [(decimalDigits_spec c (hds c (List.mem_cons_self _ _))).2]

/-- The property line go-ycsb prints for `operationcount`, as the docstring quotes it
(`"operationcount"="182"`), then the rest of the line. -/
def opcountLine (k : ℕ) (rest : String) : String :=
  "\x22operationcount\x22=\x22" ++ toString k ++ "\x22" ++ rest

/-- A summary line as the docstring quotes it: `TOTAL - `, then `Count: 68` and `Avg(us): 43211`
with the text go-ycsb prints before, between and after them. -/
def totalLine (before : String) (n : ℕ) (between : String) (u : ℕ) (tail : String) : String :=
  "TOTAL - " ++ before ++ "Count: " ++ toString n ++ between ++ "Avg(us): " ++ toString u ++ tail

theorem opcountAt_opcountLine (k : ℕ) (rest : String) :
    opcountAt (opcountLine k rest).data = some (toString k).data := by
  obtain ⟨hne, hds, -⟩ := toString_digits k
  obtain ⟨htake, hdrop⟩ := @takeWhile_dropWhile_digits _ ('\x22' :: rest.data) hds
    (by simp only [List.head?_cons, Option.mem_def, Option.some.injEq, forall_eq']; decide)
  have hs : (opcountLine k rest).data =
      "\x22operationcount\x22".data ++ '=' :: '\x22' :: ((toString k).data ++ '\x22' :: rest.data) := by
    simp [opcountLine]
  rw [opcountAt, hs, if_pos (by simp [List.isPrefixOf_iff_prefix]), List.drop_left' (by rfl),
    List.dropWhile_cons_of_neg (by decide)]
  have hq : isPySpace '\x22' = false := by decide
  simp [hq, htake, hdrop, hne]

/-- `Avg\(us\):\s*([\d.]+)` on `Avg(us): 43211`: the digits, when what follows is neither a
digit nor a dot. -/
theorem avgAt_line (u : ℕ) {tail : List Char}
    (htail : ∀ c ∈ tail.head?, (isPyDigit c || c = '.') = false) :
    avgAt ("Avg(us): ".data ++ ((toString u).data ++ tail)) = some (toString u).data := by
  obtain ⟨hne, hds, -⟩ := toString_digits u
  have hd : ∀ c ∈ (toString u).data, (isPyDigit c || c = '.') = true := fun c hc => by
    simp [(decimalDigits_spec c (hds c hc)).1]
  have hstop : tail.takeWhile (fun c => isPyDigit c || c = '.') = [] := by
    cases tail with
    | nil => rfl
    | cons c cs => simp [htail c rfl]
  rw [avgAt, if_pos (ignoreCasePrefix_append "avg(us):".data "Avg(us): ".data _ (by decide))]
  simp only [List.append_assoc, List.cons_append, List.nil_append, List.drop_succ_cons,
    List.drop_zero]
  rw [List.dropWhile_cons_of_pos (by decide), dropWhile_space_digits hne hds,
    List.takeWhile_append_of_pos hd, hstop, List.append_nil, if_neg hne]

theorem avgAt_of_ne {c : Char} (h : c.toLower ≠ 'a') (zs : List Char) : avgAt (c :: zs) = none := by
  simp [avgAt, ignoreCasePrefix, matchesIgnoreCase, h]

theorem countAt_of_ne {c : Char} (h : c.toLower ≠ 'c') (zs : List Char) :
    countAt (c :: zs) = none := by
  simp [countAt, ignoreCasePrefix, matchesIgnoreCase, h]

/-- `Count:\s*(\d+).*?Avg\(us\):\s*([\d.]+)` on `Count: 68, ... Avg(us): 43211`. -/
theorem countAt_line (n u : ℕ) {between tail : List Char}
    (hbetween : ∀ c ∈ between, c ≠ '\n' ∧ c.toLower ≠ 'a')
    (hdigit : ∀ c ∈ between.head?, isPyDigit c = false)
    (htail : ∀ c ∈ tail.head?, (isPyDigit c || c = '.') = false) :
    countAt ("Count: ".data ++ ((toString n).data ++ (between ++ ("Avg(us): ".data ++
      ((toString u).data ++ tail))))) = some ((toString n).data, (toString u).data) := by
  obtain ⟨hne, hds, -⟩ := toString_digits n
  have hrest : ∀ c ∈ (between ++ ("Avg(us): ".data ++ ((toString u).data ++ tail))).head?,
      isPyDigit c = false := by
    cases between with
    | nil => exact fun c hc => by cases hc; decide
    | cons c cs => simpa using hdigit
  obtain ⟨htake, hdrop⟩ := @takeWhile_dropWhile_digits _ _ hds hrest
  have havg : lazyThen avgAt (between ++ ("Avg(us): ".data ++ ((toString u).data ++ tail))) =
      some (toString u).data := by
    rw [lazyThen_append fun c hc => ⟨(hbetween c hc).1, avgAt_of_ne (hbetween c hc).2⟩]
    exact lazyThen_of_some (avgAt_line u htail)
  rw [countAt, if_pos (ignoreCasePrefix_append "count:".data "Count: ".data _ (by decide))]
  simp only [List.cons_append, List.nil_append, List.drop_succ_cons,
    List.drop_zero] at htake hdrop havg ⊢
  rw [List.dropWhile_cons_of_pos (by decide), dropWhile_space_digits hne hds, htake, if_neg hne,
    hdrop, havg]
  rfl

/-- `^TOTAL\s+-.*?Count:...` on a summary line. -/
theorem totalAt_totalLine (before : String) (n : ℕ) (between : String) (u : ℕ) (tail : String)
    (hbefore : ∀ c ∈ before.data, c ≠ '\n' ∧ c.toLower ≠ 'c')
    (hbetween : ∀ c ∈ between.data, c ≠ '\n' ∧ c.toLower ≠ 'a')
    (hdigit : ∀ c ∈ between.data.head?, isPyDigit c = false)
    (htail : ∀ c ∈ tail.data.head?, (isPyDigit c || c = '.') = false) :
    totalAt (totalLine before n between u tail).data =
      some ((toString n).data, (toString u).data) := by
  have hskip : ∀ c ∈ ' ' :: before.data, c ≠ '\n' ∧ ∀ zs, countAt (c :: zs) = none := by
    refine List.forall_mem_cons.2 ⟨⟨by decide, countAt_of_ne (by decide)⟩, fun c hc => ?_⟩
    exact ⟨(hbefore c hc).1, countAt_of_ne (hbefore c hc).2⟩
  have hcount := lazyThen_of_some (countAt_line n u hbetween hdigit htail)
  rw [← lazyThen_append hskip] at hcount
  have hs : (totalLine before n between u tail).data = "TOTAL".data ++ ' ' :: '-' ::
      (' ' :: before.data ++ ("Count: ".data ++ ((toString n).data ++ (between.data ++
        ("Avg(us): ".data ++ ((toString u).data ++ tail.data)))))) := by
    simp [totalLine]
  have hsp : isPySpace ' ' = true := by decide
  have hdash : isPySpace '-' = false := by decide
  rw [totalAt, hs, List.drop_left' (by rfl),
    if_pos ⟨ignoreCasePrefix_append "total".data "TOTAL".data _ (by decide), by simp [hsp, hdash]⟩]
  simpa [hsp, hdash] using hcount

theorem floatOfDigits_toString (u : ℕ) : floatOfDigits (toString u).data = some (u : ℚ) := by
  obtain ⟨-, hds, hval⟩ := toString_digits u
  have hdrop := (@takeWhile_dropWhile_digits _ [] hds (by simp)).2
  rw [List.append_nil] at hdrop
  simp [floatOfDigits, hdrop, hval]

/-- The round trip of `append_total_stats_from_log`: on a log whose first `operationcount`
property reads `"operationcount"="k"` and whose last summary line reads
`TOTAL - ... Count: n ... Avg(us): u ...`, it appends the row `k, n, u / 1000`, whatever the log
holds before, between and after those lines. The text around the summary's fields needs only to
let the lazy `.*?` pass: no newline, and no letter that starts the next field's name. -/
theorem appendTotalStatsFromLog_roundTrip (k : ℕ) (rest before : String) (n : ℕ)
    (between : String) (u : ℕ) (tail : String) {pre mid post : List String}
    (hpre : ∀ l ∈ pre, searchFrom opcountAt l.data = none)
    (hpost : ∀ l ∈ post, totalAt l.data = none)
    (hbefore : ∀ c ∈ before.data, c ≠ '\n' ∧ c.toLower ≠ 'c')
    (hbetween : ∀ c ∈ between.data, c ≠ '\n' ∧ c.toLower ≠ 'a')
    (hdigit : ∀ c ∈ between.data.head?, isPyDigit c = false)
    (htail : ∀ c ∈ tail.data.head?, (isPyDigit c || c = '.') = false) :
    appendTotalStatsFromLog
        (pre ++ opcountLine k rest :: mid ++ totalLine before n between u tail :: post) =
      .ok (some (k, n, u / 1000)) := by
  have hop := searchFrom_of_matchAt (opcountAt_opcountLine k rest)
  have htot := totalAt_totalLine before n between u tail hbefore hbetween hdigit htail
  have hlast : (pre ++ opcountLine k rest :: mid ++ totalLine before n between u tail :: post).reverse.findSome?
      (fun l => totalAt l.data) = some ((toString n).data, (toString u).data) := by
    rw [List.reverse_append, List.reverse_cons, List.append_assoc, List.findSome?_append,
      List.findSome?_eq_none_iff.2 fun l hl => hpost l (List.mem_reverse.1 hl), Option.none_or,
      List.singleton_append, List.findSome?_cons_of_isSome _ (by simp [htot]), htot]
  have hfirst : (pre ++ opcountLine k rest :: mid ++ totalLine before n between u tail :: post).findSome?
      (fun l => searchFrom opcountAt l.data) = some (toString k).data := by
    rw [List.append_assoc, List.cons_append, List.findSome?_append,
      List.findSome?_eq_none_iff.2 hpre, Option.none_or,
      List.findSome?_cons_of_isSome _ (by simp [hop]), hop]
  simp only [appendTotalStatsFromLog, hlast, floatOfDigits_toString, hfirst, Option.map_some',
    (toString_digits k).2.2, (toString_digits n).2.2]

/-- A log in the shape of the docstring's example: the row is `182, 68, 43.211`. -/
theorem appendTotalStatsFromLog_roundTrip_docstring :
    appendTotalStatsFromLog (["***************** properties *****************"] ++
        opcountLine 182 "" :: ["Run finished, takes 10.0s"] ++
        totalLine "Takes(s): 10.0, " 68 ", OPS: 6.8, " 43211 ", Min(us): 1000" :: []) =
      .ok (some (182, 68, 43211 / 1000)) :=
  appendTotalStatsFromLog_roundTrip 182 "" "Takes(s): 10.0, " 68 ", OPS: 6.8, " 43211
    ", Min(us): 1000" (by decide) (by simp) (by decide) (by decide) (by decide) (by decide)

end PRaft.Workload
