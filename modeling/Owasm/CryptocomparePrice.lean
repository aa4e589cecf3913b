import Owasm.Basic

/-! # The `cryptocompare_price` oracle script

    `execute` (`examples/cryptocompare_price/src/logic.rs`) averages what
    the validators reported: the price in `f32` and the time stamp in
    `u64`, each summed in a loop and divided by the number of reports.

    The `f32` arithmetic is a parameter of the model (`F32Ops`): IEEE
    binary32 is not modelled, and the time stamp, the subject here, never
    goes through it.  The `u64` accumulator is unguarded: a release build
    sums it modulo `2^64` (`execute`), a build with overflow checks panics
    once the total reaches `2^64` (`executeChecked`).  In both, `u64`
    division by zero (no reports) is a panic.

    The time stamp is the reports' average only while their exact total
    stays below `2^64` (Section 1); two reports stamped `2^63` already
    break it, in each build its own way (`execute_time_stamp_overflows`).
-/

namespace Owasm.CryptocomparePrice

/-- The `f32` operations `execute` uses, over a type `F` of `f32` values:
    the literals `0.0` and `100.0`, `+`, `/`, `*`, `usize as f32` and
    `f32 as u64`. -/
structure F32Ops (F : Type) where
  zero : F
  hundred : F
  add : F → F → F
  div : F → F → F
  mul : F → F → F
  ofNat : Nat → F
  toU64 : F → UInt64

/-- Lean's binary64 `Float` standing in for `f32` where a run needs
    concrete prices. -/
def binary64Ops : F32Ops Float where
  zero := 0.0
  hundred := 100.0
  add := (· + ·)
  div := (· / ·)
  mul := (· * ·)
  ofNat := Float.ofNat
  toU64 := Float.toUInt64

/-- `Data` (`decl_data!`): one validator's report. -/
structure Data (F : Type) where
  crypto_compare_price : F
  time_stamp : UInt64

/-- `Result` (`decl_result!`). -/
structure Result where
  crypto_price_in_usd : UInt64
  time_stamp : UInt64

variable {F : Type}

/-- One pass of the loop of `execute` over `data`: the running price total
    and the running `u64` time stamp total. -/
def accumulate (f32 : F32Ops F) (acc : F × UInt64) (each : Data F) : F × UInt64 :=
  (f32.add acc.1 each.crypto_compare_price, acc.2 + each.time_stamp)

/-- `execute`; `none` is the panic of `time_stamp_acc / 0` on no reports.
    The parameters (`crypto_symbol`) are not read. -/
def execute (f32 : F32Ops F) (data : List (Data F)) : Option Result :=
  let (total_crypto_price, time_stamp_acc) := data.foldl (accumulate f32) (f32.zero, 0)
  let average_crypto_price := f32.div total_crypto_price (f32.ofNat data.length)
  let len : UInt64 := UInt64.ofNat data.length
  if len = 0 then none
  else
    some { crypto_price_in_usd := f32.toU64 (f32.mul average_crypto_price f32.hundred),
           time_stamp := time_stamp_acc / len }

/-- One pass of the loop in a build with overflow checks:
    `time_stamp_acc += each.time_stamp` panics ("attempt to add with
    overflow") once the exact total reaches `2^64`. -/
def accumulateChecked (f32 : F32Ops F) (acc : F × UInt64) (each : Data F) :
    Option (F × UInt64) :=
  if acc.2.toNat + each.time_stamp.toNat < 2 ^ 64 then some (accumulate f32 acc each) else none

/-- `execute` in a build with overflow checks; `none` is a panic, of the
    time stamp total or of `time_stamp_acc / 0`. -/
def executeChecked (f32 : F32Ops F) (data : List (Data F)) : Option Result := do
  let (total_crypto_price, time_stamp_acc) ← data.foldlM (accumulateChecked f32) (f32.zero, 0)
  let average_crypto_price := f32.div total_crypto_price (f32.ofNat data.length)
  let len : UInt64 := UInt64.ofNat data.length
  if len = 0 then none
  else
    some { crypto_price_in_usd := f32.toU64 (f32.mul average_crypto_price f32.hundred),
           time_stamp := time_stamp_acc / len }

/-! ## Section 1: The time stamp -/

/-- The reported time stamps, added over `Nat`. -/
def stampSum (data : List (Data F)) : Nat := (data.map fun d => d.time_stamp.toNat).sum

theorem UInt64.toNat_add (a b : UInt64) : (a + b).toNat = (a.toNat + b.toNat) % 2 ^ 64 :=
  BitVec.toNat_add a.toBitVec b.toBitVec

/-- The loop's `u64` total is the exact total modulo `2^64`. -/
theorem foldl_accumulate_snd (f32 : F32Ops F) (data : List (Data F)) (acc : F × UInt64) :
    (data.foldl (accumulate f32) acc).2.toNat = (acc.2.toNat + stampSum data) % 2 ^ 64 := by
  induction data generalizing acc with
  | nil => simp [stampSum, Nat.mod_eq_of_lt acc.2.toNat_lt_size]
  | cons d rest ih =>
    simp only [List.foldl_cons, ih, accumulate, UInt64.toNat_add, stampSum, List.map_cons,
      List.sum_cons]
    rw [Nat.mod_add_mod, Nat.add_assoc]

/-- What the release build computes: on any nonempty list of fewer than
    `2^64` reports (a `Vec` has fewer), `execute` returns a result whose
    time stamp is the exact total modulo `2^64`, divided by the number of
    reports; below `2^64` that is the exact average. -/
theorem execute_time_stamp (f32 : F32Ops F) (data : List (Data F)) (hne : data ≠ [])
    (hlen : data.length < 2 ^ 64) :
    ∃ r, execute f32 data = some r ∧
      r.time_stamp.toNat = stampSum data % 2 ^ 64 / data.length ∧
      (stampSum data < 2 ^ 64 → r.time_stamp.toNat = stampSum data / data.length) := by
  have hpos : 0 < data.length := List.length_pos.mpr hne
  have hn : (UInt64.ofNat data.length).toNat = data.length :=
    UInt64.toNat_ofNat_of_lt (by unfold UInt64.size; omega)
  have hn0 : UInt64.ofNat data.length ≠ 0 := by
    intro h; rw [h] at hn; simp at hn; omega
  have hts : (data.foldl (accumulate f32) (f32.zero, 0)).2.toNat = stampSum data % 2 ^ 64 := by
    rw [foldl_accumulate_snd]; simp
  let total := data.foldl (accumulate f32) (f32.zero, 0)
  refine ⟨⟨f32.toU64 (f32.mul (f32.div total.1 (f32.ofNat data.length)) f32.hundred),
    total.2 / UInt64.ofNat data.length⟩, by simp only [execute, if_neg hn0], ?_, fun hlt => ?_⟩
  · simp only [UInt64.toNat_div, total, hts, hn]
  · simp only [UInt64.toNat_div, total, hts, hn, Nat.mod_eq_of_lt hlt]

/-- `test_execute`: the time stamps 10 and 12 average to 11. -/
example : (execute binary64Ops [⟨100.0, 10⟩, ⟨200.0, 12⟩]).map Result.time_stamp = some 11 :=
  rfl

/-- The loop with overflow checks panics exactly when the exact total
    reaches `2^64`, and otherwise ends where the wrapping loop ends. -/
theorem foldlM_accumulateChecked (f32 : F32Ops F) (data : List (Data F)) (acc : F × UInt64) :
    data.foldlM (accumulateChecked f32) acc =
      if acc.2.toNat + stampSum data < 2 ^ 64 then some (data.foldl (accumulate f32) acc)
      else none := by
  induction data generalizing acc with
  | nil => simp [stampSum, acc.2.toNat_lt_size]
  | cons d rest ih =>
    simp only [List.foldlM_cons, List.foldl_cons, accumulateChecked]
    by_cases h : acc.2.toNat + d.time_stamp.toNat < 2 ^ 64
    · have hacc : (accumulate f32 acc d).2.toNat = acc.2.toNat + d.time_stamp.toNat := by
        simp only [accumulate, UInt64.toNat_add, Nat.mod_eq_of_lt h]
      simp only [if_pos h, Option.bind_eq_bind, Option.some_bind, ih, hacc, stampSum,
        List.map_cons, List.sum_cons, Nat.add_assoc]
    · have : ¬ acc.2.toNat + stampSum (d :: rest) < 2 ^ 64 := by
        simp only [stampSum, List.map_cons, List.sum_cons]; omega
      simp only [if_neg h, if_neg this, Option.bind_eq_bind, Option.none_bind]

/-- The build with overflow checks panics exactly when the exact total of
    the time stamps reaches `2^64`; below that it returns what the release
    build returns. -/
theorem executeChecked_eq (f32 : F32Ops F) (data : List (Data F)) :
    executeChecked f32 data = if stampSum data < 2 ^ 64 then execute f32 data else none := by
  unfold executeChecked execute
  rw [foldlM_accumulateChecked, UInt64.toNat_zero, Nat.zero_add]
  split_ifs <;> rfl

/-- Two reports stamped `2^63`, whose exact total is `2^64`: their
    average is `2^63`, but a release build wraps the total to `0` and
    returns the time stamp `0`, and a build with overflow checks panics. -/
theorem execute_time_stamp_overflows :
    stampSum [(⟨100.0, 2 ^ 63⟩ : Data Float), ⟨200.0, 2 ^ 63⟩] / 2 = 2 ^ 63 ∧
    (execute binary64Ops [⟨100.0, 2 ^ 63⟩, ⟨200.0, 2 ^ 63⟩]).map Result.time_stamp = some 0 ∧
    executeChecked binary64Ops [⟨100.0, 2 ^ 63⟩, ⟨200.0, 2 ^ 63⟩] = none :=
  ⟨by decide, rfl, rfl⟩

/-- Time stamps within `[lo, hi]` add up to between `n * lo` and `n * hi`. -/
theorem stampSum_bounds {data : List (Data F)} {lo hi : Nat}
    (h : ∀ d ∈ data, lo ≤ d.time_stamp.toNat ∧ d.time_stamp.toNat ≤ hi) :
    data.length * lo ≤ stampSum data ∧ stampSum data ≤ data.length * hi := by
  induction data with
  | nil => simp [stampSum]
  | cons d rest ih =>
    obtain ⟨h₁, h₂⟩ := ih fun d' hd' => h d' (List.mem_cons_of_mem _ hd')
    have := h d (List.mem_cons_self _ _)
    simp only [stampSum, List.map_cons, List.sum_cons, List.length_cons] at h₁ h₂ ⊢
    rw [Nat.succ_mul, Nat.succ_mul]
    omega

/-- While the exact total of the reported time stamps stays below
    `2^64`, the time stamp `execute` returns lies within the range of the
    reported ones: it is their average, rounded down. -/
theorem execute_time_stamp_within (f32 : F32Ops F) {data : List (Data F)} {r : Result}
    {lo hi : Nat} (h : execute f32 data = some r) (hlen : data.length < 2 ^ 64)
    (hsum : stampSum data < 2 ^ 64)
    (hb : ∀ d ∈ data, lo ≤ d.time_stamp.toNat ∧ d.time_stamp.toNat ≤ hi) :
    lo ≤ r.time_stamp.toNat ∧ r.time_stamp.toNat ≤ hi := by
  have hne : data ≠ [] := by
    rintro rfl
    simp [execute] at h
  have hpos : 0 < data.length := List.length_pos.mpr hne
  obtain ⟨r', hr', -, hts⟩ := execute_time_stamp f32 data hne hlen
  cases h.symm.trans hr'
  obtain ⟨hlo, hhi⟩ := stampSum_bounds hb
  rw [hts hsum]
  exact ⟨(Nat.le_div_iff_mul_le hpos).mpr (by rw [Nat.mul_comm]; exact hlo),
    Nat.div_le_of_le_mul hhi⟩

/-- `test_execute`'s reports, stamped 10 and 12. -/
theorem execute_time_stamp_within_test_execute :
    ∃ r, execute binary64Ops [⟨100.0, 10⟩, ⟨200.0, 12⟩] = some r ∧
      [(⟨100.0, 10⟩ : Data Float), ⟨200.0, 12⟩].length < 2 ^ 64 ∧
      stampSum [(⟨100.0, 10⟩ : Data Float), ⟨200.0, 12⟩] < 2 ^ 64 ∧
      (∀ d ∈ [(⟨100.0, 10⟩ : Data Float), ⟨200.0, 12⟩],
        10 ≤ d.time_stamp.toNat ∧ d.time_stamp.toNat ≤ 12) ∧
      10 ≤ r.time_stamp.toNat ∧ r.time_stamp.toNat ≤ 12 := by
  obtain ⟨r, hr⟩ : ∃ r, execute binary64Ops [⟨100.0, 10⟩, ⟨200.0, 12⟩] = some r := ⟨_, rfl⟩
  have hb : ∀ d ∈ [(⟨100.0, 10⟩ : Data Float), ⟨200.0, 12⟩],
      10 ≤ d.time_stamp.toNat ∧ d.time_stamp.toNat ≤ 12 := by decide
  exact ⟨r, hr, by decide, by decide, hb,
    execute_time_stamp_within binary64Ops hr (by decide) (by decide) hb⟩

/-- The time stamp does not depend on the order in which the reports
    come: any reordering gives the same time stamp, or the same panic,
    the wrapping of the `u64` total included. -/
theorem execute_time_stamp_perm (f32 : F32Ops F) {data data' : List (Data F)}
    (h : data.Perm data') :
    (execute f32 data).map Result.time_stamp = (execute f32 data').map Result.time_stamp := by
  have hacc : (data.foldl (accumulate f32) (f32.zero, 0)).2 =
      (data'.foldl (accumulate f32) (f32.zero, 0)).2 := by
    rw [UInt64.eq_iff_toNat_eq, foldl_accumulate_snd, foldl_accumulate_snd, stampSum, stampSum,
      (h.map _).sum_eq]
  simp only [execute, h.length_eq]
  split_ifs <;> simp [hacc]

/-- `test_execute`'s two reports, in both orders. -/
theorem execute_time_stamp_perm_test_execute :
    List.Perm [(⟨200.0, 12⟩ : Data Float), ⟨100.0, 10⟩] [⟨100.0, 10⟩, ⟨200.0, 12⟩] ∧
    (execute binary64Ops [⟨200.0, 12⟩, ⟨100.0, 10⟩]).map Result.time_stamp =
      (execute binary64Ops [⟨100.0, 10⟩, ⟨200.0, 12⟩]).map Result.time_stamp :=
  ⟨List.Perm.swap _ _ _, execute_time_stamp_perm binary64Ops (List.Perm.swap _ _ _)⟩

end Owasm.CryptocomparePrice
