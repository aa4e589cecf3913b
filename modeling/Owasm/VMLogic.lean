import Owasm.Basic

/-! # `VMLogic`: the software gas counter

    `VMLogic` (`vm.rs`) bundles the host's `Env` with a gas limit and a
    gas counter.  `consume_gas` adds to the counter with a saturating
    addition and reports `OutOfGasError` once the counter is above the
    limit.  No import calls it: the metering middleware's points
    (`Environment`) are what the `gas` import charges.

    The saturation is what decides the edge of the counter: the counter
    is the true total cut at `u64::MAX`, so with the limit `u64::MAX`
    itself no call ever reports `OutOfGasError`.
-/

namespace Owasm

/-- `VMLogic` (`vm.rs`).  The host object `env` is kept as the calls made
    on it so far, newest first; its methods are the `Env` the imports are
    given. -/
structure VMLogic where
  env : List EnvCall
  gas_limit : UInt64
  gas_used : UInt64

namespace VMLogic

/-- `VMLogic::new`. -/
def new (env : List EnvCall) (gas : UInt64) : VMLogic :=
  { env := env, gas_limit := gas, gas_used := 0 }

/-- `VMLogic::out_of_gas`. -/
def outOfGas (vm : VMLogic) : Bool :=
  decide (vm.gas_used > vm.gas_limit)

/-- `VMLogic::consume_gas`. -/
def consumeGas (vm : VMLogic) (gas : UInt32) : Except Error Unit × VMLogic :=
  let vm := { vm with gas_used := saturatingAdd vm.gas_used gas.toUInt64 }
  (if vm.outOfGas then .error .OutOfGasError else .ok (), vm)

/-- `consume_gas` applied to each amount in turn: every call's result,
    with the `VMLogic` it leaves. -/
def consumeGasTrace (vm : VMLogic) : List UInt32 → List (Except Error Unit × VMLogic)
  | [] => []
  | gas :: rest => vm.consumeGas gas :: consumeGasTrace (vm.consumeGas gas).2 rest

/-! ## Section 1: One call in closed form -/

/-- The amounts of a run of calls, added over `Nat`. -/
def total (amounts : List UInt32) : Nat := (amounts.map UInt32.toNat).sum

/-- The counter after `n` more units of gas, added without bound and cut
    at `u64::MAX`. -/
def charged (vm : VMLogic) (n : Nat) : VMLogic :=
  { vm with gas_used := UInt64.ofNat (min (vm.gas_used.toNat + n) u64Max) }

/-- What `consume_gas` returns once the counter is updated. -/
def status (vm : VMLogic) : Except Error Unit :=
  if vm.outOfGas then .error .OutOfGasError else .ok ()

@[simp] theorem charged_gas_limit (vm : VMLogic) (n : Nat) :
    (vm.charged n).gas_limit = vm.gas_limit := rfl

@[simp] theorem charged_gas_used (vm : VMLogic) (n : Nat) :
    (vm.charged n).gas_used.toNat = min (vm.gas_used.toNat + n) u64Max :=
  UInt64.toNat_ofNat_of_le_max (Nat.min_le_right _ _)

theorem charged_charged (vm : VMLogic) (m n : Nat) :
    (vm.charged m).charged n = vm.charged (m + n) := by
  simp only [charged]
  rw [UInt64.toNat_ofNat_of_le_max (Nat.min_le_right _ _)]
  congr 2
  omega

theorem outOfGas_iff (vm : VMLogic) : vm.outOfGas ↔ vm.gas_limit < vm.gas_used := by
  simp [outOfGas]

theorem consumeGas_eq (vm : VMLogic) (gas : UInt32) :
    vm.consumeGas gas = ((vm.charged gas.toNat).status, vm.charged gas.toNat) := rfl

@[simp] theorem total_nil : total [] = 0 := rfl

@[simp] theorem total_cons (a : UInt32) (as : List UInt32) :
    total (a :: as) = a.toNat + total as := by
  simp [total]

/-- The `i`-th call of a run leaves the counter charged with the first
    `i + 1` amounts. -/
theorem consumeGasTrace_getElem? (vm : VMLogic) (amounts : List UInt32) (i : Nat)
    (hi : i < amounts.length) :
    (consumeGasTrace vm amounts)[i]? =
      some ((vm.charged (total (amounts.take (i + 1)))).status,
        vm.charged (total (amounts.take (i + 1)))) := by
  induction amounts generalizing vm i with
  | nil => simp at hi
  | cons a rest ih =>
    cases i with
    | zero => simp [consumeGasTrace, consumeGas_eq]
    | succ i =>
      simp only [List.length_cons, Nat.add_lt_add_iff_right] at hi
      simp only [consumeGasTrace, consumeGas_eq, List.getElem?_cons_succ, ih _ _ hi,
        charged_charged, List.take_succ_cons, total_cons]

theorem length_consumeGasTrace (vm : VMLogic) (amounts : List UInt32) :
    (consumeGasTrace vm amounts).length = amounts.length := by
  induction amounts generalizing vm <;> simp [consumeGasTrace, *]

theorem getElem?_consumeGasTrace_eq_some {vm vm' : VMLogic} {amounts : List UInt32} {i : Nat}
    {r : Except Error Unit} (h : (consumeGasTrace vm amounts)[i]? = some (r, vm')) :
    i < amounts.length ∧ vm' = vm.charged (total (amounts.take (i + 1))) ∧ r = vm'.status := by
  obtain ⟨hi, -⟩ := List.getElem?_eq_some_iff.mp h
  rw [length_consumeGasTrace] at hi
  rw [consumeGasTrace_getElem? vm amounts i hi] at h
  cases h
  exact ⟨hi, rfl, rfl⟩

theorem total_take_mono (amounts : List UInt32) {i j : Nat} (h : i ≤ j) :
    total (amounts.take i) ≤ total (amounts.take j) :=
  ((List.take_prefix_take_left amounts h).sublist.map _).sum_le_sum fun _ _ => Nat.zero_le _

/-! ## Section 2: Runs from `VMLogic::new` -/

@[simp] theorem new_gas_limit (env : List EnvCall) (L : UInt64) :
    (new env L).gas_limit = L := rfl

@[simp] theorem new_gas_used (env : List EnvCall) (L : UInt64) :
    (new env L).gas_used = 0 := rfl

/-- From `VMLogic::new`, `consume_gas` fails exactly when the cut total is
    above the limit. -/
theorem new_charged_status (env : List EnvCall) (L : UInt64) (n : Nat) :
    ((new env L).charged n).status = .error .OutOfGasError ↔
      L.toNat < n ∧ L.toNat < u64Max := by
  have h : ((new env L).charged n).outOfGas ↔ L.toNat < n ∧ L.toNat < u64Max := by
    rw [outOfGas_iff, UInt64.lt_iff_toNat_lt]; simp
  rw [← h]
  cases hb : ((new env L).charged n).outOfGas <;> simp [status, hb]

/-- `consume_gas` only ever returns `Ok` or `OutOfGasError`. -/
theorem status_ok_or_outOfGas (vm : VMLogic) :
    vm.status = .ok () ∨ vm.status = .error .OutOfGasError := by
  unfold status; split <;> simp

/-- From `VMLogic::new env L`, after the `i`-th call of any run of
    `consume_gas`: the limit is still `L`; the counter is the exact total of
    the first `i + 1` amounts cut at `u64::MAX`; `out_of_gas` holds exactly
    when the counter is above `L`; and the call fails, with
    `OutOfGasError`, exactly when the exact total is above `L` and `L` is
    below `u64::MAX`.  Along the run the counter never decreases and a
    failed call is followed by failed calls only. -/
theorem consume_gas_trace_spec (env : List EnvCall) (L : UInt64) (amounts : List UInt32) :
    (consumeGasTrace (new env L) amounts).length = amounts.length ∧
    (∀ i r vm, (consumeGasTrace (new env L) amounts)[i]? = some (r, vm) →
      vm.gas_limit = L ∧
      vm.gas_used.toNat = min (total (amounts.take (i + 1))) u64Max ∧
      (vm.outOfGas ↔ L < vm.gas_used) ∧
      (r = .error .OutOfGasError ↔
        L.toNat < total (amounts.take (i + 1)) ∧ L.toNat < u64Max) ∧
      (r = .ok () ∨ r = .error .OutOfGasError)) ∧
    (∀ (i j : Nat) (ri rj : Except Error Unit) (vmi vmj : VMLogic), i ≤ j →
      (consumeGasTrace (new env L) amounts)[i]? = some (ri, vmi) →
      (consumeGasTrace (new env L) amounts)[j]? = some (rj, vmj) →
      vmi.gas_used ≤ vmj.gas_used ∧
      (ri = .error .OutOfGasError → rj = .error .OutOfGasError)) := by
  refine ⟨length_consumeGasTrace _ _, fun i r vm h => ?_,
    fun i j ri rj vmi vmj hij hi hj => ?_⟩
  · obtain ⟨-, rfl, rfl⟩ := getElem?_consumeGasTrace_eq_some h
    exact ⟨rfl, by simp, outOfGas_iff _, new_charged_status .., status_ok_or_outOfGas _⟩
  · obtain ⟨-, rfl, rfl⟩ := getElem?_consumeGasTrace_eq_some hi
    obtain ⟨-, rfl, rfl⟩ := getElem?_consumeGasTrace_eq_some hj
    have hmono := total_take_mono amounts (Nat.add_le_add_right hij 1)
    refine ⟨?_, fun h => ?_⟩
    · rw [UInt64.le_iff_toNat_le]; simp; omega
    · rw [new_charged_status] at h ⊢; omega

/-- The limit 10 and the amounts 4, 5, 2: the third call returns
    `OutOfGasError` with the counter at 11, up from the second call's. -/
theorem consume_gas_trace_limit_ten :
    ∃ r₁ vm₁ vm₂, (consumeGasTrace (new [] 10) [4, 5, 2])[1]? = some (r₁, vm₁) ∧
      (consumeGasTrace (new [] 10) [4, 5, 2])[2]? = some (.error .OutOfGasError, vm₂) ∧
      vm₂.gas_used.toNat = 11 ∧ vm₁.gas_used ≤ vm₂.gas_used := by
  have h₁ : (consumeGasTrace (new [] 10) [4, 5, 2])[1]? =
      some (((new [] 10).charged 9).status, (new [] 10).charged 9) := rfl
  have h₂ : (consumeGasTrace (new [] 10) [4, 5, 2])[2]? =
      some (((new [] 10).charged 11).status, (new [] 10).charged 11) := rfl
  obtain ⟨-, hused, -, hfail, -⟩ := (consume_gas_trace_spec [] 10 [4, 5, 2]).2.1 2 _ _ h₂
  rw [hfail.mpr (by decide)] at h₂
  exact ⟨_, _, _, h₁, h₂, hused.trans (by decide),
    ((consume_gas_trace_spec [] 10 [4, 5, 2]).2.2 1 2 _ _ _ _ (by decide) h₁ h₂).1⟩

example : (consumeGasTrace (new [] 10) [4, 5, 2, 7]).map Prod.fst =
    [.ok (), .ok (), .error .OutOfGasError, .error .OutOfGasError] := rfl

theorem total_replicate (n : Nat) (a : UInt32) :
    total (List.replicate n a) = n * a.toNat := by
  simp [total, List.map_replicate, List.sum_replicate]

/-- With the limit `u64::MAX`, `consume_gas` from `VMLogic::new` never
    fails, whatever the total. -/
theorem new_u64Max_charged_status (env : List EnvCall) (n : Nat) :
    ((new env 0xFFFFFFFFFFFFFFFF).charged n).status = .ok () := by
  have h := status_ok_or_outOfGas ((new env 0xFFFFFFFFFFFFFFFF).charged n)
  rw [new_charged_status] at h
  exact h.resolve_right fun h => absurd h.2 (by decide)

/-- With the limit `u64::MAX`, the last of `2^32 + 2` calls of `u32::MAX`
    returns `Ok` although the exact total is past `u64::MAX`. -/
theorem consume_gas_ok_past_u64_max :
    (0xFFFFFFFFFFFFFFFF : UInt64).toNat <
        total (List.replicate (2 ^ 32 + 2) (0xFFFFFFFF : UInt32)) ∧
    ∃ vm, (consumeGasTrace (new [] 0xFFFFFFFFFFFFFFFF)
        (List.replicate (2 ^ 32 + 2) (0xFFFFFFFF : UInt32)))[2 ^ 32 + 1]? = some (.ok (), vm) := by
  have hlen : 2 ^ 32 + 1 < (List.replicate (2 ^ 32 + 2) (0xFFFFFFFF : UInt32)).length := by
    rw [List.length_replicate]; decide
  rw [total_replicate]
  exact ⟨by decide, _, (consumeGasTrace_getElem? _ _ _ hlen).trans
    (by rw [new_u64Max_charged_status])⟩

end VMLogic

end Owasm
