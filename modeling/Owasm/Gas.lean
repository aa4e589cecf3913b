import Owasm.Imports

/-! # Metering points along a run of host calls

    The remaining points live in the instance, behind
    `get_gas_left`/`set_gas_left`.  Only `do_gas` reaches them, through
    `decrease_gas_left(12500000)`.  Every other import touches the `Env`
    history or the guest memory, never the points.

    From one step lemma (`step_gasStep`: what any host call does to the
    points) the run lemma follows by induction on the calls: the points
    never go up, and what a run took is exactly 12,500,000 for each paid
    `gas` call.

    Metering is transparent (Section 5): no import other than `gas` reads
    the points, so the same calls from the same state with any other
    points run alike, with the same replies to every call but `gas`
    (`run_setPoints`).
-/

namespace Owasm

open Environment

/-! ## Section 1: Every other import leaves the points alone -/

theorem doRead_getGasLeft {E : Env} {fetch : List EnvCall → Except Error Bytes}
    {call : EnvCall} {s s' : Environment} {ptr : I64} {r : Except Error I64}
    (h : doRead E fetch call s ptr = some (r, s')) : s'.getGasLeft = s.getGasLeft := by
  rcases doRead_cases h with rfl | rfl | ⟨m, m', -, -, rfl⟩ <;> simp

theorem doSend_getGasLeft {E : Env} {send : List EnvCall → Bytes → Except Error Unit}
    {call : Bytes → EnvCall} {s s' : Environment} {ptr len : I64} {r : Except Error Unit}
    (h : doSend E send call s ptr len = some (r, s')) : s'.getGasLeft = s.getGasLeft := by
  rcases doSend_cases h with rfl | ⟨data, rfl⟩ <;> simp

/-- A host call other than `gas` leaves the points as they were. -/
theorem step_getGasLeft {E : Env} {s s' : Environment} {c : HostCall} {r : Reply}
    (hc : c.isGas = false) (h : step E s c = some (r, s')) : s'.getGasLeft = s.getGasLeft := by
  rcases step_cases h with ⟨-, -, _, rfl, -⟩ | ⟨x, _, rfl, -⟩ | ⟨-, _, _, _, _, h, -⟩ |
    ⟨-, -, _, _, _, _, _, h, -⟩
  · rfl
  · cases hc
  · exact doRead_getGasLeft h
  · exact doSend_getGasLeft h

/-! ## Section 2: What one host call does to the points -/

/-- What one host call does to the remaining points, `g` before it and
    `g'` after: the `gas` import pays 12,500,000 when `g` covers it, and
    otherwise fails with `OutOfGasError` and pays nothing; every other one
    of the imports leaves the points alone. -/
def GasStep (c : HostCall) (r : Reply) (g g' : Nat) : Prop :=
  if c.isGas then
    (r = .ok none ∧ 12500000 ≤ g ∧ g' = g - 12500000) ∨
      (r = .error .OutOfGasError ∧ g < 12500000 ∧ g' = g)
  else g' = g

/-- While the instance is set, the `gas` import never panics: it pays when
    the points cover 12,500,000, and fails leaving them otherwise. -/
theorem step_gas (E : Env) {s : Environment} {g : UInt64} (hg : s.getGasLeft = some g)
    (x : UInt32) :
    ∃ r s', step E s (.gas x) = some (r, s') ∧
      ∃ g', s'.getGasLeft = some g' ∧ GasStep (.gas x) r g.toNat g'.toNat := by
  by_cases hlt : g.toNat < 12500000
  · refine ⟨_, _, ?_, g, hg, .inr ⟨rfl, hlt, rfl⟩⟩
    simp only [step, doGas, decreaseGasLeft_of_lt 12500000 hg hlt]; rfl
  · obtain ⟨s', hd, hs', -⟩ := decreaseGasLeft_of_le 12500000 hg (Nat.le_of_not_lt hlt)
    refine ⟨_, s', ?_, _, hs', .inl ⟨rfl, Nat.le_of_not_lt hlt, ?_⟩⟩
    · simp only [step, doGas, hd]; rfl
    · exact toNat_saturatingSub _ _

/-- Every host call, from a state whose instance is set, moves the points
    as `GasStep` says. -/
theorem step_gasStep {E : Env} {s s' : Environment} {c : HostCall} {r : Reply} {g : UInt64}
    (hg : s.getGasLeft = some g) (h : step E s c = some (r, s')) :
    ∃ g', s'.getGasLeft = some g' ∧ GasStep c r g.toNat g'.toNat := by
  cases hc : c.isGas
  · exact ⟨g, by rw [step_getGasLeft hc h, hg], by simp [GasStep, hc]⟩
  · obtain ⟨x, rfl⟩ := HostCall.isGas_iff.mp hc
    obtain ⟨r', s'', h', hstep⟩ := step_gas E hg x
    rw [h] at h'
    cases h'
    exact hstep

/-! ## Section 3: Runs -/

/-- The `gas` calls of a run that were paid for: those answered `Ok`. -/
def paid : List HostCall → List Reply → Nat
  | c :: cs, r :: rs => (if c.isGas ∧ r.isOk then 1 else 0) + paid cs rs
  | _, _ => 0

/-- One step adds to `paid` exactly what it took off the points, counted
    in quanta of 12,500,000. -/
theorem GasStep.paid {c : HostCall} {r : Reply} {g g' : Nat} (h : GasStep c r g g')
    (cs : List HostCall) (rs : List Reply) :
    g' + 12500000 * Owasm.paid (c :: cs) (r :: rs) = g + 12500000 * Owasm.paid cs rs := by
  unfold GasStep at h
  simp only [Owasm.paid]
  split at h
  · rcases h with ⟨rfl, hle, hg'⟩ | ⟨rfl, -, hg'⟩
    · simp only [‹c.isGas = true›, Except.isOk, Except.toBool, and_self, if_true]; omega
    · simp only [Except.isOk, Except.toBool, Bool.false_eq_true, and_false, if_false]; omega
  · rw [if_neg (fun h' => ‹¬c.isGas = true› h'.1)]; omega

/-- Along a run from a state whose instance is set, the points fall by
    exactly 12,500,000 for each paid `gas` call. -/
theorem run_gas_left {E : Env} {cs : List HostCall} :
    ∀ {s s' : Environment} {rs : List Reply} {g : UInt64},
      s.getGasLeft = some g → run E s cs = some (rs, s') →
      ∃ g', s'.getGasLeft = some g' ∧ g'.toNat + 12500000 * paid cs rs = g.toNat := by
  induction cs with
  | nil =>
    intro s s' rs g hg h
    cases h
    exact ⟨g, hg, by simp [paid]⟩
  | cons c cs ih =>
    intro s s' rs g hg h
    obtain ⟨r, s₁, rs', h₁, h₂, rfl⟩ := runWith_cons_eq_some h
    obtain ⟨g₁, hg₁, hstep⟩ := step_gasStep hg h₁
    obtain ⟨g', hg', heq⟩ := ih hg₁ h₂
    exact ⟨g', hg', by have := hstep.paid cs rs'; omega⟩

/-! ## Section 4: The metering of a run -/

/-- The metering points along every run of host calls from a state whose
    instance is set, with `r₀` points at its start.  At the state `s` the
    run reaches, with `r` points: `r` is `r₀` less 12,500,000 for each paid
    `gas` call of the run, so nothing wraps and `r ≤ r₀`; the `gas` import
    does not panic; every host call moves the points as `GasStep` says
    (`gas` pays 12,500,000 exactly when `r` covers it and otherwise fails
    with `OutOfGasError` leaving `r`, and no other import moves `r`); and
    once a `gas` call fails there, no later `gas` call is paid. -/
theorem gas_metering (E : Env) (s₀ : Environment) (r₀ : UInt64)
    (h₀ : s₀.getGasLeft = some r₀) (cs : List HostCall) (rs : List Reply) (s : Environment)
    (hrun : run E s₀ cs = some (rs, s)) :
    ∃ r, s.getGasLeft = some r ∧
      r.toNat + 12500000 * paid cs rs = r₀.toNat ∧
      (∀ x, ∃ rep s', step E s (.gas x) = some (rep, s')) ∧
      (∀ c rep s', step E s c = some (rep, s') →
        ∃ r', s'.getGasLeft = some r' ∧ GasStep c rep r.toNat r'.toNat) ∧
      (∀ x s', step E s (.gas x) = some (.error .OutOfGasError, s') →
        ∀ cs' rs' s'', run E s' cs' = some (rs', s'') → paid cs' rs' = 0) := by
  obtain ⟨r, hr, heq⟩ := run_gas_left h₀ hrun
  refine ⟨r, hr, heq, fun x => ?_, fun c rep s' h => step_gasStep hr h,
    fun x s' hfail cs' rs' s'' hrun' => ?_⟩
  · obtain ⟨rep, s', h, -⟩ := step_gas E hr x
    exact ⟨rep, s', h⟩
  · obtain ⟨r', hr', hstep⟩ := step_gasStep hr hfail
    obtain ⟨r'', -, heq'⟩ := run_gas_left hr' hrun'
    simp only [GasStep, HostCall.isGas, if_true] at hstep
    rcases hstep with ⟨h, -⟩ | ⟨-, hlt, hr'eq⟩
    · cases h
    · omega

/-- `test_do_gas`: from 2,500,000,000,000 points, `gas(0)` returns `Ok`
    and leaves 2,499,987,500,000. -/
theorem gas_metering_test_do_gas :
    ∃ s r, run mockEnv testEnvironment [.gas 0] = some ([.ok none], s) ∧
      s.getGasLeft = some r ∧ r.toNat = 2499987500000 := by
  obtain ⟨s, h⟩ : ∃ s, run mockEnv testEnvironment [.gas 0] = some ([.ok none], s) := ⟨_, rfl⟩
  obtain ⟨r, hr, heq, -⟩ := gas_metering mockEnv testEnvironment 2500000000000 rfl [.gas 0] _ s h
  have hpaid : paid [.gas 0] [.ok none] = 1 := rfl
  have hr₀ : (2500000000000 : UInt64).toNat = 2500000000000 := rfl
  exact ⟨s, r, h, hr, by omega⟩

/-! ## Section 5: Metering is transparent -/

theorem doRead_setPoints (E : Env) (fetch : List EnvCall → Except Error Bytes) (call : EnvCall)
    (s : Environment) (ptr : I64) (p : MeteringPoints) :
    doRead E fetch call (s.setPoints p) ptr =
      (doRead E fetch call s ptr).map fun x => (x.1, x.2.setPoints p) := by
  unfold doRead
  simp only [setPoints_vm, record_setPoints, memory_record, memory_setPoints,
    setMemory_setPoints]
  cases s.memory with
  | error e => rfl
  | ok m =>
    dsimp only
    cases requireMemRange m.size (ptr + E.get_span_size s.vm.env).toNat with
    | error e => rfl
    | ok u =>
      dsimp only
      cases fetch (s.record .get_span_size).vm.env with
      | error e => rfl
      | ok d => dsimp only; cases Memory.writeBytes ptr m 0 d <;> rfl

theorem doSend_setPoints (E : Env) (send : List EnvCall → Bytes → Except Error Unit)
    (call : Bytes → EnvCall) (s : Environment) (ptr len : I64) (p : MeteringPoints) :
    doSend E send call (s.setPoints p) ptr len =
      (doSend E send call s ptr len).map fun x => (x.1, x.2.setPoints p) := by
  unfold doSend
  simp only [setPoints_vm, record_setPoints, memory_record, memory_setPoints]
  split
  · rfl
  · cases s.memory with
    | error e => rfl
    | ok m =>
      dsimp only
      cases requireMemRange m.size (ptr + E.get_span_size s.vm.env).toNat with
      | error e => rfl
      | ok u => dsimp only; cases m.readSlice ptr.toNat (ptr + len).toNat <;> rfl

/-- Away from `gas`, a host call neither reads nor writes the points: from
    any points it runs as it does from the state's own, and leaves them as
    they were. -/
theorem step_setPoints (E : Env) (s : Environment) {c : HostCall} (hc : c.isGas = false)
    (p : MeteringPoints) :
    step E (s.setPoints p) c = (step E s c).map fun x => (x.1, x.2.setPoints p) := by
  cases c <;> simp only [HostCall.isGas, Bool.true_eq_false] at hc <;>
    simp only [step, doReadCalldata, doReadExternalData, doSetReturnData,
      doAskExternalData, doRead_setPoints, doSend_setPoints, Option.map_map] <;> rfl

/-- From any points, `gas` does not panic when it did not from the
    state's own, and it changes only the points. -/
theorem step_gas_setPoints {E : Env} {s s' : Environment} {x : UInt32} {r : Reply}
    (h : step E s (.gas x) = some (r, s')) (p : MeteringPoints) :
    ∃ r' p', step E (s.setPoints p) (.gas x) = some (r', s'.setPoints p') := by
  obtain ⟨⟨r₀, s₀⟩, hd, he⟩ := Option.map_eq_some'.mp h
  cases he
  obtain ⟨hs, q, rfl⟩ := decreaseGasLeft_eq_some hd
  obtain ⟨g, hg⟩ := hasInstance_iff.mp ((hasInstance_setPoints s p).mpr hs)
  obtain ⟨r', t', ht, -⟩ := step_gas E hg x
  obtain ⟨⟨r₁, t₁⟩, hd', he'⟩ := Option.map_eq_some'.mp ht
  cases he'
  obtain ⟨-, q', rfl⟩ := decreaseGasLeft_eq_some hd'
  rw [setPoints_setPoints] at ht
  exact ⟨_, q', by rw [setPoints_setPoints]; exact ht⟩

/-- Metering is transparent: run the same calls from the same state with
    any other points.  The run does not panic either, ends in the same
    state but for the points, and every call other than `gas` gets the
    same reply. -/
theorem run_setPoints {E : Env} {cs : List HostCall} :
    ∀ {s s' : Environment} {rs : List Reply} (p : MeteringPoints), run E s cs = some (rs, s') →
      ∃ rt p', run E (s.setPoints p) cs = some (rt, s'.setPoints p') ∧
        (cs.zip rs).filter (fun x => !x.1.isGas) = (cs.zip rt).filter (fun x => !x.1.isGas) := by
  induction cs with
  | nil =>
    intro s s' rs p h
    cases h
    exact ⟨[], p, rfl, rfl⟩
  | cons c cs ih =>
    intro s s' rs p h
    obtain ⟨r, s₁, rs', h₁, h₂, rfl⟩ := runWith_cons_eq_some h
    cases hc : c.isGas
    · obtain ⟨rt, p', h₂', hf⟩ := ih p h₂
      have h₁' : step E (s.setPoints p) c = some (r, s₁.setPoints p) := by
        rw [step_setPoints E s hc, h₁]; rfl
      refine ⟨r :: rt, p', runWith_cons_of_step h₁' h₂', ?_⟩
      rw [List.zip_cons_cons, List.zip_cons_cons, List.filter_cons_of_pos (by simp [hc]),
        List.filter_cons_of_pos (by simp [hc]), hf]
    · obtain ⟨x, rfl⟩ := HostCall.isGas_iff.mp hc
      obtain ⟨r', q, h₁'⟩ := step_gas_setPoints h₁ p
      obtain ⟨rt, p', h₂', hf⟩ := ih q h₂
      refine ⟨r' :: rt, p', runWith_cons_of_step h₁' h₂', ?_⟩
      rw [List.zip_cons_cons, List.zip_cons_cons,
        List.filter_cons_of_neg (by simp [HostCall.isGas]),
        List.filter_cons_of_neg (by simp [HostCall.isGas]), hf]

/-- The tests' state, where `get_ask_count` then `gas(0)` is paid for, and
    the same calls from no points at all: the query gets the same reply,
    and only `gas`, the last call, may fail. -/
theorem run_setPoints_out_of_gas :
    ∃ rs s' rt p', run mockEnv testEnvironment [.get_ask_count, .gas 0] = some (rs, s') ∧
      run mockEnv (testEnvironment.setPoints (.Remaining 0)) [.get_ask_count, .gas 0] =
        some (rt, s'.setPoints p') ∧
      ([HostCall.get_ask_count, .gas 0].zip rs).filter (fun x => !x.1.isGas) =
        ([HostCall.get_ask_count, .gas 0].zip rt).filter (fun x => !x.1.isGas) := by
  obtain ⟨rs, s', h⟩ : ∃ rs s', run mockEnv testEnvironment [.get_ask_count, .gas 0] =
      some (rs, s') := ⟨_, _, rfl⟩
  obtain ⟨rt, p', h', hf⟩ := run_setPoints (.Remaining 0) h
  exact ⟨rs, s', rt, p', h, h', hf⟩

end Owasm
