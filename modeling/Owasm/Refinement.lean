import Owasm.Ideal
import Owasm.Safety

/-! # The import table refines the ideal one

    `Refines s a` says that the guest and the host see the `Environment`
    `s` as the ideal state `a`: the same host log, the same memory bytes,
    the same metering points, and an instance set.  Against a host that
    keeps the contract (`Env.Fits`), every import called with nonnegative
    pointers and lengths keeps the relation and gives the ideal reply
    (`step_refines`, one lemma per shape of import), so every such run of
    the code is a run of `Ideal.run` (`run_refines`).

    The hypotheses are the ones the code needs: with a negative pointer
    or length the code can panic where the ideal table refuses the span
    (`read_negative_ptr_panics`, `send_negative_span_panics`).  The code
    is the release build; with overflow checks the same runs are runs of
    the ideal table as long as no `ptr + span_size` leaves the `i64` range
    (`runChecked_eq_run`).
-/

namespace Owasm

open Environment

/-! ## Section 1: The relation -/

/-- The `Environment` `s` is seen by the guest and the host as the ideal
    state `a`. -/
structure Refines (s : Environment) (a : Ideal.State) : Prop where
  /-- The same host log. -/
  log : s.vm.env = a.log
  /-- The same memory bytes, or no memory on either side. -/
  memory : s.memory.toOption.map Memory.bytes = a.memory
  /-- The same points; in particular the instance is set. -/
  points : s.getGasLeft.map UInt64.toNat = some a.points

variable {E : Env} {s : Environment} {a : Ideal.State}

theorem Refines.record (h : Refines s a) (c : EnvCall) : Refines (s.record c) (a.record c) :=
  ⟨by rw [record_vm_env, h.log]; rfl, h.memory, h.points⟩

theorem Refines.setMemory (h : Refines s a) {m : Memory} (hm : s.memory = .ok m) (m' : Memory) :
    Refines (s.setMemory m') { a with memory := some m'.bytes } :=
  ⟨h.log, by rw [memory_setMemory hm]; rfl, by rw [getGasLeft_setMemory]; exact h.points⟩

/-- The memory on both sides: none, which `memory()` reports as a missing
    export since the instance is set, or the same bytes. -/
theorem Refines.memory_cases (h : Refines s a) :
    (a.memory = none ∧ s.memory = .error .MemoryOutOfBoundError) ∨
      ∃ m, a.memory = some m.bytes ∧ s.memory = .ok m := by
  have hmem := h.memory
  obtain ⟨inst, hi⟩ : ∃ inst, s.data.wasmer_instance = some inst := by
    have := h.points
    cases hs : s.data.wasmer_instance <;> simp_all [getGasLeft]
  cases hm : inst.memory with
  | none =>
    exact .inl ⟨by simpa [Environment.memory, hi, hm] using hmem.symm,
      by simp [Environment.memory, hi, hm]⟩
  | some m =>
    exact .inr ⟨m, by simpa [Environment.memory, hi, hm] using hmem.symm,
      by simp [Environment.memory, hi, hm]⟩

/-! ## Section 2: One host call -/

/-- `gas` pays from the same points on both sides, or fails on both. -/
theorem gas_refines (h : Refines s a) (x : UInt32) :
    ∃ s', step E s (.gas x) = some ((Ideal.gas a).1, s') ∧ Refines s' (Ideal.gas a).2 := by
  obtain ⟨g, hg, hga⟩ : ∃ g, s.getGasLeft = some g ∧ g.toNat = a.points := by
    have := h.points
    cases hs : s.getGasLeft <;> simp_all
  unfold Ideal.gas
  by_cases hlt : a.points < 12500000
  · rw [if_pos hlt]
    refine ⟨s, ?_, h⟩
    simp only [step, doGas, decreaseGasLeft_of_lt 12500000 hg (hga ▸ hlt)]
    rfl
  · rw [if_neg hlt]
    dsimp only
    obtain ⟨s₁, hd, hs₁, hmem, hvm, -⟩ :=
      decreaseGasLeft_of_le 12500000 hg (hga ▸ Nat.le_of_not_lt hlt)
    refine ⟨s₁, by simp only [step, doGas, hd]; rfl, by rw [hvm, h.log], by rw [hmem, h.memory],
      ?_⟩
    rw [hs₁, Option.map_some', toNat_saturatingSub, hga]; rfl

section
variable {span_size : I64} (hE : E.Fits span_size) (h : Refines s a)
include hE h

/-- A reading import from a nonnegative pointer, with host data that fits
    in the span size. -/
theorem read_refines (fetch : List EnvCall → Except Error Bytes) (call : EnvCall)
    (hfetch : ∀ l d, fetch l = .ok d → d.length ≤ span_size.toNat) {ptr : I64}
    (hptr : 0 ≤ ptr.toInt) :
    ∃ s', (doRead E fetch call s ptr).map valueReply =
        some ((Ideal.read E fetch call a ptr).1, s') ∧
      Refines s' (Ideal.read E fetch call a ptr).2 := by
  have hspan : E.get_span_size s.vm.env = span_size := hE.get_span_size _
  obtain ⟨h₁, h₂, h₃⟩ := doRead_spec E s ptr fetch call hptr (hspan ▸ hE.nonneg)
  simp only [hE.get_span_size, record_vm_env, h.log] at h₁ h₂ h₃
  have hrange : ∀ m : Memory, (ptr.toInt < 0 ∨
      (m.bytes.length : Int) < ptr.toInt + span_size.toInt) ↔
        m.size < ptr.toNat + span_size.toNat := by
    intro m
    rw [toInt_eq_toNat_of_nonneg hptr, toInt_eq_toNat_of_nonneg hE.nonneg, Memory.size]
    omega
  simp only [Ideal.read, hE.get_span_size, Ideal.record_log]
  rcases h.memory_cases with ⟨ha, hs⟩ | ⟨m, ha, hs⟩
  · simp only [ha]
    exact ⟨_, by rw [h₁ _ hs]; rfl, h.record _⟩
  simp only [ha]
  by_cases hlt : m.size < ptr.toNat + span_size.toNat
  · rw [if_pos ((hrange m).mpr hlt)]
    exact ⟨_, by rw [h₂ m hs hlt]; rfl, h.record _⟩
  rw [if_neg (mt (hrange m).mp hlt)]
  obtain ⟨-, hfe, hfd⟩ := h₃ m hs (Nat.le_of_not_lt hlt)
  cases hf : fetch (.get_span_size :: a.log) with
  | error e => exact ⟨_, by rw [hfe e hf]; rfl, (h.record _).record _⟩
  | ok d =>
    obtain ⟨hfit, m', hr, -, hbytes⟩ := hfd d hf (hfetch _ d hf)
    have hsplice : Ideal.splice m.bytes ptr.toNat d = m'.bytes :=
      List.ext_getElem? fun j => by rw [hbytes, Ideal.splice_getElem? _ _ _ _ hfit]
    dsimp only
    rw [hsplice]
    exact ⟨_, by rw [hr]; rfl,
      ((h.record _).record _).setMemory (by simpa only [memory_record]) m'⟩

/-- A sending import from a nonnegative pointer with a nonnegative
    length. -/
theorem send_refines (send : List EnvCall → Bytes → Except Error Unit)
    (call : Bytes → EnvCall) {ptr len : I64} (hptr : 0 ≤ ptr.toInt) (hlen : 0 ≤ len.toInt) :
    ∃ s', (doSend E send call s ptr len).map unitReply =
        some ((Ideal.send E send call a ptr len).1, s') ∧
      Refines s' (Ideal.send E send call a ptr len).2 := by
  have hspan : E.get_span_size s.vm.env = span_size := hE.get_span_size _
  obtain ⟨h₁, h₂, h₃, h₄⟩ :=
    doSend_spec E s ptr send call len hptr hlen (hspan ▸ hE.nonneg)
  simp only [hE.get_span_size, record_vm_env, h.log] at h₁ h₂ h₃ h₄
  have hp := toInt_eq_toNat_of_nonneg hptr
  have hl := toInt_eq_toNat_of_nonneg hlen
  have hs' := toInt_eq_toNat_of_nonneg hE.nonneg
  have hrange : ∀ m : Memory, (ptr.toInt < 0 ∨ len.toInt < 0 ∨
      (m.bytes.length : Int) < ptr.toInt + span_size.toInt) ↔
        m.size < ptr.toNat + span_size.toNat := by
    intro m
    rw [hp, hl, hs', Memory.size]
    omega
  simp only [Ideal.send, hE.get_span_size, Ideal.record_log]
  by_cases hgt : span_size.toNat < len.toNat
  · rw [if_pos (by omega)]
    exact ⟨_, by rw [h₁ hgt]; rfl, h.record _⟩
  have hle := Nat.le_of_not_lt hgt
  rw [if_neg (by omega)]
  rcases h.memory_cases with ⟨ha, hs⟩ | ⟨m, ha, hs⟩
  · simp only [ha]
    exact ⟨_, by rw [h₂ hle _ hs]; rfl, h.record _⟩
  simp only [ha]
  by_cases hlt : m.size < ptr.toNat + span_size.toNat
  · rw [if_pos ((hrange m).mpr hlt)]
    exact ⟨_, by rw [h₃ hle m hs hlt]; rfl, h.record _⟩
  rw [if_neg (mt (hrange m).mp hlt)]
  obtain ⟨-, hfit, data, hr, hdlen, hdata⟩ := h₄ hle m hs (Nat.le_of_not_lt hlt)
  have hslice : (m.bytes.drop ptr.toNat).take len.toNat = data := by
    apply List.ext_getElem?
    intro k
    by_cases hk : k < len.toNat
    · rw [hdata k (by omega), List.getElem?_take_of_lt hk, List.getElem?_drop]
    · rw [List.getElem?_eq_none (by simp; omega), List.getElem?_eq_none (by omega)]
  rw [hslice]
  exact ⟨_, by rw [hr]; rfl, (h.record _).record _⟩

end

/-- Against a host that keeps the contract, every host call with
    nonnegative pointers and lengths keeps the relation and gives the
    ideal reply. -/
theorem step_refines {span_size : I64} (hE : E.Fits span_size) (h : Refines s a) {c : HostCall}
    (hc : c.NonNeg) :
    ∃ s', step E s c = some ((Ideal.step E a c).1, s') ∧ Refines s' (Ideal.step E a c).2 := by
  cases c with
  | gas x => exact gas_refines h x
  | read_calldata ptr => exact read_refines hE h _ _ hE.get_calldata hc
  | read_external_data eid vid ptr =>
    exact read_refines hE h _ _ (fun l d => hE.get_external_data l eid vid d) hc
  | set_return_data ptr len => exact send_refines hE h _ _ hc.1 hc.2
  | ask_external_data eid did ptr len => exact send_refines hE h _ _ hc.1 hc.2
  | _ => exact ⟨_, by simp only [step, Ideal.step, Ideal.query, ← h.log]; rfl, h.record _⟩

/-! ## Section 3: Runs -/

/-- Against a host that keeps the contract, from a state related to an
    ideal one, every run of a guest that passes nonnegative pointers and
    lengths is a run of the ideal table: the code does not panic, gives
    the ideal replies, and ends in a state related to the ideal one, with
    the same host log, memory bytes and points. -/
theorem run_refines {span_size : I64} (hE : E.Fits span_size) :
    ∀ (cs : List HostCall) {s : Environment} {a : Ideal.State}, Refines s a →
      (∀ c ∈ cs, c.NonNeg) →
      ∃ s', run E s cs = some ((Ideal.run E a cs).1, s') ∧ Refines s' (Ideal.run E a cs).2
  | [], s, _, h, _ => ⟨s, rfl, h⟩
  | c :: cs, s, a, h, hc => by
    obtain ⟨s₁, h₁, hr₁⟩ := step_refines hE h (hc c (List.mem_cons_self _ _))
    obtain ⟨s', h₂, hr⟩ :=
      run_refines hE cs hr₁ fun c' h' => hc c' (List.mem_cons_of_mem _ h')
    exact ⟨s', runWith_cons_of_step h₁ h₂, hr⟩

/-- The spec's first scenario, with a `gas` call between, against the
    tests' host: the run is the ideal table's run from the empty log, the
    one-page memory and the tests' points. -/
theorem run_refines_scenario_one :
    ∃ s', run mockEnv testEnvironment [.read_calldata 0, .gas 0, .set_return_data 0 1] =
        some ((Ideal.run mockEnv ⟨[], some onePageMemory.bytes, 2500000000000⟩
          [.read_calldata 0, .gas 0, .set_return_data 0 1]).1, s') ∧
      Refines s' (Ideal.run mockEnv ⟨[], some onePageMemory.bytes, 2500000000000⟩
        [.read_calldata 0, .gas 0, .set_return_data 0 1]).2 :=
  run_refines mockEnv_fits _ ⟨rfl, rfl, rfl⟩ (by decide)

end Owasm
