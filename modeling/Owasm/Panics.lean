import Owasm.Gas
import Owasm.Span

/-! # When the host panics

    A host call returns `none` when the host itself panics: an `expect` on
    an unset instance, an index or a slice out of range.  This file says
    exactly when, for every host and every argument, in exact integers:

    * `gas` panics when the instance is not set;
    * a reading import panics when its range check passed, the host has
      at least one byte for it, and the bytes do not fit in the memory
      from `ptr` (a negative `ptr`, or more bytes than there is room for);
    * a sending import panics when its span and range checks passed and
      `[ptr, ptr + len)` is not a range of the memory (a negative `ptr` or
      `len`, or a range past the end);
    * no query panics.

    A run panics exactly when one of its calls panics from the state the
    calls before it reached (`run_eq_none_iff`).  These are the release
    build's panics; `Owasm.Checked` adds the one of a build with overflow
    checks.
-/

namespace Owasm

open Environment

/-! ## Section 1: One host call -/

/-- When `doRead` panics: the memory is found, `ptr + span_size` passes
    the range check, the host hands over at least one byte, and the bytes
    do not fit in the memory from `ptr`. -/
def ReadPanics (E : Env) (fetch : List EnvCall → Except Error Bytes) (s : Environment)
    (ptr : I64) : Prop :=
  ∃ m d, s.memory = .ok m ∧ (ptr + E.get_span_size s.vm.env).toNat ≤ m.size ∧
    fetch (.get_span_size :: s.vm.env) = .ok d ∧ d ≠ [] ∧
    (ptr.toInt < 0 ∨ (m.size : Int) < ptr.toInt + d.length)

/-- When `doSend` panics: `len` passes the span check, the memory is
    found, `ptr + span_size` passes the range check, and `[ptr, ptr + len)`
    is not a range of the memory. -/
def SendPanics (E : Env) (s : Environment) (ptr len : I64) : Prop :=
  len.toInt ≤ (E.get_span_size s.vm.env).toInt ∧ ∃ m, s.memory = .ok m ∧
    (ptr + E.get_span_size s.vm.env).toNat ≤ m.size ∧
    (ptr.toInt < 0 ∨ len.toInt < 0 ∨ (m.size : Int) < ptr.toInt + len.toInt)

/-- When a host call panics. -/
def HostCall.Panics (E : Env) (s : Environment) : HostCall → Prop
  | .gas _ => ¬ s.HasInstance
  | .read_calldata ptr => ReadPanics E E.get_calldata s ptr
  | .set_return_data ptr len => SendPanics E s ptr len
  | .ask_external_data _ _ ptr len => SendPanics E s ptr len
  | .read_external_data eid vid ptr => ReadPanics E (fun h => E.get_external_data h eid vid) s ptr
  | _ => False

theorem doRead_eq_none_iff (E : Env) (s : Environment) (ptr : I64)
    (fetch : List EnvCall → Except Error Bytes) (call : EnvCall) :
    doRead E fetch call s ptr = none ↔ ReadPanics E fetch s ptr := by
  cases hm : s.memory with
  | error e =>
    simp only [doRead, ReadPanics, memory_record, hm, reduceCtorEq, false_and, exists_false]
  | ok m =>
    by_cases hr : (ptr + E.get_span_size s.vm.env).toNat ≤ m.size
    · cases hf : fetch (.get_span_size :: s.vm.env) with
      | error e =>
        simp only [doRead, ReadPanics, memory_record, record_vm_env, hm, hf,
          requireMemRange_ok.mpr hr, reduceCtorEq, false_and, and_false, exists_false]
      | ok d =>
        simp only [doRead, ReadPanics, memory_record, record_vm_env, hm, hf,
          requireMemRange_ok.mpr hr, Option.map_eq_none', Memory.writeBytes_eq_none_iff,
          lt_toNat_add_iff ptr m.size_lt, Except.ok.injEq, exists_and_left, exists_eq_left', hr,
          true_and]
    · simp only [doRead, ReadPanics, memory_record, hm, hr,
        requireMemRange_error (Nat.lt_of_not_le hr), reduceCtorEq, Except.ok.injEq,
        exists_and_left, exists_eq_left', false_and, exists_false]

theorem doSend_eq_none_iff (E : Env) (s : Environment) (ptr len : I64)
    (send : List EnvCall → Bytes → Except Error Unit) (call : Bytes → EnvCall) :
    doSend E send call s ptr len = none ↔ SendPanics E s ptr len := by
  by_cases hgt : (E.get_span_size s.vm.env).slt len
  · have : (E.get_span_size s.vm.env).toInt < len.toInt := by simpa [BitVec.slt] using hgt
    simp [doSend, SendPanics, hgt, this]
  have hle : len.toInt ≤ (E.get_span_size s.vm.env).toInt := by simpa [BitVec.slt] using hgt
  cases hm : s.memory with
  | error e =>
    simp only [doSend, SendPanics, memory_record, hgt, hm, Bool.false_eq_true, ↓reduceIte,
      reduceCtorEq, false_and, and_false, exists_false]
  | ok m =>
    by_cases hr : (ptr + E.get_span_size s.vm.env).toNat ≤ m.size
    · simp only [doSend, SendPanics, memory_record, hgt, hm, requireMemRange_ok.mpr hr,
        Option.map_eq_none', Memory.readSlice_eq_none_iff, slice_out_iff ptr len m.size_lt,
        hle, hr, Except.ok.injEq, exists_eq_left', true_and, Bool.false_eq_true, ↓reduceIte]
    · simp only [doSend, SendPanics, memory_record, hgt, hm, hr, Bool.false_eq_true, ↓reduceIte,
        requireMemRange_error (Nat.lt_of_not_le hr), reduceCtorEq, Except.ok.injEq,
        exists_eq_left', false_and, and_false]

/-- Exactly when one host call panics, for every host, state and argument. -/
theorem step_eq_none_iff (E : Env) (s : Environment) (c : HostCall) :
    step E s c = none ↔ c.Panics E s := by
  cases c with
  | gas x =>
    simp only [HostCall.Panics, hasInstance_iff, not_exists]
    constructor
    · intro h g hg
      obtain ⟨r, s', h', -⟩ := step_gas E hg x
      rw [h'] at h
      cases h
    · intro h
      cases hg : s.getGasLeft with
      | none => simp [step, doGas, decreaseGasLeft, hg]
      | some g => exact absurd hg (h g)
  | read_calldata _ | read_external_data _ _ _ | set_return_data _ _
  | ask_external_data _ _ _ _ =>
    simp only [step, HostCall.Panics, Option.map_eq_none', doReadCalldata,
      doReadExternalData, doSetReturnData, doAskExternalData, doRead_eq_none_iff,
      doSend_eq_none_iff]
  | get_span_size | get_ask_count | get_min_count | get_prepare_time | get_execute_time
  | get_ans_count | get_external_data_status _ _ => simp [step, HostCall.Panics]

/-! ## Section 2: Runs -/

section
variable {f : Environment → HostCall → Option (Reply × Environment)}

theorem runWith_cons_eq_none {s : Environment} {c : HostCall} {cs : List HostCall} :
    runWith f s (c :: cs) = none ↔
      f s c = none ∨ ∃ r s₁, f s c = some (r, s₁) ∧ runWith f s₁ cs = none := by
  cases h : f s c with
  | none => simp [runWith, h]
  | some p =>
    obtain ⟨r, s₁⟩ := p
    cases h' : runWith f s₁ cs <;> simp [runWith, h, h', and_assoc]

/-- For any way `f` of making one host call that panics exactly where `P`
    says, a run panics exactly when one of its calls panics from the state
    the calls before it reached. -/
theorem runWith_eq_none_iff {P : Environment → HostCall → Prop}
    (hP : ∀ s c, f s c = none ↔ P s c) :
    ∀ (cs : List HostCall) (s : Environment), runWith f s cs = none ↔
      ∃ pre c post rs s', cs = pre ++ c :: post ∧ runWith f s pre = some (rs, s') ∧ P s' c
  | [], s => iff_of_false (by simp) fun ⟨pre, c, post, _, _, h, _⟩ =>
    List.append_ne_nil_of_right_ne_nil pre (List.cons_ne_nil c post) h.symm
  | c :: cs, s => by
    rw [runWith_cons_eq_none, hP]
    constructor
    · rintro (h | ⟨r, s₁, h₁, h₂⟩)
      · exact ⟨[], c, cs, [], s, rfl, rfl, h⟩
      · obtain ⟨pre, c', post, rs, s', rfl, hpre, hc⟩ := (runWith_eq_none_iff hP cs s₁).mp h₂
        exact ⟨c :: pre, c', post, r :: rs, s', rfl, runWith_cons_of_step h₁ hpre, hc⟩
    · rintro ⟨_ | ⟨c₀, pre⟩, c', post, rs, s', heq, hpre, hc⟩
      · obtain ⟨rfl, rfl⟩ := List.cons.inj heq
        cases hpre
        exact .inl hc
      · obtain ⟨rfl, rfl⟩ := List.cons.inj heq
        obtain ⟨r, s₁, rs', h₁, h₂, -⟩ := runWith_cons_eq_some hpre
        exact .inr ⟨r, s₁, h₁,
          (runWith_eq_none_iff hP _ s₁).mpr ⟨pre, c', post, rs', s', rfl, h₂, hc⟩⟩

end

/-- Exactly when a run panics, for every host, state and call list: when
    one of its calls panics from the state the calls before it reached. -/
theorem run_eq_none_iff (E : Env) :
    ∀ (cs : List HostCall) (s : Environment), run E s cs = none ↔
      ∃ pre c post rs s', cs = pre ++ c :: post ∧ run E s pre = some (rs, s') ∧ c.Panics E s' :=
  runWith_eq_none_iff fun s c => step_eq_none_iff E s c

end Owasm
