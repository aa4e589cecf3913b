import Owasm.Imports

/-! # Span checks of the imports that touch guest memory

    `doRead` (`read_calldata`, `read_external_data`) and `doSend`
    (`set_return_data`, `ask_external_data`) guard guest memory with one
    range check, `require_mem_range(memory.size, (ptr + span_size) as usize)`,
    and `doSend` also refuses `len > span_size`.

    On nonnegative pointers and lengths the checks do what they are for:
    every byte an import reads or writes lies in `[ptr, ptr + span_size)`,
    inside the memory, and no addition overflows (`doRead_spec`,
    `doSend_spec`).  A negative `i64` is another matter: `as usize` turns
    it into a word near `2^64`, and once `ptr + span_size` lands inside the
    memory the checks pass and the copy indexes far past the end, which is
    a host panic (`doRead_eq_none_of_neg`, `doSend_eq_none_of_neg`).

    All of this is the release build, where `ptr + span_size` wraps; with
    overflow checks a sum outside the `i64` range panics before the range
    check (`Owasm.Checked`).
-/

namespace Owasm

open Environment

/-! ## Section 1: Words as numbers -/

theorem toInt_neg_iff (x : I64) : x.toInt < 0 ↔ 2 ^ 63 ≤ x.toNat := by
  have := toInt_nonneg_iff x
  omega

theorem toInt_eq_toNat_of_nonneg {x : I64} (h : 0 ≤ x.toInt) : x.toInt = x.toNat := by
  rw [toInt_nonneg_iff] at h
  rw [BitVec.toInt_eq_toNat_cond, if_pos (by omega)]

/-- Two nonnegative words add without wrapping. -/
theorem toNat_add_of_nonneg {x y : I64} (hx : 0 ≤ x.toInt) (hy : 0 ≤ y.toInt) :
    (x + y).toNat = x.toNat + y.toNat := by
  rw [toInt_nonneg_iff] at hx hy
  rw [BitVec.toNat_add, Nat.mod_eq_of_lt (by omega)]

/-- With a nonnegative second word, an exact sum past `n` is a `usize`
    past `n`, however the `i64` addition wraps. -/
theorem lt_toNat_add {x y : I64} {n : Nat} (hy : 0 ≤ y.toInt)
    (h : (n : Int) < x.toInt + y.toInt) : n < (x + y).toNat := by
  rw [toInt_nonneg_iff] at hy
  rw [BitVec.toInt_eq_toNat_cond, BitVec.toInt_eq_toNat_cond,
    if_pos (by omega : 2 * y.toNat < 2 ^ 64)] at h
  rw [BitVec.toNat_add]
  have := x.isLt
  split at h <;> omega

/-- `ptr as usize + k` runs past a memory of `n` bytes exactly when, as
    integers, `ptr` is negative or `ptr + k > n`. -/
theorem lt_toNat_add_iff (ptr : I64) {n k : Nat} (hn : n < 2 ^ 63) :
    n < ptr.toNat + k ↔ ptr.toInt < 0 ∨ (n : Int) < ptr.toInt + k := by
  have := ptr.isLt
  rw [BitVec.toInt_eq_toNat_cond]
  split_ifs <;> omega

/-- The slice `ptr as usize..(ptr + len) as usize` is a range of a memory
    of `n` bytes exactly when, as integers, `ptr` and `len` are
    nonnegative and `ptr + len ≤ n`. -/
theorem slice_out_iff (ptr len : I64) {n : Nat} (hn : n < 2 ^ 63) :
    ¬ (ptr.toNat ≤ (ptr + len).toNat ∧ (ptr + len).toNat ≤ n) ↔
      ptr.toInt < 0 ∨ len.toInt < 0 ∨ (n : Int) < ptr.toInt + len.toInt := by
  have := ptr.isLt
  have := len.isLt
  rw [BitVec.toNat_add, BitVec.toInt_eq_toNat_cond, BitVec.toInt_eq_toNat_cond]
  split_ifs <;> omega

section
variable (E : Env) (s : Environment) (ptr : I64)

/-! ## Section 2: The checks, for every `i64` -/

/-- The two checks refuse what they are there to refuse for every `i64`,
    negative values and wrapping sums included: a length above the span
    size always gets `SpanTooSmallError`; and with a nonnegative span size,
    a span whose exact end `ptr + span_size` is past the memory always gets
    `MemoryOutOfBoundError`, from the reading imports and, once the length
    passes, from the sending ones. -/
theorem span_checks_reject (fetch : List EnvCall → Except Error Bytes) (call : EnvCall)
    (send : List EnvCall → Bytes → Except Error Unit) (call' : Bytes → EnvCall) :
    (∀ len : I64, (E.get_span_size s.vm.env).toInt < len.toInt →
      doSend E send call' s ptr len = some (.error .SpanTooSmallError, s.record .get_span_size)) ∧
    (0 ≤ (E.get_span_size s.vm.env).toInt → ∀ m, s.memory = .ok m →
      (m.size : Int) < ptr.toInt + (E.get_span_size s.vm.env).toInt →
      doRead E fetch call s ptr = some (.error .MemoryOutOfBoundError, s.record .get_span_size) ∧
      ∀ len : I64, len.toInt ≤ (E.get_span_size s.vm.env).toInt →
        doSend E send call' s ptr len =
          some (.error .MemoryOutOfBoundError, s.record .get_span_size)) := by
  refine ⟨fun len hgt => ?_, fun hspan m hm hlt => ?_⟩
  · have hy : (E.get_span_size s.vm.env).slt len = true := by
      simpa only [BitVec.slt, decide_eq_true_eq] using hgt
    simp only [doSend, hy, if_true]
  · have hr := requireMemRange_error (lt_toNat_add hspan hlt)
    refine ⟨by simp only [doRead, memory_record, hm, hr], fun len hle => ?_⟩
    have hn : (E.get_span_size s.vm.env).slt len = false := by
      simpa only [BitVec.slt, decide_eq_false_iff_not, not_lt] using hle
    simp only [doSend, hn, memory_record, hm, hr, Bool.false_eq_true, if_false]

/-! ## Section 3: Nonnegative pointers -/

/-- `doRead` from a nonnegative pointer with a nonnegative span size.  If
    the memory cannot be found, or `ptr + span_size` is past its end, the
    call returns that error having asked the host only for the span size.
    Otherwise `ptr + span_size` does not overflow, a host error is returned
    as it is, and host data no longer than the span size is copied to
    `[ptr, ptr + |d|)`, inside the memory, every other byte unchanged, with
    the reply `Ok(|d|)`. -/
theorem doRead_spec (fetch : List EnvCall → Except Error Bytes) (call : EnvCall)
    (hptr : 0 ≤ ptr.toInt) (hspan : 0 ≤ (E.get_span_size s.vm.env).toInt) :
    let span_size := E.get_span_size s.vm.env
    let s₁ := s.record .get_span_size
    (∀ e, s.memory = .error e → doRead E fetch call s ptr = some (.error e, s₁)) ∧
    (∀ m, s.memory = .ok m → m.size < ptr.toNat + span_size.toNat →
      doRead E fetch call s ptr = some (.error .MemoryOutOfBoundError, s₁)) ∧
    (∀ m, s.memory = .ok m → ptr.toNat + span_size.toNat ≤ m.size →
      ptr.toInt + span_size.toInt < 2 ^ 63 ∧
      (∀ e, fetch s₁.vm.env = .error e →
        doRead E fetch call s ptr = some (.error e, s₁.record call)) ∧
      (∀ d, fetch s₁.vm.env = .ok d → d.length ≤ span_size.toNat →
        ptr.toNat + d.length ≤ m.size ∧
        ∃ m', doRead E fetch call s ptr =
            some (.ok (BitVec.ofNat 64 d.length), (s₁.record call).setMemory m') ∧
          m'.size = m.size ∧ ∀ j, m'.bytes[j]? = Memory.written m.bytes ptr.toNat d j)) := by
  dsimp only
  have hsum := toNat_add_of_nonneg hptr hspan
  refine ⟨fun e he => ?_, fun m hm hlt => ?_, fun m hm hle => ?_⟩
  · simp only [doRead, memory_record, he]
  · simp only [doRead, memory_record, hm, hsum, requireMemRange_error hlt]
  have hr : requireMemRange m.size (ptr + E.get_span_size s.vm.env).toNat = .ok () :=
    requireMemRange_ok.mpr (by rwa [hsum])
  refine ⟨?_, fun e he => by simp only [doRead, memory_record, hm, hr, he], fun d hd hdl => ?_⟩
  · have := m.size_lt
    rw [toInt_eq_toNat_of_nonneg hptr, toInt_eq_toNat_of_nonneg hspan]
    omega
  · obtain ⟨m', hw, hsize, hbytes⟩ := Memory.writeBytes_spec ptr m 0 d (by omega)
    refine ⟨by omega, m', ?_, hsize, hbytes⟩
    simp only [doRead, memory_record, hm, hr, hd, hw, Option.map_some']

/-- `doSend` from a nonnegative pointer with a nonnegative length and span
    size.  A length above the span size is refused with
    `SpanTooSmallError`; then a missing memory, or `ptr + span_size` past
    its end, is refused with that error.  In each of these cases the host
    was asked only for the span size.  Otherwise the `len` bytes at
    `[ptr, ptr + len)`, all inside the memory, are handed to the host's
    method once, and its answer is the reply. -/
theorem doSend_spec (send : List EnvCall → Bytes → Except Error Unit)
    (call : Bytes → EnvCall) (len : I64) (hptr : 0 ≤ ptr.toInt) (hlen : 0 ≤ len.toInt)
    (hspan : 0 ≤ (E.get_span_size s.vm.env).toInt) :
    let span_size := E.get_span_size s.vm.env
    let s₁ := s.record .get_span_size
    (span_size.toNat < len.toNat →
      doSend E send call s ptr len = some (.error .SpanTooSmallError, s₁)) ∧
    (len.toNat ≤ span_size.toNat → ∀ e, s.memory = .error e →
      doSend E send call s ptr len = some (.error e, s₁)) ∧
    (len.toNat ≤ span_size.toNat → ∀ m, s.memory = .ok m → m.size < ptr.toNat + span_size.toNat →
      doSend E send call s ptr len = some (.error .MemoryOutOfBoundError, s₁)) ∧
    (len.toNat ≤ span_size.toNat → ∀ m, s.memory = .ok m → ptr.toNat + span_size.toNat ≤ m.size →
      ptr.toInt + len.toInt < 2 ^ 63 ∧ ptr.toNat + len.toNat ≤ m.size ∧
      ∃ data, doSend E send call s ptr len = some (send s₁.vm.env data, s₁.record (call data)) ∧
        data.length = len.toNat ∧ ∀ k, k < data.length → data[k]? = m.bytes[ptr.toNat + k]?) := by
  dsimp only
  have hsum := toNat_add_of_nonneg hptr hspan
  have hslt := slt_iff_of_nonneg hspan hlen
  have hn : len.toNat ≤ (E.get_span_size s.vm.env).toNat →
      (E.get_span_size s.vm.env).slt len = false := fun hle => by
    rw [Bool.eq_false_iff, ne_eq, hslt]; omega
  refine ⟨fun hgt => ?_, fun hle e he => ?_, fun hle m hm hlt => ?_, fun hle m hm hin => ?_⟩
  · simp only [doSend, hslt.mpr hgt, if_true]
  · simp only [doSend, hn hle, memory_record, he, Bool.false_eq_true, if_false]
  · simp only [doSend, hn hle, memory_record, hm, hsum, requireMemRange_error hlt,
      Bool.false_eq_true, if_false]
  · have hr : requireMemRange m.size (ptr + E.get_span_size s.vm.env).toNat = .ok () :=
      requireMemRange_ok.mpr (by rwa [hsum])
    have hsz := m.size_lt
    have hplen := toNat_add_of_nonneg hptr hlen
    obtain ⟨data, hslice, hdlen, hdata⟩ :=
      Memory.readSlice_spec m (show ptr.toNat ≤ (ptr + len).toNat by omega)
        (show (ptr + len).toNat ≤ m.size by omega)
    refine ⟨?_, by omega, data, ?_, by omega, hdata⟩
    · rw [toInt_eq_toNat_of_nonneg hptr, toInt_eq_toNat_of_nonneg hlen]; omega
    · simp only [doSend, hn hle, memory_record, hm, hr, hslice, Option.map_some',
        Bool.false_eq_true, if_false]

/-! ## Section 4: Negative pointers and lengths -/

/-- A negative pointer that passes the range check makes `doRead` panic
    as soon as the host has a byte to copy: the first index,
    `ptr as usize`, is at least `2^63`, far past any memory. -/
theorem doRead_eq_none_of_neg {fetch : List EnvCall → Except Error Bytes} {call : EnvCall}
    {m : Memory} {byte : UInt8} {rest : Bytes} (hneg : ptr.toInt < 0) (hm : s.memory = .ok m)
    (hin : (ptr + E.get_span_size s.vm.env).toNat ≤ m.size)
    (hd : fetch (s.record .get_span_size).vm.env = .ok (byte :: rest)) :
    doRead E fetch call s ptr = none := by
  have hr : requireMemRange m.size (ptr + E.get_span_size s.vm.env).toNat = .ok () :=
    requireMemRange_ok.mpr hin
  have hw : m.writeBytes ptr 0 (byte :: rest) = none := by
    rw [toInt_neg_iff] at hneg
    have := m.size_lt
    exact Memory.writeBytes_eq_none ptr m 0 byte rest
      (by rw [Nat.add_zero, Nat.mod_eq_of_lt ptr.isLt]; omega)
  simp only [doRead, memory_record, hm, hr, hd, hw, Option.map_none']

/-- A negative pointer or length that passes the span check and the range
    check makes `doSend` panic: the slice `ptr as usize..(ptr + len) as usize`
    then starts past its end or ends past the memory. -/
theorem doSend_eq_none_of_neg {send : List EnvCall → Bytes → Except Error Unit}
    {call : Bytes → EnvCall} (len : I64) {m : Memory} (hneg : ptr.toInt < 0 ∨ len.toInt < 0)
    (hle : len.toInt ≤ (E.get_span_size s.vm.env).toInt) (hm : s.memory = .ok m)
    (hin : (ptr + E.get_span_size s.vm.env).toNat ≤ m.size) :
    doSend E send call s ptr len = none := by
  have hn : (E.get_span_size s.vm.env).slt len = false := by
    simpa only [BitVec.slt, decide_eq_false_iff_not, not_lt] using hle
  have hr : requireMemRange m.size (ptr + E.get_span_size s.vm.env).toNat = .ok () :=
    requireMemRange_ok.mpr hin
  have hslice : m.readSlice ptr.toNat (ptr + len).toNat = none := by
    apply Memory.readSlice_eq_none
    rw [toInt_neg_iff, toInt_neg_iff] at hneg
    rw [BitVec.toNat_add]
    have := m.size_lt
    have := ptr.isLt
    have := len.isLt
    omega
  simp only [doSend, hn, memory_record, hm, hr, hslice, Option.map_none',
    Bool.false_eq_true, if_false]

end

/-! ## Section 5: The tests' host on a one-page memory -/

/-- `read_calldata(-1)` and `read_external_data(0, 0, -1)` against the
    tests' host (span size 300, one byte of data): `-1 + 300 = 299` passes
    the range check, and the copy then indexes byte `2^64 - 1` of a
    65536-byte memory, a host panic. -/
theorem read_negative_ptr_panics :
    doReadCalldata mockEnv testEnvironment (-1) = none ∧
    doReadExternalData mockEnv testEnvironment 0 0 (-1) = none := by
  have hin : ((-1 : I64) + mockEnv.get_span_size testEnvironment.vm.env).toNat ≤
      onePageMemory.size := by
    rw [onePageMemory_size]; decide
  exact ⟨doRead_eq_none_of_neg _ _ _ (by decide) rfl hin rfl,
    doRead_eq_none_of_neg _ _ _ (by decide) rfl hin rfl⟩

/-- `set_return_data(0, -1)`, `ask_external_data(1, 1, 0, -1)` and
    `set_return_data(-1, 1)` against the tests' host (span size 300) with
    a one-page memory: each passes the span check and the range check, and
    the slice it then takes is a host panic. -/
theorem send_negative_span_panics :
    doSetReturnData mockEnv testEnvironment 0 (-1) = none ∧
    doAskExternalData mockEnv testEnvironment 1 1 0 (-1) = none ∧
    doSetReturnData mockEnv testEnvironment (-1) 1 = none := by
  have hin₀ : ((0 : I64) + mockEnv.get_span_size testEnvironment.vm.env).toNat ≤
      onePageMemory.size := by
    rw [onePageMemory_size]; decide
  have hin₁ : ((-1 : I64) + mockEnv.get_span_size testEnvironment.vm.env).toNat ≤
      onePageMemory.size := by
    rw [onePageMemory_size]; decide
  exact ⟨doSend_eq_none_of_neg _ _ _ _ (.inr (by decide)) (by decide) rfl hin₀,
    doSend_eq_none_of_neg _ _ _ _ (.inr (by decide)) (by decide) rfl hin₀,
    doSend_eq_none_of_neg _ _ _ _ (.inl (by decide)) (by decide) rfl hin₁⟩

end Owasm
