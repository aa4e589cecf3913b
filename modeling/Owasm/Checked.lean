import Owasm.Panics
import Owasm.Safety

/-! # The build with overflow checks

    Rust's `+` panics, "attempt to add with overflow", in a build with
    overflow checks (cargo's dev and test profiles), where the release
    build wraps.  The imports make three such sums: `ptr + span_size` in
    the four imports that touch guest memory, `ptr + len` in the two
    sending ones, and `ptr as usize + idx` in the copy loop of the two
    reading ones.  This file runs the imports as that build does
    (`stepChecked`, `runChecked`) and compares it with the release build
    the rest of the model runs.

    The two builds part at one place only: a call that finds the memory
    (and, for a sending one, passes the span check) and whose
    `ptr + span_size` leaves the `i64` range panics with overflow checks,
    where the release build wraps and goes on (`stepChecked_eq`).  The two
    other sums never overflow before the release build panics by itself:
    once `ptr + span_size` is in range, an overflowing `ptr + len` has a
    negative `ptr` or `len`, so the slice is out of range
    (`readSlice_eq_none_of_addOverflows`); and the copy loop stops at the
    first index past the memory, far below `2^64`
    (`writeBytesChecked_eq`).

    So a run of the checked build panics exactly when one of its calls
    panics in the release build or overflows `ptr + span_size`
    (`runChecked_eq_none_iff`), and a run in which no call overflows is the
    release run (`runChecked_eq_run`), of which every theorem about release
    runs holds.
-/

namespace Owasm

open Environment

/-! ## Section 1: Checked sums -/

/-- The exact sum of two `i64`s leaves `[-2^63, 2^63)`: with overflow
    checks, `a + b` panics. -/
def AddOverflows (a b : I64) : Prop :=
  a.toInt + b.toInt < -2 ^ 63 ∨ 2 ^ 63 ≤ a.toInt + b.toInt

instance (a b : I64) : Decidable (AddOverflows a b) := by
  unfold AddOverflows; infer_instance

/-- `a + b` on `i64` with overflow checks; `none` is the panic. -/
def checkedAdd (a b : I64) : Option I64 :=
  if AddOverflows a b then none else some (a + b)

theorem toInt_bounds (x : I64) : -2 ^ 63 ≤ x.toInt ∧ x.toInt < 2 ^ 63 := by
  rw [BitVec.toInt_eq_toNat_cond]
  have := x.isLt
  split <;> omega

/-- The copy loop with overflow checks: `ptr as usize + idx` panics once
    it reaches `2^64`. -/
def Memory.writeBytesChecked (ptr : I64) : Memory → Nat → Bytes → Option Memory
  | m, _, [] => some m
  | m, idx, byte :: rest =>
    if ptr.toNat + idx < 2 ^ 64 then
      let i := ptr.toNat + idx
      if i < m.size then writeBytesChecked ptr (m.set i byte) (idx + 1) rest else none
    else none

/-- From an index whose sum is in range, the checked loop is the release
    loop: it stops at the first index past the memory, long before the
    sum could reach `2^64`. -/
theorem Memory.writeBytesChecked_eq (ptr : I64) (m : Memory) (idx : Nat) (data : Bytes)
    (h : ptr.toNat + idx < 2 ^ 64) :
    m.writeBytesChecked ptr idx data = m.writeBytes ptr idx data := by
  induction data generalizing m idx with
  | nil => rfl
  | cons byte rest ih =>
    simp only [writeBytesChecked, writeBytes, if_pos h, Nat.mod_eq_of_lt h]
    split_ifs with hlt
    · exact ih _ _ (by have := m.size_lt; omega)
    · rfl

/-- Once `ptr + span_size` is in range and `len ≤ span_size`, an
    overflowing `ptr + len` has a negative `ptr` or `len`: the release
    build's slice is out of range too. -/
theorem readSlice_eq_none_of_addOverflows {m : Memory} {ptr len span_size : I64}
    (hspan : ¬ AddOverflows ptr span_size) (hle : len.toInt ≤ span_size.toInt)
    (ho : AddOverflows ptr len) : m.readSlice ptr.toNat (ptr + len).toNat = none := by
  rw [Memory.readSlice_eq_none_iff, slice_out_iff ptr len m.size_lt]
  have := toInt_bounds ptr
  have := toInt_bounds len
  unfold AddOverflows at hspan ho
  omega

/-! ## Section 2: The imports with overflow checks -/

/-- `doRead` with overflow checks. -/
def doReadChecked (E : Env) (fetch : List EnvCall → Except Error Bytes) (call : EnvCall)
    (s : Environment) (ptr : I64) : Option (Except Error I64 × Environment) :=
  let span_size := E.get_span_size s.vm.env
  let s := s.record .get_span_size
  match s.memory with
  | .error e => some (.error e, s)
  | .ok memory => do
    let stop ← checkedAdd ptr span_size
    match requireMemRange memory.size stop.toNat with
    | .error e => some (.error e, s)
    | .ok () =>
      match fetch s.vm.env with
      | .error e => some (.error e, s.record call)
      | .ok data =>
        (memory.writeBytesChecked ptr 0 data).map fun memory' =>
          (.ok (BitVec.ofNat 64 data.length), (s.record call).setMemory memory')

/-- `doSend` with overflow checks. -/
def doSendChecked (E : Env) (send : List EnvCall → Bytes → Except Error Unit)
    (call : Bytes → EnvCall) (s : Environment) (ptr len : I64) :
    Option (Except Error Unit × Environment) :=
  let span_size := E.get_span_size s.vm.env
  let s := s.record .get_span_size
  if span_size.slt len then some (.error .SpanTooSmallError, s)
  else
    match s.memory with
    | .error e => some (.error e, s)
    | .ok memory => do
      let stop ← checkedAdd ptr span_size
      match requireMemRange memory.size stop.toNat with
      | .error e => some (.error e, s)
      | .ok () => do
        let stop ← checkedAdd ptr len
        (memory.readSlice ptr.toNat stop.toNat).map fun data =>
          (send s.vm.env data, s.record (call data))

/-- One host call with overflow checks.  `gas` and the queries make no
    sum and run as in the release build. -/
def stepChecked (E : Env) (s : Environment) : HostCall → Option (Reply × Environment)
  | .read_calldata ptr => (doReadChecked E E.get_calldata .get_calldata s ptr).map valueReply
  | .set_return_data ptr len =>
    (doSendChecked E E.set_return_data .set_return_data s ptr len).map unitReply
  | .ask_external_data eid did ptr len =>
    (doSendChecked E (fun h => E.ask_external_data h eid did) (.ask_external_data eid did) s
      ptr len).map unitReply
  | .read_external_data eid vid ptr =>
    (doReadChecked E (fun h => E.get_external_data h eid vid) (.get_external_data eid vid) s
      ptr).map valueReply
  | c => step E s c

/-- A run of host calls with overflow checks. -/
abbrev runChecked (E : Env) : Environment → List HostCall → Option (List Reply × Environment) :=
  runWith (stepChecked E)

/-! ## Section 3: Where the two builds part -/

/-- The call finds the memory (a sending one, past the span check too)
    and its `ptr + span_size` leaves the `i64` range. -/
def HostCall.Overflows (E : Env) (s : Environment) : HostCall → Prop
  | .read_calldata ptr | .read_external_data _ _ ptr =>
    s.memory.isOk ∧ AddOverflows ptr (E.get_span_size s.vm.env)
  | .set_return_data ptr len | .ask_external_data _ _ ptr len =>
    ¬ (E.get_span_size s.vm.env).slt len ∧ s.memory.isOk ∧
      AddOverflows ptr (E.get_span_size s.vm.env)
  | _ => False

instance HostCall.decOverflows (E : Env) (s : Environment) :
    (c : HostCall) → Decidable (c.Overflows E s)
  | .read_calldata _ | .read_external_data _ _ _ => inferInstanceAs (Decidable (_ ∧ _))
  | .set_return_data _ _ | .ask_external_data _ _ _ _ => inferInstanceAs (Decidable (_ ∧ _ ∧ _))
  | .gas _ | .get_span_size | .get_ask_count | .get_min_count | .get_prepare_time
  | .get_execute_time | .get_ans_count | .get_external_data_status _ _ => isFalse id

section
variable (E : Env) (s : Environment) (ptr : I64)

theorem doReadChecked_eq (fetch : List EnvCall → Except Error Bytes) (call : EnvCall) :
    doReadChecked E fetch call s ptr =
      if s.memory.isOk ∧ AddOverflows ptr (E.get_span_size s.vm.env) then none
      else doRead E fetch call s ptr := by
  unfold doReadChecked doRead
  simp only [memory_record]
  cases s.memory with
  | error e => rfl
  | ok m =>
    by_cases ho : AddOverflows ptr (E.get_span_size s.vm.env)
    · simp only [checkedAdd, ho, Except.isOk, Except.toBool, and_self, if_true,
        Option.bind_eq_bind, Option.none_bind]
    · simp only [checkedAdd, ho, Except.isOk, Except.toBool, and_false, if_false,
        Option.bind_eq_bind, Option.some_bind]
      cases requireMemRange m.size (ptr + E.get_span_size s.vm.env).toNat with
      | error e => rfl
      | ok u =>
        dsimp only
        cases fetch (s.record .get_span_size).vm.env with
        | error e => rfl
        | ok d =>
          dsimp only
          rw [Memory.writeBytesChecked_eq ptr m 0 d (by have := ptr.isLt; omega)]

theorem doSendChecked_eq (send : List EnvCall → Bytes → Except Error Unit)
    (call : Bytes → EnvCall) (len : I64) :
    doSendChecked E send call s ptr len =
      if ¬ (E.get_span_size s.vm.env).slt len ∧ s.memory.isOk ∧
        AddOverflows ptr (E.get_span_size s.vm.env) then none
      else doSend E send call s ptr len := by
  unfold doSendChecked doSend
  simp only [memory_record]
  by_cases hgt : (E.get_span_size s.vm.env).slt len
  · simp only [hgt, not_true_eq_false, false_and, if_false, if_true]
  have hle : len.toInt ≤ (E.get_span_size s.vm.env).toInt := by simpa [BitVec.slt] using hgt
  cases s.memory with
  | error e =>
    simp only [hgt, Bool.false_eq_true, ↓reduceIte, not_false_eq_true, Except.isOk,
      Except.toBool, false_and, and_false]
  | ok m =>
    by_cases ho : AddOverflows ptr (E.get_span_size s.vm.env)
    · simp only [checkedAdd, hgt, ho, Except.isOk, Except.toBool, Bool.false_eq_true,
        not_false_eq_true, and_self, if_true, if_false, Option.bind_eq_bind, Option.none_bind]
    · simp only [checkedAdd, hgt, ho, Except.isOk, Except.toBool, Bool.false_eq_true,
        not_false_eq_true, and_false, if_false, Option.bind_eq_bind, Option.some_bind]
      cases requireMemRange m.size (ptr + E.get_span_size s.vm.env).toNat with
      | error e => rfl
      | ok u =>
        dsimp only
        by_cases ho' : AddOverflows ptr len
        · simp only [ho', if_true, Option.bind_eq_bind, Option.none_bind,
            readSlice_eq_none_of_addOverflows ho hle ho', Option.map_none']
        · simp only [ho', if_false, Option.bind_eq_bind, Option.some_bind]

end

/-- The build with overflow checks makes every host call as the release
    build does, but panics where the call overflows `ptr + span_size`. -/
theorem stepChecked_eq (E : Env) (s : Environment) (c : HostCall) :
    stepChecked E s c = if c.Overflows E s then none else step E s c := by
  cases c
  case read_calldata ptr | read_external_data eid vid ptr =>
    show (doReadChecked E _ _ s ptr).map valueReply =
      if s.memory.isOk ∧ AddOverflows ptr (E.get_span_size s.vm.env) then none
      else (doRead E _ _ s ptr).map valueReply
    rw [doReadChecked_eq]
    split_ifs <;> rfl
  case set_return_data ptr len | ask_external_data eid did ptr len =>
    show (doSendChecked E _ _ s ptr len).map unitReply =
      if ¬ (E.get_span_size s.vm.env).slt len ∧ s.memory.isOk ∧
        AddOverflows ptr (E.get_span_size s.vm.env) then none
      else (doSend E _ _ s ptr len).map unitReply
    rw [doSendChecked_eq]
    split_ifs <;> rfl
  all_goals rfl

theorem stepChecked_eq_none_iff (E : Env) (s : Environment) (c : HostCall) :
    stepChecked E s c = none ↔ c.Panics E s ∨ c.Overflows E s := by
  rw [stepChecked_eq]
  split_ifs with h
  · exact iff_of_true rfl (.inr h)
  · rw [step_eq_none_iff, or_iff_left h]

/-! ## Section 4: Runs -/

/-- Exactly when a run panics with overflow checks, for every host, state
    and call list: when one of its calls, from the state the calls before
    it reached, panics as in the release build or overflows
    `ptr + span_size`. -/
theorem runChecked_eq_none_iff (E : Env) :
    ∀ (cs : List HostCall) (s : Environment), runChecked E s cs = none ↔
      ∃ pre c post rs s', cs = pre ++ c :: post ∧ runChecked E s pre = some (rs, s') ∧
        (c.Panics E s' ∨ c.Overflows E s') :=
  runWith_eq_none_iff fun s c => stepChecked_eq_none_iff E s c

/-- A run in which no call overflows `ptr + span_size`, from the state
    the release run reaches before it, is the same run with and without
    overflow checks: the same replies, the same final state, the same
    panics. -/
theorem runChecked_eq_run (E : Env) :
    ∀ (cs : List HostCall) (s : Environment),
      (∀ pre c post rs s', cs = pre ++ c :: post → run E s pre = some (rs, s') →
        ¬ c.Overflows E s') →
      runChecked E s cs = run E s cs
  | [], _, _ => rfl
  | c :: cs, s, h => by
    have hstep : stepChecked E s c = step E s c := by
      rw [stepChecked_eq, if_neg (h [] c cs [] s rfl rfl)]
    show runWith (stepChecked E) s (c :: cs) = runWith (step E) s (c :: cs)
    cases hs : step E s c with
    | none => simp only [runWith, hstep, hs, Option.bind_eq_bind, Option.none_bind]
    | some p =>
      obtain ⟨r, s₁⟩ := p
      have ih := runChecked_eq_run E cs s₁ fun pre c' post rs s' heq hpre =>
        h (c :: pre) c' post (r :: rs) s' (by rw [heq]; rfl) (runWith_cons_of_step hs hpre)
      simp only [runWith, hstep, hs, Option.bind_eq_bind, Option.some_bind]
      rw [show runWith (stepChecked E) s₁ cs = runWith (step E) s₁ cs from ih]

/-- The spec's first scenario against the tests' host and state: with a
    pointer of `0` and a span size of `300`, no call overflows, and the
    run is the same in both builds. -/
theorem runChecked_eq_run_scenario_one :
    (∀ pre c post rs s', [HostCall.read_calldata 0, .set_return_data 0 1] = pre ++ c :: post →
      run mockEnv testEnvironment pre = some (rs, s') → ¬ c.Overflows mockEnv s') ∧
    runChecked mockEnv testEnvironment [.read_calldata 0, .set_return_data 0 1] =
      run mockEnv testEnvironment [.read_calldata 0, .set_return_data 0 1] := by
  have h : ∀ pre c post rs s', [HostCall.read_calldata 0, .set_return_data 0 1] =
      pre ++ c :: post → run mockEnv testEnvironment pre = some (rs, s') →
      ¬ c.Overflows mockEnv s' := by
    intro pre c post rs s' heq _
    have hc : c ∈ [HostCall.read_calldata 0, .set_return_data 0 1] := by
      rw [heq]; exact List.mem_append_right _ (List.mem_cons_self _ _)
    have hspan := mockEnv_fits.get_span_size s'.vm.env
    simp only [List.mem_cons, List.mem_singleton, List.not_mem_nil, or_false] at hc
    rcases hc with rfl | rfl
    · exact fun ho => absurd ho.2 (by rw [hspan]; decide)
    · exact fun ho => absurd ho.2.2 (by rw [hspan]; decide)
  exact ⟨h, runChecked_eq_run mockEnv _ testEnvironment h⟩

end Owasm
