import Owasm.Writes
import Owasm.Span

/-! # What the host is handed

    The span size is the host's bound on the byte strings that cross
    the import table.  The sending imports keep it for every argument: a
    `set_return_data` or `ask_external_data` that reaches the host hands
    it at most `span_size` bytes, whatever `ptr` and `len` the guest
    passes, negative or wrapping ones included.

    In the host's log, every byte string handed over comes right after a
    span-size query and is no longer than the host's answer to it, read as
    the signed `i64` the imports compare with (`SentWithinSpan`).  One host call keeps this (`step_sentWithinSpan`),
    and by induction on the calls so does every run
    (`run_sentWithinSpan`).

    The reading imports have no bound of their own: what they copy in is
    as long as the host's data, and only the range check and the copy
    loop's index check stand between a host that breaks its contract and
    the memory (`Owasm.Writes`, `Owasm.Panics`).
-/

namespace Owasm

open Environment

/-! ## Section 1: The log invariant -/

/-- Every byte string in the host's log (newest first) came right after a
    span-size query and is no longer than the host's answer to it, as a
    signed `i64`: a negative answer admits no byte string at all. -/
def SentWithinSpan (E : Env) : List EnvCall → Prop
  | [] => True
  | c :: h => (∀ data ∈ c.sent, h.head? = some .get_span_size ∧
      (data.length : Int) ≤ (E.get_span_size h.tail).toInt) ∧ SentWithinSpan E h

instance SentWithinSpan.decide (E : Env) : (h : List EnvCall) → Decidable (SentWithinSpan E h)
  | [] => isTrue trivial
  | c :: h =>
    have := SentWithinSpan.decide E h
    inferInstanceAs (Decidable ((∀ data ∈ c.sent, _) ∧ SentWithinSpan E h))

example : SentWithinSpan mockEnv [.set_return_data [1], .get_span_size, .get_calldata] := by
  decide

example : ¬ SentWithinSpan { mockEnv with get_span_size := fun _ => -1 }
    [.set_return_data [], .get_span_size] := by
  decide

/-- A call that hands the host nothing keeps the invariant. -/
theorem sentWithinSpan_cons_of_sent {E : Env} {c : EnvCall} {h : List EnvCall}
    (hc : c.sent = none) : SentWithinSpan E (c :: h) ↔ SentWithinSpan E h := by
  simp only [SentWithinSpan, hc, Option.not_mem_none, false_implies, implies_true, true_and]

/-! ## Section 2: One host call -/

/-- The slice a sending import hands over, once `len` passed the span
    check, is no longer than the span size, for every `ptr` and `len`. -/
theorem readSlice_length_le {m : Memory} {ptr len span_size : I64} {data : Bytes}
    (hle : ¬ span_size.slt len) (h : m.readSlice ptr.toNat (ptr + len).toNat = some data) :
    (data.length : Int) ≤ span_size.toInt := by
  obtain ⟨hstart, hstop, rfl⟩ := Memory.readSlice_eq_some h
  have hin : ¬ (ptr.toInt < 0 ∨ len.toInt < 0 ∨ (m.size : Int) < ptr.toInt + len.toInt) :=
    fun hout => (slice_out_iff ptr len m.size_lt).mpr hout ⟨hstart, hstop⟩
  simp only [not_or, not_lt] at hin
  obtain ⟨hp, hl, -⟩ := hin
  have hspan : len.toInt ≤ span_size.toInt := by simpa [BitVec.slt] using hle
  have := toInt_eq_toNat_of_nonneg hl
  rw [List.length_take, toNat_add_of_nonneg hp hl]
  omega

theorem doRead_sentWithinSpan {E : Env} {fetch : List EnvCall → Except Error Bytes}
    {call : EnvCall} {s s' : Environment} {ptr : I64} {r : Except Error I64}
    (h : doRead E fetch call s ptr = some (r, s')) (hc : call.sent = none)
    (hs : SentWithinSpan E s.vm.env) : SentWithinSpan E s'.vm.env := by
  have hs₁ : SentWithinSpan E (s.record .get_span_size).vm.env :=
    (sentWithinSpan_cons_of_sent (by rfl)).mpr hs
  rcases doRead_cases h with rfl | rfl | ⟨-, -, -, -, rfl⟩
  · exact hs₁
  all_goals exact (sentWithinSpan_cons_of_sent hc).mpr hs₁

theorem doSend_sentWithinSpan {E : Env} {send : List EnvCall → Bytes → Except Error Unit}
    {call : Bytes → EnvCall} {s s' : Environment} {ptr len : I64} {r : Except Error Unit}
    (h : doSend E send call s ptr len = some (r, s')) (hc : ∀ data, (call data).sent = some data)
    (hs : SentWithinSpan E s.vm.env) : SentWithinSpan E s'.vm.env := by
  rcases doSend_sent h with rfl | ⟨m, data, hle, -, hslice, rfl⟩
  · exact (sentWithinSpan_cons_of_sent (by rfl)).mpr hs
  · refine ⟨fun d hd => ?_, (sentWithinSpan_cons_of_sent (by rfl)).mpr hs⟩
    rw [hc, Option.mem_some_iff] at hd
    subst hd
    exact ⟨rfl, readSlice_length_le hle hslice⟩

/-- One host call keeps the invariant, for every host and argument. -/
theorem step_sentWithinSpan {E : Env} {s s' : Environment} {c : HostCall} {r : Reply}
    (h : step E s c = some (r, s')) (hs : SentWithinSpan E s.vm.env) :
    SentWithinSpan E s'.vm.env := by
  rcases step_cases h with ⟨-, -, _, rfl, hc⟩ | ⟨_, _, -, h⟩ | ⟨-, _, _, _, _, h, hc, -⟩ |
    ⟨-, -, _, _, _, _, _, h, hc⟩
  · exact (sentWithinSpan_cons_of_sent hc).mpr hs
  · obtain ⟨-, p, rfl⟩ := decreaseGasLeft_eq_some h
    exact hs
  · exact doRead_sentWithinSpan h hc hs
  · exact doSend_sentWithinSpan h hc hs

/-! ## Section 3: Runs -/

/-- Whatever the host answers and whatever the guest passes, every run
    that does not panic keeps the invariant: no sending import ever hands
    the host more bytes than the span size it answered just before. -/
theorem run_sentWithinSpan {E : Env} {cs : List HostCall} :
    ∀ {s s' : Environment} {rs : List Reply}, run E s cs = some (rs, s') →
      SentWithinSpan E s.vm.env → SentWithinSpan E s'.vm.env := by
  induction cs with
  | nil => intro s s' rs h hs; cases h; exact hs
  | cons c cs ih =>
    intro s s' rs h hs
    obtain ⟨r, s₁, rs', h₁, h₂, -⟩ := runWith_cons_eq_some h
    exact ih h₂ (step_sentWithinSpan h₁ hs)

/-- The spec's first scenario, `read_calldata(0)` then
    `set_return_data(0, 1)`, against the tests' host and state, whose log
    starts empty. -/
theorem run_sentWithinSpan_scenario_one :
    ∃ rs s', run mockEnv testEnvironment [.read_calldata 0, .set_return_data 0 1] =
        some (rs, s') ∧ SentWithinSpan mockEnv testEnvironment.vm.env ∧
      SentWithinSpan mockEnv s'.vm.env := by
  obtain ⟨r₁, s₁, h₁⟩ :=
    @step_some mockEnv 300 mockEnv_fits testEnvironment rfl (.read_calldata 0) (by decide)
  obtain ⟨r₂, s₂, h₂⟩ := @step_some mockEnv 300 mockEnv_fits s₁
    ((step_frame h₁).hasInstance.mpr rfl) (.set_return_data 0 1) (by decide)
  have h := runWith_cons_of_step h₁ (runWith_cons_of_step h₂ (runWith_nil s₂))
  exact ⟨_, s₂, h, trivial, run_sentWithinSpan h trivial⟩

/-! ## Section 4: What was read in is handed back -/

/-- Read-your-writes through guest memory, for every host and every guest,
    and for either reading import followed by either sending import: once
    a reading import from `ptr` (`fetch`, logged as `call`) has answered
    `Ok(n)`, and the reading imports of the run after it answered for no
    span meeting `[ptr, ptr + n)`, a sending import of `n` bytes from `ptr`
    that reaches the host hands it exactly the bytes the host gave. -/
theorem sent_eq_read {E : Env} {fetch : List EnvCall → Except Error Bytes} {call : EnvCall}
    {send : List EnvCall → Bytes → Except Error Unit} {call' : Bytes → EnvCall}
    {s₀ s₁ s₂ s₃ : Environment} {ptr n : I64} {cs : List HostCall} {rs : List Reply}
    {r : Except Error Unit} {data : Bytes}
    (h₁ : doRead E fetch call s₀ ptr = some (.ok n, s₁))
    (h₂ : run E s₁ cs = some (rs, s₂))
    (hw : ∀ c r j, (c, r) ∈ cs.zip rs → c.Writes r j →
      j < ptr.toNat ∨ ptr.toNat + n.toNat ≤ j)
    (h₃ : doSend E send call' s₂ ptr n = some (r, s₃))
    (hc : ∀ d, (call' d).sent = some d)
    (hsent : s₃.vm.env.head? = some (call' data)) :
    fetch (.get_span_size :: s₀.vm.env) = .ok data := by
  -- the reading import copied the host's bytes `d` over `m` at `ptr`
  obtain ⟨m, m₁, d, -, hd, hn, hm₁, hw₁⟩ := doRead_eq_ok h₁
  obtain ⟨hfit, hbytes⟩ := Memory.writeBytes_eq_some hw₁
  rw [Nat.add_zero, Nat.mod_eq_of_lt ptr.isLt] at hfit hbytes
  -- the run after it kept every byte of `[ptr, ptr + n)`
  obtain ⟨m₂, hm₂, hch⟩ := changedOnly_run h₂ hm₁ (.rfl m₁)
  -- the sending import handed the host the `n` bytes at `ptr`
  rcases doSend_sent h₃ with rfl | ⟨m', data', -, hm', hslice, rfl⟩
  · have hlast := congrArg EnvCall.sent (Option.some.inj hsent)
    rw [hc] at hlast
    cases hlast
  have hlast := congrArg EnvCall.sent (Option.some.inj hsent)
  rw [hc, hc, Option.some.injEq] at hlast
  subst hlast
  cases hm₂.symm.trans hm'
  obtain ⟨-, -, rfl⟩ := Memory.readSlice_eq_some hslice
  have hend : (ptr + n).toNat = ptr.toNat + d.length := by
    have := m.size_lt
    have := hfit.imp List.length_eq_zero.mpr id
    rw [BitVec.toNat_add, hn]
    omega
  rw [hd, hend, Nat.add_sub_cancel_left]
  refine congrArg _ (List.ext_getElem? fun k => ?_)
  by_cases hk : k < d.length
  · rw [List.getElem?_take_of_lt hk, List.getElem?_drop, hch.frame _ ?_, hbytes,
      Memory.written_add_of_lt _ _ _ hk]
    rintro (h | ⟨c, r, hmem, hwr⟩)
    · exact h
    · have := hw c r _ hmem hwr
      omega
  · rw [List.getElem?_eq_none (by omega), List.getElem?_eq_none (by simp; omega)]

/-- The pattern of the chain test's `execute`, against the tests' host
    and state: `read_external_data(1, 0, 0)` copies the host's `[1]` in at
    `0`, a `gas` call is paid, and `set_return_data(0, 1)` then hands the
    host the byte at `0`. -/
theorem sent_eq_read_external_data :
    ∃ s₁ s₂ s₃ rs r data,
      doReadExternalData mockEnv testEnvironment 1 0 0 = some (.ok 1, s₁) ∧
      run mockEnv s₁ [.gas 0] = some (rs, s₂) ∧
      (∀ c r j, (c, r) ∈ [HostCall.gas 0].zip rs → c.Writes r j →
        j < (0 : I64).toNat ∨ (0 : I64).toNat + (1 : I64).toNat ≤ j) ∧
      doSetReturnData mockEnv s₂ 0 1 = some (r, s₃) ∧
      (∀ d, (EnvCall.set_return_data d).sent = some d) ∧
      s₃.vm.env.head? = some (.set_return_data data) ∧
      mockEnv.get_external_data (.get_span_size :: testEnvironment.vm.env) 1 0 = .ok data := by
  -- `read_external_data(1, 0, 0)` copies the host's `[1]` in at `0`
  obtain ⟨-, -, hread⟩ := doRead_spec mockEnv testEnvironment 0
    (fun h => mockEnv.get_external_data h 1 0) (.get_external_data 1 0) (by decide) (by decide)
  obtain ⟨-, m₁, h₁, hsize, -⟩ :=
    (hread onePageMemory rfl (by rw [onePageMemory_size]; decide)).2.2 [1] rfl (by decide)
  -- `gas(0)` is paid from the tests' points, and changes only them
  let s₁ := ((testEnvironment.record .get_span_size).record (.get_external_data 1 0)).setMemory m₁
  have hg₁ : s₁.getGasLeft = some 2500000000000 := by
    simp only [s₁, getGasLeft_setMemory, getGasLeft_record]; rfl
  obtain ⟨r₂, s₂, hstep, -⟩ := step_gas mockEnv hg₁ 0
  obtain ⟨⟨r₀, s₀⟩, hd, he⟩ :=
    Option.map_eq_some'.mp (show (doGas s₁ 0).map unitReply = some (r₂, s₂) from hstep)
  cases he
  obtain ⟨-, p, rfl⟩ := decreaseGasLeft_eq_some hd
  have h₂ := runWith_cons_of_step hstep (runWith_nil _)
  have hw : ∀ rs c r j, (c, r) ∈ [HostCall.gas 0].zip rs → c.Writes r j →
      j < (0 : I64).toNat ∨ (0 : I64).toNat + (1 : I64).toNat ≤ j := by
    intro rs c r j hmem hwr
    obtain rfl : c = .gas 0 := by simpa using (List.of_mem_zip hmem).1
    exact hwr.elim
  -- `set_return_data(0, 1)` hands over the byte at `0` of that memory
  have hm₂ : (s₁.setPoints p).memory = .ok m₁ := by
    rw [memory_setPoints]
    exact memory_setMemory (show ((testEnvironment.record .get_span_size).record
      (.get_external_data 1 0)).memory = .ok onePageMemory from rfl) m₁
  have hspan := mockEnv_fits.get_span_size (s₁.setPoints p).vm.env
  obtain ⟨-, -, -, hsend⟩ := doSend_spec mockEnv (s₁.setPoints p) 0 mockEnv.set_return_data
    .set_return_data 1 (by decide) (by decide) (by rw [hspan]; decide)
  obtain ⟨-, -, data, h₃, -⟩ :=
    hsend (by rw [hspan]; decide) m₁ hm₂ (by rw [hsize, onePageMemory_size, hspan]; decide)
  exact ⟨s₁, _, _, _, _, data, h₁, h₂, hw _, h₃, fun _ => rfl, rfl,
    sent_eq_read h₁ h₂ (hw _) h₃ (fun _ => rfl) rfl⟩

end Owasm
