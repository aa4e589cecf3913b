import Owasm.Safety

/-! # What a run writes into guest memory

    Only the two reading imports write guest memory, and only through the
    copy loop.  Whatever the host answers and whatever the guest passes,
    negative pointers included, a run that does not panic changes the
    guest's memory only inside the spans the reading imports answered
    for: a reading import from `ptr` that replied `Ok(n)` changed at most
    `[ptr, ptr + n)`, and that span lies inside the memory.  An error
    reply, a query, `gas` and the sending imports change no byte.

    One step lemma (`step_changedOnly`) and induction on the calls, with
    the changes so far as the accumulator (`changedOnly_run`), give the
    run theorem (`run_changedOnly`).
-/

namespace Owasm

open Environment

/-! ## Section 1: One host call -/

/-- A `doRead` that answered `Ok(n)` found the memory, got `d` from the
    host, and copied it in at `ptr`: `n` is the length of `d`. -/
theorem doRead_eq_ok {E : Env} {fetch : List EnvCall → Except Error Bytes}
    {call : EnvCall} {s s' : Environment} {ptr n : I64}
    (h : doRead E fetch call s ptr = some (.ok n, s')) :
    ∃ m m' d, s.memory = .ok m ∧ fetch (.get_span_size :: s.vm.env) = .ok d ∧
      n.toNat = d.length ∧ s'.memory = .ok m' ∧ m.writeBytes ptr 0 d = some m' := by
  unfold doRead at h
  simp only [memory_record, record_vm_env] at h
  split at h
  · cases h
  · rename_i m hm
    split at h
    · cases h
    · split at h
      · cases h
      · rename_i d hd
        obtain ⟨m', hw, he⟩ := Option.map_eq_some'.mp h
        cases he
        refine ⟨m, m', d, hm, hd, ?_, memory_setMemory (by simpa only [memory_record]) m', hw⟩
        rw [BitVec.toNat_ofNat, Nat.mod_eq_of_lt]
        rcases (Memory.writeBytes_changedOnly hw).1 with rfl | hfit
        · decide
        · have := m.size_lt; omega

theorem doRead_error_memory {E : Env} {fetch : List EnvCall → Except Error Bytes}
    {call : EnvCall} {s s' : Environment} {ptr : I64} {e : Error}
    (h : doRead E fetch call s ptr = some (.error e, s')) : s'.memory = s.memory := by
  unfold doRead at h
  dsimp only at h
  split at h
  · cases h; rfl
  · split at h
    · cases h; rfl
    · split at h
      · cases h; rfl
      · obtain ⟨_, -, he⟩ := Option.map_eq_some'.mp h
        cases he

/-- A `doRead` that does not panic changed at most the span its reply
    accounts for. -/
theorem doRead_changedOnly {E : Env} {fetch : List EnvCall → Except Error Bytes}
    {call : EnvCall} {s s' : Environment} {ptr : I64} {r : Except Error I64} {m : Memory}
    (h : doRead E fetch call s ptr = some (r, s')) (hm : s.memory = .ok m) :
    ∃ m', s'.memory = .ok m' ∧ m.ChangedOnly (readSpan ptr (r.map some)) m' := by
  cases r with
  | error e => exact ⟨m, (doRead_error_memory h).trans hm, .rfl m⟩
  | ok n =>
    obtain ⟨m₀, m', d, hm₀, -, hn, hm', hw⟩ := doRead_eq_ok h
    cases hm.symm.trans hm₀
    exact ⟨m', hm', (Memory.writeBytes_changedOnly hw).2.congr fun j => by
      simp only [Except.map, readSpan, hn]⟩

theorem doSend_memory {E : Env} {send : List EnvCall → Bytes → Except Error Unit}
    {call : Bytes → EnvCall} {s s' : Environment} {ptr len : I64} {r : Except Error Unit}
    (h : doSend E send call s ptr len = some (r, s')) : s'.memory = s.memory := by
  rcases doSend_cases h with rfl | ⟨data, rfl⟩ <;> rfl

/-- A `doSend` that reached the host passed the span check and handed
    it the slice `ptr as usize..(ptr + len) as usize` of the memory. -/
theorem doSend_sent {E : Env} {send : List EnvCall → Bytes → Except Error Unit}
    {call : Bytes → EnvCall} {s s' : Environment} {ptr len : I64} {r : Except Error Unit}
    (h : doSend E send call s ptr len = some (r, s')) :
    s' = s.record .get_span_size ∨
      ∃ m data, ¬ (E.get_span_size s.vm.env).slt len ∧ s.memory = .ok m ∧
        m.readSlice ptr.toNat (ptr + len).toNat = some data ∧
        s' = (s.record .get_span_size).record (call data) := by
  unfold doSend at h
  simp only [memory_record] at h
  split at h
  · cases h; exact .inl rfl
  · rename_i hle
    split at h
    · cases h; exact .inl rfl
    · rename_i m hm
      split at h
      · cases h; exact .inl rfl
      · obtain ⟨data, hd, he⟩ := Option.map_eq_some'.mp h
        cases he; exact .inr ⟨m, data, hle, hm, hd, rfl⟩

/-- What one host call can do to guest memory: keep it, or, for a
    reading import, change the span its reply accounts for. -/
theorem step_changedOnly {E : Env} {s s' : Environment} {c : HostCall} {r : Reply}
    {m : Memory} (h : step E s c = some (r, s')) (hm : s.memory = .ok m) :
    ∃ m', s'.memory = .ok m' ∧ m.ChangedOnly (c.Writes r) m' := by
  have kept : ∀ {w : Nat → Prop}, (∀ j, ¬ w j) → s'.memory = s.memory →
      ∃ m', s'.memory = .ok m' ∧ m.ChangedOnly w m' := fun hw hs =>
    ⟨m, hs.trans hm, (Memory.ChangedOnly.rfl m).congr fun j => iff_of_false id (hw j)⟩
  rcases step_cases h with ⟨-, hw, _, rfl, -⟩ | ⟨_, _, rfl, hg⟩ | ⟨-, _, _, _, _, h, -, hw⟩ |
    ⟨-, hw, _, _, _, _, _, h, -⟩
  · exact kept hw rfl
  · obtain ⟨-, p, rfl⟩ := decreaseGasLeft_eq_some hg
    exact kept (fun _ h => h) (memory_setPoints s p)
  · rw [hw]
    exact doRead_changedOnly h hm
  · exact kept hw (doSend_memory h)

/-! ## Section 2: Runs -/

/-- The memory frame of a run, by induction on the calls from
    `step_changedOnly`: a run that starts from `m₀` changed at `w` ends in
    `m₀` changed at `w` and at the spans its reading imports answered
    for. -/
theorem changedOnly_run {E : Env} {cs : List HostCall} :
    ∀ {s s' : Environment} {rs : List Reply} {w : Nat → Prop} {m₀ m : Memory},
      run E s cs = some (rs, s') → s.memory = .ok m → m₀.ChangedOnly w m →
      ∃ m', s'.memory = .ok m' ∧
        m₀.ChangedOnly (fun j => w j ∨ ∃ c r, (c, r) ∈ cs.zip rs ∧ c.Writes r j) m' := by
  induction cs with
  | nil =>
    intro s s' rs w m₀ m h hm h₀
    cases h
    exact ⟨m, hm, h₀.congr fun j => by simp⟩
  | cons c cs ih =>
    intro s s' rs w m₀ m h hm h₀
    obtain ⟨r, s₁, rs', h₁, h₂, rfl⟩ := runWith_cons_eq_some h
    obtain ⟨m₁, hm₁, hch₁⟩ := step_changedOnly h₁ hm
    obtain ⟨m', hm', hch⟩ := ih h₂ hm₁ (h₀.trans hch₁)
    refine ⟨m', hm', hch.congr fun j => ?_⟩
    simp [or_and_right, exists_or, or_assoc, and_assoc]

/-- Whatever the host answers and whatever the guest passes, a run that
    does not panic keeps the guest memory's size and changes it only
    inside the spans its reading imports answered for, each of them inside
    the memory. -/
theorem run_changedOnly {E : Env} {cs : List HostCall} {s s' : Environment} {rs : List Reply}
    {m : Memory} (h : run E s cs = some (rs, s')) (hm : s.memory = .ok m) :
    ∃ m', s'.memory = .ok m' ∧
      m.ChangedOnly (fun j => ∃ c r, (c, r) ∈ cs.zip rs ∧ c.Writes r j) m' := by
  obtain ⟨m', hm', hch⟩ := changedOnly_run h hm (.rfl m)
  exact ⟨m', hm', hch.congr fun j => iff_of_eq (false_or _)⟩

/-- The spec's first scenario, `read_calldata(0)` then
    `set_return_data(0, 1)`, against the tests' host and state. -/
theorem run_changedOnly_scenario_one :
    ∃ rs s' m', run mockEnv testEnvironment [.read_calldata 0, .set_return_data 0 1] =
        some (rs, s') ∧ s'.memory = .ok m' ∧
      onePageMemory.ChangedOnly (fun j => ∃ c r, (c, r) ∈
        [HostCall.read_calldata 0, .set_return_data 0 1].zip rs ∧ c.Writes r j) m' := by
  obtain ⟨r₁, s₁, h₁⟩ :=
    @step_some mockEnv 300 mockEnv_fits testEnvironment rfl (.read_calldata 0) (by decide)
  obtain ⟨r₂, s₂, h₂⟩ := @step_some mockEnv 300 mockEnv_fits s₁
    ((step_frame h₁).hasInstance.mpr rfl) (.set_return_data 0 1) (by decide)
  have h := runWith_cons_of_step h₁ (runWith_cons_of_step h₂ (runWith_nil s₂))
  obtain ⟨m', hm', hch⟩ := run_changedOnly h rfl
  exact ⟨_, s₂, m', h, hm', hch⟩

end Owasm
