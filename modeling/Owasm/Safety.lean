import Owasm.Gas
import Owasm.Span

/-! # Whole runs: what no host call changes, and when none panics

    `Frame` collects what every import leaves alone: the `VMLogic`'s own
    gas counters (the imports never charge them), whether an instance is
    set, and the size of the guest memory; the host's history only grows.
    One lemma per shape of import gives `step_frame`, and induction on the
    calls gives `run_frame`.

    `run_some` is the progress half: against a host that keeps the spec's
    contract (a fixed nonnegative span size, data that fits in it), a
    guest that passes only nonnegative pointers and lengths never makes
    the host panic.  Together with `doRead_eq_none_of_neg` and
    `doSend_eq_none_of_neg` this places every reachable panic at a
    negative argument, in the release build; with overflow checks also
    at a `ptr + span_size` outside the `i64` range (`Owasm.Checked`).

    `calldata_round_trip` follows one value through the guest memory: the
    bytes `read_calldata` copies in are the bytes `set_return_data` then
    hands back to the host.
-/

namespace Owasm

open Environment

/-! ## Section 1: The frame of a host call -/

/-- What a host call leaves alone, from `s` to `s'`. -/
structure Frame (s s' : Environment) : Prop where
  /-- The `VMLogic`'s limit. -/
  gas_limit : s'.vm.gas_limit = s.vm.gas_limit
  /-- The `VMLogic`'s counter. -/
  gas_used : s'.vm.gas_used = s.vm.gas_used
  /-- Whether the runner's instance is set. -/
  hasInstance : s'.HasInstance ↔ s.HasInstance
  /-- The size of the guest memory, when there is one. -/
  memory_size : s'.memory.toOption.map Memory.size = s.memory.toOption.map Memory.size
  /-- The host's history: what was asked before stays, newer calls go in front. -/
  history : s.vm.env <:+ s'.vm.env

theorem Frame.refl (s : Environment) : Frame s s :=
  ⟨rfl, rfl, .rfl, rfl, List.suffix_refl _⟩

theorem Frame.trans {s₁ s₂ s₃ : Environment} (h₁ : Frame s₁ s₂)
    (h₂ : Frame s₂ s₃) : Frame s₁ s₃ :=
  ⟨h₂.gas_limit.trans h₁.gas_limit, h₂.gas_used.trans h₁.gas_used,
    h₂.hasInstance.trans h₁.hasInstance, h₂.memory_size.trans h₁.memory_size,
    h₁.history.trans h₂.history⟩

theorem Frame.record (s : Environment) (c : EnvCall) : Frame s (s.record c) :=
  ⟨rfl, rfl, .rfl, rfl, List.suffix_cons _ _⟩

/-- Storing back a memory of the size `memory()` found. -/
theorem Frame.setMemory {s : Environment} {m m' : Memory} (hm : s.memory = .ok m)
    (hsize : m'.size = m.size) : Frame s (s.setMemory m') :=
  ⟨rfl, rfl, hasInstance_setMemory s m',
    by rw [memory_setMemory hm, hm]; exact congrArg some hsize, List.suffix_refl _⟩

/-- Setting the points, the only thing `gas` changes. -/
theorem Frame.setPoints (s : Environment) (p : MeteringPoints) : Frame s (s.setPoints p) :=
  ⟨rfl, rfl, hasInstance_setPoints s p, by rw [memory_setPoints], List.suffix_refl _⟩

theorem doRead_frame {E : Env} {fetch : List EnvCall → Except Error Bytes} {call : EnvCall}
    {s s' : Environment} {ptr : I64} {r : Except Error I64}
    (h : doRead E fetch call s ptr = some (r, s')) : Frame s s' := by
  rcases doRead_cases h with rfl | rfl | ⟨m, m', hm, hsize, rfl⟩
  · exact .record _ _
  · exact (Frame.record _ _).trans (.record _ _)
  · exact ((Frame.record _ _).trans (.record _ _)).trans (.setMemory hm hsize)

theorem doSend_frame {E : Env} {send : List EnvCall → Bytes → Except Error Unit}
    {call : Bytes → EnvCall} {s s' : Environment} {ptr len : I64} {r : Except Error Unit}
    (h : doSend E send call s ptr len = some (r, s')) : Frame s s' := by
  rcases doSend_cases h with rfl | ⟨data, rfl⟩
  · exact .record _ _
  · exact (Frame.record _ _).trans (.record _ _)

/-- Every host call keeps the frame. -/
theorem step_frame {E : Env} {s s' : Environment} {c : HostCall} {r : Reply}
    (h : step E s c = some (r, s')) : Frame s s' := by
  rcases step_cases h with ⟨-, -, _, rfl, -⟩ | ⟨_, _, -, h⟩ | ⟨-, _, _, _, _, h, -⟩ |
    ⟨-, -, _, _, _, _, _, h, -⟩
  · exact .record _ _
  · obtain ⟨-, p, rfl⟩ := decreaseGasLeft_eq_some h
    exact .setPoints s p
  · exact doRead_frame h
  · exact doSend_frame h

/-- Every run keeps the frame: the imports never charge the `VMLogic`'s
    counter, never unset the instance, never resize the guest memory, and
    never rewrite the host's history. -/
theorem run_frame {E : Env} {cs : List HostCall} :
    ∀ {s s' : Environment} {rs : List Reply}, run E s cs = some (rs, s') → Frame s s' := by
  induction cs with
  | nil => intro s s' rs h; cases h; exact .refl s
  | cons c cs ih =>
    intro s s' rs h
    obtain ⟨r, s₁, rs', h₁, h₂, -⟩ := runWith_cons_eq_some h
    exact (step_frame h₁).trans (ih h₂)

/-- A `gas` call, a query and a `set_return_data` against the tests' host,
    on an instance that exports no memory: the last is refused, and the
    frame holds. -/
theorem run_frame_no_memory :
    ∃ rs s', run mockEnv ((Environment.new [] 0).setWasmerInstance
        (some ⟨none, .Remaining 2500000000000⟩)) [.gas 0, .get_ask_count, .set_return_data 0 0] =
      some (rs, s') ∧
      Frame ((Environment.new [] 0).setWasmerInstance (some ⟨none, .Remaining 2500000000000⟩)) s' := by
  obtain ⟨rs, s', h⟩ : ∃ rs s', run mockEnv ((Environment.new [] 0).setWasmerInstance
      (some ⟨none, .Remaining 2500000000000⟩)) [.gas 0, .get_ask_count, .set_return_data 0 0] =
      some (rs, s') := ⟨_, _, rfl⟩
  exact ⟨rs, s', h, run_frame h⟩

/-! ## Section 2: Progress -/

/-- Every `ptr` and `len` the guest passes is a nonnegative `i64`. -/
def HostCall.NonNeg : HostCall → Prop
  | .read_calldata ptr => 0 ≤ ptr.toInt
  | .set_return_data ptr len => 0 ≤ ptr.toInt ∧ 0 ≤ len.toInt
  | .ask_external_data _ _ ptr len => 0 ≤ ptr.toInt ∧ 0 ≤ len.toInt
  | .read_external_data _ _ ptr => 0 ≤ ptr.toInt
  | _ => True

instance HostCall.decNonNeg : (c : HostCall) → Decidable c.NonNeg
  | .read_calldata ptr => inferInstanceAs (Decidable (0 ≤ ptr.toInt))
  | .set_return_data ptr len => inferInstanceAs (Decidable (0 ≤ ptr.toInt ∧ 0 ≤ len.toInt))
  | .ask_external_data _ _ ptr len => inferInstanceAs (Decidable (0 ≤ ptr.toInt ∧ 0 ≤ len.toInt))
  | .read_external_data _ _ ptr => inferInstanceAs (Decidable (0 ≤ ptr.toInt))
  | .gas _ | .get_span_size | .get_ask_count | .get_min_count | .get_prepare_time
  | .get_execute_time | .get_ans_count | .get_external_data_status _ _ => isTrue trivial

/-- What the spec asks of the host (§4.2): the span size is a nonnegative
    constant of the request, and the data the host hands back fits in it. -/
structure Env.Fits (E : Env) (span_size : I64) : Prop where
  get_span_size : ∀ h, E.get_span_size h = span_size
  nonneg : 0 ≤ span_size.toInt
  get_calldata : ∀ h d, E.get_calldata h = .ok d → d.length ≤ span_size.toNat
  get_external_data : ∀ h eid vid d, E.get_external_data h eid vid = .ok d →
    d.length ≤ span_size.toNat

section
variable (E : Env) (s : Environment) (ptr : I64)

/-- A `doRead` from a nonnegative pointer does not panic when the host's
    data fits in the span size. -/
theorem doRead_isSome (fetch : List EnvCall → Except Error Bytes) (call : EnvCall)
    (hptr : 0 ≤ ptr.toInt) (hspan : 0 ≤ (E.get_span_size s.vm.env).toInt)
    (hfit : ∀ d, fetch (s.record .get_span_size).vm.env = .ok d →
      d.length ≤ (E.get_span_size s.vm.env).toNat) :
    (doRead E fetch call s ptr).isSome := by
  obtain ⟨h₁, h₂, h₃⟩ := doRead_spec E s ptr fetch call hptr hspan
  cases hm : s.memory with
  | error e => rw [h₁ e hm]; rfl
  | ok m =>
    by_cases hlt : m.size < ptr.toNat + (E.get_span_size s.vm.env).toNat
    · rw [h₂ m hm hlt]; rfl
    · obtain ⟨-, hf, hd⟩ := h₃ m hm (Nat.le_of_not_lt hlt)
      cases hfe : fetch (s.record .get_span_size).vm.env with
      | error e => rw [hf e hfe]; rfl
      | ok d =>
        obtain ⟨-, m', hr, -⟩ := hd d hfe (hfit d hfe)
        rw [hr]; rfl

/-- A `doSend` from a nonnegative pointer with a nonnegative length does
    not panic. -/
theorem doSend_isSome (send : List EnvCall → Bytes → Except Error Unit)
    (call : Bytes → EnvCall) (len : I64) (hptr : 0 ≤ ptr.toInt) (hlen : 0 ≤ len.toInt)
    (hspan : 0 ≤ (E.get_span_size s.vm.env).toInt) :
    (doSend E send call s ptr len).isSome := by
  obtain ⟨h₁, h₂, h₃, h₄⟩ := doSend_spec E s ptr send call len hptr hlen hspan
  by_cases hgt : (E.get_span_size s.vm.env).toNat < len.toNat
  · rw [h₁ hgt]; rfl
  have hle := Nat.le_of_not_lt hgt
  cases hm : s.memory with
  | error e => rw [h₂ hle e hm]; rfl
  | ok m =>
    by_cases hlt : m.size < ptr.toNat + (E.get_span_size s.vm.env).toNat
    · rw [h₃ hle m hm hlt]; rfl
    · obtain ⟨-, -, data, hr, -⟩ := h₄ hle m hm (Nat.le_of_not_lt hlt)
      rw [hr]; rfl

end

/-- Against a host that keeps the contract, a host call with nonnegative
    arguments from a state whose instance is set does not panic. -/
theorem step_some {E : Env} {span_size : I64} (hE : E.Fits span_size) {s : Environment}
    (hs : s.HasInstance) {c : HostCall} (hc : c.NonNeg) : ∃ r s', step E s c = some (r, s') := by
  suffices h : (step E s c).isSome by
    obtain ⟨⟨r, s'⟩, h⟩ := Option.isSome_iff_exists.mp h
    exact ⟨r, s', h⟩
  have hspan : 0 ≤ (E.get_span_size s.vm.env).toInt := by rw [hE.get_span_size]; exact hE.nonneg
  have hfit : ∀ d : Bytes, d.length ≤ span_size.toNat →
      d.length ≤ (E.get_span_size s.vm.env).toNat := by
    intro d hd; rwa [hE.get_span_size]
  cases c with
  | gas x =>
    obtain ⟨g, hg⟩ := hasInstance_iff.mp hs
    obtain ⟨r, s', h, -⟩ := step_gas E hg x
    rw [h]; rfl
  | read_calldata ptr =>
    simpa only [step, doReadCalldata, Option.isSome_map'] using
      doRead_isSome E s ptr E.get_calldata .get_calldata hc hspan
        fun d hd => hfit d (hE.get_calldata _ d hd)
  | read_external_data eid vid ptr =>
    simpa only [step, doReadExternalData, Option.isSome_map'] using
      doRead_isSome E s ptr (fun h => E.get_external_data h eid vid) (.get_external_data eid vid)
        hc hspan fun d hd => hfit d (hE.get_external_data _ eid vid d hd)
  | set_return_data ptr len =>
    simpa only [step, doSetReturnData, Option.isSome_map'] using
      doSend_isSome E s ptr E.set_return_data .set_return_data len hc.1 hc.2 hspan
  | ask_external_data eid did ptr len =>
    simpa only [step, doAskExternalData, Option.isSome_map'] using
      doSend_isSome E s ptr (fun h => E.ask_external_data h eid did)
        (.ask_external_data eid did) len hc.1 hc.2 hspan
  | _ => rfl

/-- Against a host that keeps the contract, a run from a state whose
    instance is set, in which the guest passes only nonnegative pointers
    and lengths, never makes the host panic. -/
theorem run_some {E : Env} {span_size : I64} (hE : E.Fits span_size) :
    ∀ (cs : List HostCall) (s : Environment), s.HasInstance → (∀ c ∈ cs, c.NonNeg) →
      ∃ rs s', run E s cs = some (rs, s')
  | [], s, _, _ => ⟨[], s, rfl⟩
  | c :: cs, s, hs, hc => by
    obtain ⟨r, s₁, h₁⟩ := step_some hE hs (hc c (List.mem_cons_self _ _))
    obtain ⟨rs, s', h₂⟩ := run_some hE cs s₁ ((step_frame h₁).hasInstance.mpr hs)
      fun c' h => hc c' (List.mem_cons_of_mem _ h)
    exact ⟨r :: rs, s', runWith_cons_of_step h₁ h₂⟩

/-- The tests' host keeps the contract with its span size of 300. -/
theorem mockEnv_fits : mockEnv.Fits 300 :=
  ⟨fun _ => rfl, by decide, fun _ d h => by cases h; decide,
    fun _ _ _ d h => by cases h; decide⟩

/-- The spec's first scenario, `read_calldata(0)` then `set_return_data(0, 1)`,
    with a `gas` call between, against the tests' host: no panic. -/
theorem run_some_scenario_one :
    ∃ rs s', run mockEnv testEnvironment
      [.read_calldata 0, .gas 0, .set_return_data 0 1] = some (rs, s') :=
  run_some mockEnv_fits _ testEnvironment rfl (by decide)

/-! ## Section 3: A round trip through guest memory -/

/-- What `read_calldata(ptr)` writes into guest memory, `set_return_data`
    reads back.  Against a host that keeps the contract, from a memory
    that holds the span at a nonnegative `ptr`, the run `read_calldata(ptr)`
    then `set_return_data(ptr, |d|)`, for the calldata `d`, answers
    `Ok(|d|)` and then hands the host exactly `d` and returns its answer;
    the host was asked for the span size, the calldata, the span size and
    `set_return_data(d)`, in that order; and the memory holds `d` at `ptr`
    with every other byte as before. -/
theorem calldata_round_trip {E : Env} {span_size : I64} (hE : E.Fits span_size)
    {s : Environment} {m : Memory} (hm : s.memory = .ok m) {ptr : I64} (hptr : 0 ≤ ptr.toInt)
    (hin : ptr.toNat + span_size.toNat ≤ m.size) {d : Bytes}
    (hd : E.get_calldata (.get_span_size :: s.vm.env) = .ok d) :
    let h₂ : List EnvCall := .get_span_size :: .get_calldata :: .get_span_size :: s.vm.env
    ∃ m' s', run E s [.read_calldata ptr, .set_return_data ptr (BitVec.ofNat 64 d.length)] =
        some ([.ok (some (BitVec.ofNat 64 d.length)), (E.set_return_data h₂ d).map fun _ => none],
          s') ∧
      s'.vm.env = .set_return_data d :: h₂ ∧ s'.memory = .ok m' ∧
      ∀ j, m'.bytes[j]? = Memory.written m.bytes ptr.toNat d j := by
  intro h₂
  have hspan : ∀ h, 0 ≤ (E.get_span_size h).toInt := fun h => hE.get_span_size h ▸ hE.nonneg
  have hspan63 := (toInt_nonneg_iff span_size).mp hE.nonneg
  have hfit : d.length ≤ span_size.toNat := hE.get_calldata _ d hd
  have hlen : (BitVec.ofNat 64 d.length).toNat = d.length := by
    rw [BitVec.toNat_ofNat, Nat.mod_eq_of_lt (by omega)]
  -- `read_calldata(ptr)` copies `d` in at `ptr`
  obtain ⟨-, -, hread⟩ := doRead_spec E s ptr E.get_calldata .get_calldata hptr (hspan _)
  obtain ⟨-, m', hr, hsize, hbytes⟩ :=
    (hread m hm (by rwa [hE.get_span_size])).2.2 d hd (by rwa [hE.get_span_size])
  -- `set_return_data(ptr, |d|)` takes `|d|` bytes from `ptr` of that memory
  let s₁ := ((s.record .get_span_size).record .get_calldata).setMemory m'
  have hm₁ : s₁.memory = .ok m' := memory_setMemory (by simpa only [memory_record]) m'
  obtain ⟨-, -, -, hsend⟩ := doSend_spec E s₁ ptr E.set_return_data .set_return_data
    (BitVec.ofNat 64 d.length) hptr (by rw [toInt_nonneg_iff, hlen]; omega) (hspan _)
  obtain ⟨-, -, data, hs, hdlen, hdata⟩ :=
    hsend (by rwa [hlen, hE.get_span_size]) m' hm₁ (by rwa [hsize, hE.get_span_size])
  -- and those are the bytes of `d`
  have hdata_eq : data = d := List.ext_getElem? fun k => by
    by_cases hk : k < d.length
    · rw [hdata k (by omega), hbytes, Memory.written_add_of_lt _ _ _ hk]
    · rw [List.getElem?_eq_none (by omega), List.getElem?_eq_none (by omega)]
  rw [hdata_eq] at hs
  have hstep₁ : step E s (.read_calldata ptr) =
      some (.ok (some (BitVec.ofNat 64 d.length)), s₁) := by
    simp only [step, doReadCalldata, hr, Option.map_some']; rfl
  have hstep₂ : step E s₁ (.set_return_data ptr (BitVec.ofNat 64 d.length)) =
      some ((E.set_return_data h₂ d).map fun _ => none,
        (s₁.record .get_span_size).record (.set_return_data d)) := by
    simp only [step, doSetReturnData, hs, Option.map_some']; rfl
  exact ⟨m', (s₁.record .get_span_size).record (.set_return_data d),
    runWith_cons_of_step hstep₁ (runWith_cons_of_step hstep₂ rfl), rfl, hm₁, hbytes⟩

/-- The spec's first scenario against the tests' host: `read_calldata(0)`
    answers `Ok(1)`, and `set_return_data(0, 1)` hands the host its
    calldata `[1]`. -/
theorem calldata_round_trip_scenario_one :
    ∃ m' s', run mockEnv testEnvironment [.read_calldata 0, .set_return_data 0 1] =
        some ([.ok (some 1), .ok none], s') ∧
      s'.vm.env = [.set_return_data [1], .get_span_size, .get_calldata, .get_span_size] ∧
      s'.memory = .ok m' ∧ ∀ j, m'.bytes[j]? = Memory.written onePageMemory.bytes 0 [1] j :=
  @calldata_round_trip mockEnv 300 mockEnv_fits testEnvironment onePageMemory rfl 0 (by decide)
    (by rw [onePageMemory_size]; decide) [1] rfl

end Owasm
