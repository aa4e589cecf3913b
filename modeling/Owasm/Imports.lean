import Owasm.Environment

/-! # The import table

    The twelve host functions `create_import_object` (`imports.rs`) binds
    under the module name `"env"`, each a step of the `Environment`.  They
    come in four shapes:

    * `do_gas` pays a fixed quantum of metering points, whatever its
      argument says;
    * seven imports forward one query to the host's `Env` (`doQuery`);
    * `do_read_calldata` and `do_read_external_data` copy the host's bytes
      into guest memory at `ptr` (`doRead`);
    * `do_set_return_data` and `do_ask_external_data` copy `len` bytes at
      `ptr` out of guest memory to the host (`doSend`).

    A call returns `none` when the host panics (a failed `expect`, an
    index or a slice out of range), and otherwise the guest's reply with
    the state after it.  An error reply is still a state: the guest traps
    on it, but what the call did before it failed stays done.
-/

namespace Owasm

open Environment

/-! ## Section 1: The imports -/

/-- `do_gas`: the argument is ignored; every call pays 12,500,000 points. -/
def doGas (s : Environment) (_gas : UInt32) : Option (Except Error Unit × Environment) :=
  s.decreaseGasLeft 12500000

/-- The body of the imports that forward one query to the host,
    `env.with_vm(|vm| vm.env.m(..))`: the host's answer to the history so
    far, with the call added to it. -/
def doQuery {α : Type} (answer : List EnvCall → α) (call : EnvCall) (s : Environment) :
    α × Environment :=
  (answer s.vm.env, s.record call)

/-- `do_get_span_size`. -/
def doGetSpanSize (E : Env) (s : Environment) : I64 × Environment :=
  doQuery E.get_span_size .get_span_size s

/-- `do_get_ask_count`. -/
def doGetAskCount (E : Env) (s : Environment) : I64 × Environment :=
  doQuery E.get_ask_count .get_ask_count s

/-- `do_get_min_count`. -/
def doGetMinCount (E : Env) (s : Environment) : I64 × Environment :=
  doQuery E.get_min_count .get_min_count s

/-- `do_get_prepare_time`. -/
def doGetPrepareTime (E : Env) (s : Environment) : I64 × Environment :=
  doQuery E.get_prepare_time .get_prepare_time s

/-- `do_get_execute_time`. -/
def doGetExecuteTime (E : Env) (s : Environment) : Except Error I64 × Environment :=
  doQuery E.get_execute_time .get_execute_time s

/-- `do_get_ans_count`. -/
def doGetAnsCount (E : Env) (s : Environment) : Except Error I64 × Environment :=
  doQuery E.get_ans_count .get_ans_count s

/-- `do_get_external_data_status`. -/
def doGetExternalDataStatus (E : Env) (s : Environment) (eid vid : I64) :
    Except Error I64 × Environment :=
  doQuery (fun h => E.get_external_data_status h eid vid) (.get_external_data_status eid vid) s

/-- The body of `do_read_calldata` and `do_read_external_data`: read the
    span size, find the memory, check `ptr + span_size` against its size,
    ask the host (`fetch`, recorded as `call`) for the data, and copy it in
    at `ptr`.  The reply is the number of bytes copied. -/
def doRead (E : Env) (fetch : List EnvCall → Except Error Bytes) (call : EnvCall)
    (s : Environment) (ptr : I64) : Option (Except Error I64 × Environment) :=
  let span_size := E.get_span_size s.vm.env
  let s := s.record .get_span_size
  match s.memory with
  | .error e => some (.error e, s)
  | .ok memory =>
    match requireMemRange memory.size (ptr + span_size).toNat with
    | .error e => some (.error e, s)
    | .ok () =>
      match fetch s.vm.env with
      | .error e => some (.error e, s.record call)
      | .ok data =>
        (memory.writeBytes ptr 0 data).map fun memory' =>
          (.ok (BitVec.ofNat 64 data.length), (s.record call).setMemory memory')

/-- `do_read_calldata`. -/
def doReadCalldata (E : Env) (s : Environment) (ptr : I64) :
    Option (Except Error I64 × Environment) :=
  doRead E E.get_calldata .get_calldata s ptr

/-- `do_read_external_data`. -/
def doReadExternalData (E : Env) (s : Environment) (eid vid ptr : I64) :
    Option (Except Error I64 × Environment) :=
  doRead E (fun h => E.get_external_data h eid vid) (.get_external_data eid vid) s ptr

/-- The body of `do_set_return_data` and `do_ask_external_data`: read the
    span size, refuse `len > span_size`, find the memory, check
    `ptr + span_size` against its size, and hand the slice
    `ptr as usize..(ptr + len) as usize` to the host (`send`, recorded as
    `call`).  The reply is the host's. -/
def doSend (E : Env) (send : List EnvCall → Bytes → Except Error Unit) (call : Bytes → EnvCall)
    (s : Environment) (ptr len : I64) : Option (Except Error Unit × Environment) :=
  let span_size := E.get_span_size s.vm.env
  let s := s.record .get_span_size
  if span_size.slt len then some (.error .SpanTooSmallError, s)
  else
    match s.memory with
    | .error e => some (.error e, s)
    | .ok memory =>
      match requireMemRange memory.size (ptr + span_size).toNat with
      | .error e => some (.error e, s)
      | .ok () =>
        (memory.readSlice ptr.toNat (ptr + len).toNat).map fun data =>
          (send s.vm.env data, s.record (call data))

/-- `do_set_return_data`. -/
def doSetReturnData (E : Env) (s : Environment) (ptr len : I64) :
    Option (Except Error Unit × Environment) :=
  doSend E E.set_return_data .set_return_data s ptr len

/-- `do_ask_external_data`. -/
def doAskExternalData (E : Env) (s : Environment) (eid did ptr len : I64) :
    Option (Except Error Unit × Environment) :=
  doSend E (fun h => E.ask_external_data h eid did) (.ask_external_data eid did) s ptr len

/-! ## Section 2: Host calls as steps -/

/-- A call the guest makes through the `"env"` import table, with its
    arguments. -/
inductive HostCall
  | gas (gas : UInt32)
  | get_span_size
  | read_calldata (ptr : I64)
  | set_return_data (ptr len : I64)
  | get_ask_count
  | get_min_count
  | get_prepare_time
  | get_execute_time
  | get_ans_count
  | ask_external_data (eid did ptr len : I64)
  | get_external_data_status (eid vid : I64)
  | read_external_data (eid vid ptr : I64)
  deriving DecidableEq, Repr

/-- What a host call hands back to the guest: its wasm results (none, or
    one `i64`), or the error that traps it. -/
abbrev Reply := Except Error (Option I64)

/-- A reply with no wasm result. -/
def unitReply (p : Except Error Unit × Environment) : Reply × Environment :=
  (p.1.map fun _ => none, p.2)

/-- A reply with one `i64` result, or an error. -/
def valueReply (p : Except Error I64 × Environment) : Reply × Environment :=
  (p.1.map some, p.2)

/-- A reply with one `i64` result that cannot fail. -/
def pureReply (p : I64 × Environment) : Reply × Environment :=
  (.ok (some p.1), p.2)

/-- One host call: the reply and the state after it, or `none` for a host
    panic. -/
def step (E : Env) (s : Environment) : HostCall → Option (Reply × Environment)
  | .gas g => (doGas s g).map unitReply
  | .get_span_size => some (pureReply (doGetSpanSize E s))
  | .read_calldata ptr => (doReadCalldata E s ptr).map valueReply
  | .set_return_data ptr len => (doSetReturnData E s ptr len).map unitReply
  | .get_ask_count => some (pureReply (doGetAskCount E s))
  | .get_min_count => some (pureReply (doGetMinCount E s))
  | .get_prepare_time => some (pureReply (doGetPrepareTime E s))
  | .get_execute_time => some (valueReply (doGetExecuteTime E s))
  | .get_ans_count => some (valueReply (doGetAnsCount E s))
  | .ask_external_data eid did ptr len =>
    (doAskExternalData E s eid did ptr len).map unitReply
  | .get_external_data_status eid vid => some (valueReply (doGetExternalDataStatus E s eid vid))
  | .read_external_data eid vid ptr => (doReadExternalData E s eid vid ptr).map valueReply

/-- A run of host calls from `s`, made one after another by `step`: the
    replies, and the state after the last call; `none` if a call panics,
    since the host does not come back from a panic.  The run goes on after
    an error reply, although a guest traps at the first: a guest's own
    runs are the prefixes that stop there. -/
def runWith (step : Environment → HostCall → Option (Reply × Environment)) (s : Environment) :
    List HostCall → Option (List Reply × Environment)
  | [] => some ([], s)
  | c :: cs => do
    let (r, s₁) ← step s c
    let (rs, s₂) ← runWith step s₁ cs
    return (r :: rs, s₂)

/-- A run of host calls against the host `E`. -/
abbrev run (E : Env) : Environment → List HostCall → Option (List Reply × Environment) :=
  runWith (step E)

section
variable {f : Environment → HostCall → Option (Reply × Environment)}

@[simp] theorem runWith_nil (s : Environment) : runWith f s [] = some ([], s) := rfl

theorem runWith_cons_eq_some {s s₂ : Environment} {c : HostCall} {cs : List HostCall}
    {rs : List Reply} (h : runWith f s (c :: cs) = some (rs, s₂)) :
    ∃ r s₁ rs', f s c = some (r, s₁) ∧ runWith f s₁ cs = some (rs', s₂) ∧ rs = r :: rs' := by
  simp only [runWith, Option.bind_eq_bind, Option.bind_eq_some, Option.some.injEq,
    Prod.mk.injEq] at h
  obtain ⟨⟨r, s₁⟩, h₁, ⟨rs', _⟩, h₂, rfl, rfl⟩ := h
  exact ⟨r, s₁, rs', h₁, h₂, rfl⟩

theorem runWith_cons_of_step {s s₁ s₂ : Environment} {c : HostCall} {cs : List HostCall}
    {r : Reply} {rs : List Reply} (h₁ : f s c = some (r, s₁))
    (h₂ : runWith f s₁ cs = some (rs, s₂)) : runWith f s (c :: cs) = some (r :: rs, s₂) := by
  simp only [runWith, h₁, h₂, Option.bind_eq_bind, Option.some_bind]
  rfl

end

/-! ## Section 3: What each shape of import can do to the state -/

/-- The host call is the `gas` import. -/
def HostCall.isGas : HostCall → Bool
  | .gas _ => true
  | _ => false

theorem HostCall.isGas_iff {c : HostCall} : c.isGas = true ↔ ∃ x, c = .gas x := by
  cases c <;> simp [HostCall.isGas]

/-- The positions a reading import from `ptr` accounts for in its reply:
    `Ok(n)` is `[ptr, ptr + n)`; an error accounts for none. -/
def readSpan (ptr : I64) : Reply → Nat → Prop
  | .ok (some n), j => ptr.toNat ≤ j ∧ j < ptr.toNat + n.toNat
  | _, _ => False

instance readSpan.decide (ptr : I64) : (r : Reply) → (j : Nat) → Decidable (readSpan ptr r j)
  | .ok (some n), j => inferInstanceAs (Decidable (ptr.toNat ≤ j ∧ j < ptr.toNat + n.toNat))
  | .ok none, _ => isFalse id
  | .error _, _ => isFalse id

/-- The guest-memory positions a host call accounts for in its reply: a
    reading import's span; no other import writes. -/
def HostCall.Writes : HostCall → Reply → Nat → Prop
  | .read_calldata ptr => readSpan ptr
  | .read_external_data _ _ ptr => readSpan ptr
  | _ => fun _ _ => False

instance HostCall.decWrites :
    (c : HostCall) → (r : Reply) → (j : Nat) → Decidable (c.Writes r j)
  | .read_calldata ptr, r, j => readSpan.decide ptr r j
  | .read_external_data _ _ ptr, r, j => readSpan.decide ptr r j
  | .gas _, _, _ | .get_span_size, _, _ | .set_return_data _ _, _, _ | .get_ask_count, _, _
  | .get_min_count, _, _ | .get_prepare_time, _, _ | .get_execute_time, _, _
  | .get_ans_count, _, _ | .ask_external_data _ _ _ _, _, _
  | .get_external_data_status _ _, _, _ => isFalse id


/-- A `doRead` leaves the state after the span-size query, after the data
    query too, or after both with a memory of the same size stored back. -/
theorem doRead_cases {E : Env} {fetch : List EnvCall → Except Error Bytes} {call : EnvCall}
    {s s' : Environment} {ptr : I64} {r : Except Error I64}
    (h : doRead E fetch call s ptr = some (r, s')) :
    s' = s.record .get_span_size ∨ s' = (s.record .get_span_size).record call ∨
      ∃ m m', s.memory = .ok m ∧ m'.size = m.size ∧
        s' = ((s.record .get_span_size).record call).setMemory m' := by
  unfold doRead at h; dsimp only at h
  split at h
  · cases h; exact .inl rfl
  · rename_i m hm
    split at h
    · cases h; exact .inl rfl
    · split at h
      · cases h; exact .inr (.inl rfl)
      · obtain ⟨m', hw, hm'⟩ := Option.map_eq_some'.mp h
        cases hm'
        exact .inr (.inr ⟨m, m', hm, Memory.writeBytes_size hw, rfl⟩)

/-- A `doSend` leaves the state after the span-size query, or after it
    and the call that hands some bytes to the host. -/
theorem doSend_cases {E : Env} {send : List EnvCall → Bytes → Except Error Unit}
    {call : Bytes → EnvCall} {s s' : Environment} {ptr len : I64} {r : Except Error Unit}
    (h : doSend E send call s ptr len = some (r, s')) :
    s' = s.record .get_span_size ∨
      ∃ data, s' = (s.record .get_span_size).record (call data) := by
  unfold doSend at h; dsimp only at h
  split at h
  · cases h; exact .inl rfl
  · split at h
    · cases h; exact .inl rfl
    · split at h
      · cases h; exact .inl rfl
      · obtain ⟨data, -, hd⟩ := Option.map_eq_some'.mp h
        cases hd; exact .inr ⟨data, rfl⟩

/-- Every host call that does not panic ran the body of its shape
    (Section 1): a query records one call that hands the host nothing;
    `gas` runs `doGas`; a reading import runs `doRead` with a call that
    hands the host nothing, and accounts for the span its reply gives; a
    sending import runs `doSend` with a call that hands the host its
    bytes.  Only the reading imports write, and only `gas` is `gas`. -/
theorem step_cases {E : Env} {s s' : Environment} {c : HostCall} {r : Reply}
    (h : step E s c = some (r, s')) :
    (c.isGas = false ∧ (∀ j, ¬ c.Writes r j) ∧
      ∃ call, s' = s.record call ∧ call.sent = none) ∨
    (∃ x r₀, c = .gas x ∧ doGas s x = some (r₀, s')) ∨
    (c.isGas = false ∧ ∃ fetch call ptr r₀, doRead E fetch call s ptr = some (r₀, s') ∧
      call.sent = none ∧ c.Writes r = readSpan ptr (r₀.map some)) ∨
    (c.isGas = false ∧ (∀ j, ¬ c.Writes r j) ∧ ∃ send call ptr len r₀,
      doSend E send call s ptr len = some (r₀, s') ∧ ∀ d, (call d).sent = some d) := by
  cases c <;>
    simp only [step, Option.map_eq_some', Option.some.injEq, pureReply, valueReply, unitReply,
      Prod.mk.injEq, Prod.exists] at h
  case gas x =>
    obtain ⟨_, _, h, -, rfl⟩ := h
    exact .inr (.inl ⟨x, _, rfl, h⟩)
  case read_calldata | read_external_data =>
    obtain ⟨_, _, h, rfl, rfl⟩ := h
    exact .inr (.inr (.inl ⟨rfl, _, _, _, _, h, rfl, rfl⟩))
  case set_return_data | ask_external_data =>
    obtain ⟨_, _, h, -, rfl⟩ := h
    exact .inr (.inr (.inr ⟨rfl, fun _ h => h, _, _, _, _, _, h, fun _ => rfl⟩))
  all_goals
    obtain ⟨-, rfl⟩ := h
    exact .inl ⟨rfl, fun _ h => h, _, rfl, rfl⟩

/-! ## Section 4: The tests' host -/

/-- `MockEnv` of the tests in `imports.rs`: a host whose answers never
    change. -/
def mockEnv : Env where
  get_span_size _ := 300
  get_calldata _ := .ok [1]
  set_return_data _ _ := .ok ()
  get_ask_count _ := 10
  get_min_count _ := 8
  get_prepare_time _ := 100000
  get_execute_time _ := .ok 100000
  get_ans_count _ := .ok 8
  ask_external_data _ _ _ _ := .ok ()
  get_external_data_status _ _ _ := .ok 1
  get_external_data _ _ _ := .ok [1]

/-- A zeroed memory of one 64 KiB page. -/
def onePageMemory : Memory :=
  ⟨List.replicate 65536 0, by rw [List.length_replicate]; decide⟩

theorem onePageMemory_size : onePageMemory.size = 65536 :=
  List.length_replicate _ _

/-- The tests' state once the runner has set the instance and its gas,
    with one page of memory where the tests' module declares 100. -/
def testEnvironment : Environment :=
  (Environment.new [] 0).setWasmerInstance (some ⟨some onePageMemory, .Remaining 2500000000000⟩)

end Owasm
