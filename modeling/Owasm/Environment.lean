import Owasm.VMLogic
import Owasm.Memory

/-! # `Environment`: the state every import closure shares

    An `Environment` (`vm.rs`) holds the `VMLogic` and a `ContextData`
    whose non-owning back-reference reaches the live instance once the
    runner has set it.  Through that instance the imports reach the
    guest's memory and the metering middleware's remaining points.

    The locks around the two halves are not modelled: the guest runs on
    one thread, so every lock is taken uncontended and an import is one
    step of the state below.
-/

namespace Owasm

/-- `wasmer_middlewares::metering::MeteringPoints`. -/
inductive MeteringPoints
  | Remaining (count : UInt64)
  | Exhausted
  deriving DecidableEq, Repr

/-- The part of a `wasmer::Instance` the imports reach: the memory
    `Environment::memory` finds among its exports (a validated module has
    at most one memory, so every memory export names it), and the
    points the metering middleware reads with `get_remaining_points`. -/
structure Instance where
  memory : Option Memory
  points : MeteringPoints

/-- `ContextData` (`vm.rs`). -/
structure ContextData where
  wasmer_instance : Option Instance

/-- `Environment` (`vm.rs`). -/
structure Environment where
  vm : VMLogic
  data : ContextData

namespace Environment

/-- `Environment::new`: no instance yet. -/
def new (env : List EnvCall) (gas : UInt64) : Environment :=
  { vm := VMLogic.new env gas, data := { wasmer_instance := none } }

/-- `Environment::set_wasmer_instance`. -/
def setWasmerInstance (s : Environment) (inst : Option Instance) : Environment :=
  { s with data := { wasmer_instance := inst } }

/-- A call made on the host's `Env` through `vm.env`, added to its
    history. -/
def record (s : Environment) (c : EnvCall) : Environment :=
  { s with vm := { s.vm with env := c :: s.vm.env } }

/-- `Environment::memory`. -/
def memory (s : Environment) : Except Error Memory :=
  match s.data.wasmer_instance with
  | some inst =>
    match inst.memory with
    | some m => .ok m
    | none => .error .MemoryOutOfBoundError
  | none => .error .BadMemorySectionError

/-- The memory an import wrote through `memory.view()`, as the instance
    now holds it. -/
def setMemory (s : Environment) (m : Memory) : Environment :=
  { s with data := { wasmer_instance :=
      s.data.wasmer_instance.map fun inst => { inst with memory := some m } } }

/-- `Environment::get_gas_left`; `none` is the panic of its `expect` when
    no instance is set. -/
def getGasLeft (s : Environment) : Option UInt64 :=
  s.data.wasmer_instance.map fun inst =>
    match inst.points with
    | .Remaining count => count
    | .Exhausted => 0

/-- `Environment::set_gas_left`: `set_remaining_points` stores the new
    count and clears the exhausted flag.  `none` is the panic of its
    `expect`. -/
def setGasLeft (s : Environment) (new_value : UInt64) : Option Environment :=
  s.data.wasmer_instance.map fun inst =>
    { s with data := { wasmer_instance := some { inst with points := .Remaining new_value } } }

/-- `Environment::decrease_gas_left`. -/
def decreaseGasLeft (s : Environment) (gas_used : UInt32) :
    Option (Except Error Unit × Environment) := do
  let gas_left ← s.getGasLeft
  if gas_used.toUInt64 > gas_left then
    return (.error .OutOfGasError, s)
  else
    let s' ← s.setGasLeft (saturatingSub gas_left gas_used.toUInt64)
    return (.ok (), s')

/-! ## Section 1: What each update leaves alone -/

/-- The instance is set: the runner's promise while the guest runs. -/
def HasInstance (s : Environment) : Prop := s.data.wasmer_instance.isSome

@[simp] theorem record_vm_env (s : Environment) (c : EnvCall) :
    (s.record c).vm.env = c :: s.vm.env := rfl

@[simp] theorem record_data (s : Environment) (c : EnvCall) :
    (s.record c).data = s.data := rfl

@[simp] theorem record_gas_limit (s : Environment) (c : EnvCall) :
    (s.record c).vm.gas_limit = s.vm.gas_limit := rfl

@[simp] theorem record_gas_used (s : Environment) (c : EnvCall) :
    (s.record c).vm.gas_used = s.vm.gas_used := rfl

@[simp] theorem memory_record (s : Environment) (c : EnvCall) :
    (s.record c).memory = s.memory := rfl

@[simp] theorem getGasLeft_record (s : Environment) (c : EnvCall) :
    (s.record c).getGasLeft = s.getGasLeft := rfl

@[simp] theorem hasInstance_record (s : Environment) (c : EnvCall) :
    (s.record c).HasInstance ↔ s.HasInstance := .rfl

@[simp] theorem setMemory_vm (s : Environment) (m : Memory) :
    (s.setMemory m).vm = s.vm := rfl

@[simp] theorem getGasLeft_setMemory (s : Environment) (m : Memory) :
    (s.setMemory m).getGasLeft = s.getGasLeft := by
  simp only [getGasLeft, setMemory, Option.map_map]; rfl

@[simp] theorem hasInstance_setMemory (s : Environment) (m : Memory) :
    (s.setMemory m).HasInstance ↔ s.HasInstance := by
  simp [HasInstance, setMemory]

/-- Once `memory()` has found a memory, storing one back makes it the
    memory `memory()` finds. -/
theorem memory_setMemory {s : Environment} {m : Memory} (h : s.memory = .ok m) (m' : Memory) :
    (s.setMemory m').memory = .ok m' := by
  unfold memory at h ⊢
  cases hi : s.data.wasmer_instance <;> simp_all [setMemory]

theorem hasInstance_iff {s : Environment} :
    s.HasInstance ↔ ∃ g, s.getGasLeft = some g := by
  cases hs : s.data.wasmer_instance <;> simp [HasInstance, getGasLeft, hs]

/-- The state with the instance's points set to `p`, all else kept. -/
def setPoints (s : Environment) (p : MeteringPoints) : Environment :=
  { s with data := { wasmer_instance :=
      s.data.wasmer_instance.map fun inst => { inst with points := p } } }

@[simp] theorem setPoints_vm (s : Environment) (p : MeteringPoints) :
    (s.setPoints p).vm = s.vm := rfl

@[simp] theorem record_setPoints (s : Environment) (c : EnvCall) (p : MeteringPoints) :
    (s.setPoints p).record c = (s.record c).setPoints p := rfl

@[simp] theorem memory_setPoints (s : Environment) (p : MeteringPoints) :
    (s.setPoints p).memory = s.memory := by
  unfold memory setPoints
  cases s.data.wasmer_instance <;> rfl

@[simp] theorem setMemory_setPoints (s : Environment) (m : Memory) (p : MeteringPoints) :
    (s.setPoints p).setMemory m = (s.setMemory m).setPoints p := by
  unfold setMemory setPoints
  cases s.data.wasmer_instance <;> rfl

@[simp] theorem setPoints_setPoints (s : Environment) (p q : MeteringPoints) :
    (s.setPoints p).setPoints q = s.setPoints q := by
  unfold setPoints
  cases s.data.wasmer_instance <;> rfl

@[simp] theorem hasInstance_setPoints (s : Environment) (p : MeteringPoints) :
    (s.setPoints p).HasInstance ↔ s.HasInstance := by
  simp [HasInstance, setPoints]

/-- Every state is itself with some points. -/
theorem exists_setPoints_eq (s : Environment) : ∃ p, s.setPoints p = s := by
  obtain ⟨vm, ⟨_ | ⟨memory, points⟩⟩⟩ := s
  exacts [⟨.Exhausted, rfl⟩, ⟨points, rfl⟩]

/-! ## Section 2: `decrease_gas_left` -/

/-- Whenever it does not panic, `decrease_gas_left` found the instance
    set and changed at most its points. -/
theorem decreaseGasLeft_eq_some {s s' : Environment} {gas_used : UInt32}
    {r : Except Error Unit} (h : s.decreaseGasLeft gas_used = some (r, s')) :
    s.HasInstance ∧ ∃ p, s' = s.setPoints p := by
  obtain ⟨inst, hi⟩ : ∃ inst, s.data.wasmer_instance = some inst := by
    cases hs : s.data.wasmer_instance
    · simp [decreaseGasLeft, getGasLeft, hs] at h
    · exact ⟨_, rfl⟩
  refine ⟨by simp [HasInstance, hi], ?_⟩
  simp only [decreaseGasLeft, getGasLeft, setGasLeft, hi, Option.map_some', Option.bind_eq_bind,
    Option.some_bind, Option.pure_def] at h
  split_ifs at h
  · cases h
    obtain ⟨p, hp⟩ := exists_setPoints_eq s
    exact ⟨p, hp.symm⟩
  · cases h
    exact ⟨_, by simp only [setPoints, hi, Option.map_some']; rfl⟩

/-- Below the amount asked for, `decrease_gas_left` fails and changes
    nothing. -/
theorem decreaseGasLeft_of_lt {s : Environment} {gas_left : UInt64} (gas_used : UInt32)
    (h : s.getGasLeft = some gas_left) (hlt : gas_left.toNat < gas_used.toNat) :
    s.decreaseGasLeft gas_used = some (.error .OutOfGasError, s) := by
  have : gas_left < gas_used.toUInt64 := UInt64.lt_iff_toNat_lt.mpr hlt
  simp [decreaseGasLeft, h, this]

/-- Otherwise it takes exactly the amount asked for off the points, and
    touches nothing else: the memory, the `VMLogic` and the instance stay. -/
theorem decreaseGasLeft_of_le {s : Environment} {gas_left : UInt64} (gas_used : UInt32)
    (h : s.getGasLeft = some gas_left) (hle : gas_used.toNat ≤ gas_left.toNat) :
    ∃ s', s.decreaseGasLeft gas_used = some (.ok (), s') ∧
      s'.getGasLeft = some (saturatingSub gas_left gas_used.toUInt64) ∧
      s'.memory = s.memory ∧ s'.vm = s.vm ∧ s'.HasInstance := by
  have hnlt : ¬ gas_left < gas_used.toUInt64 := by
    rw [UInt64.lt_iff_toNat_lt]; simpa using hle
  obtain ⟨inst, hi⟩ : ∃ inst, s.data.wasmer_instance = some inst := by
    cases hs : s.data.wasmer_instance <;> simp_all [getGasLeft]
  let inst' : Instance :=
    { inst with points := .Remaining (saturatingSub gas_left gas_used.toUInt64) }
  refine ⟨{ s with data := { wasmer_instance := some inst' } }, ?_, rfl, ?_, rfl, rfl⟩
  · simp [decreaseGasLeft, h, hnlt, setGasLeft, hi]
  · simp [memory, hi]

end Environment

end Owasm
