import Owasm.Imports

/-! # The import table, ideally

    What the twelve imports are for, as the guest and the host see them,
    without the machinery of `vm.rs`: no instance pointer, no locks, no
    `VMLogic` counters, no machine words.  The state is the host's log,
    the guest memory as a list of bytes, and the metering points as a
    number.

    * `gas` takes 12,500,000 points when there are that many.
    * A query answers from the host and adds the query to its log.
    * A reading import refuses a span `[ptr, ptr + span_size)` that does
      not lie in the memory, comparing exact integers, and otherwise
      splices the host's data into the memory at `ptr`.
    * A sending import refuses `len > span_size`, then a span that does
      not lie in the memory, and otherwise hands the host the `len` bytes
      at `ptr`.

    No step panics.  `Owasm.Refinement` shows that the code, against a
    host that keeps the contract and a guest that passes nonnegative
    pointers and lengths, runs as this machine does.
-/

namespace Owasm.Ideal

/-- The import table's state as the guest and the host see it. -/
structure State where
  /-- The calls made on the host's `Env`, newest first. -/
  log : List EnvCall
  /-- The guest memory, when the instance exports one. -/
  memory : Option Bytes
  /-- The metering points left. -/
  points : Nat

/-- A call made on the host, added to its log. -/
def State.record (a : State) (c : EnvCall) : State :=
  { a with log := c :: a.log }

/-- `data` written over `mem` from position `p`. -/
def splice (mem : Bytes) (p : Nat) (data : Bytes) : Bytes :=
  mem.take p ++ data ++ mem.drop (p + data.length)

/-- `gas`: 12,500,000 points, when there are that many. -/
def gas (a : State) : Reply × State :=
  if a.points < 12500000 then (.error .OutOfGasError, a)
  else (.ok none, { a with points := a.points - 12500000 })

/-- A query: the host's answer, and the query in its log. -/
def query (answer : List EnvCall → Except Error I64) (call : EnvCall) (a : State) :
    Reply × State :=
  ((answer a.log).map some, a.record call)

/-- A reading import from `ptr`: the data the host hands over (`fetch`,
    logged as `call`) spliced into memory at `ptr`, once the span is known
    to lie in the memory. -/
def read (E : Env) (fetch : List EnvCall → Except Error Bytes) (call : EnvCall) (a : State)
    (ptr : I64) : Reply × State :=
  let span_size := E.get_span_size a.log
  let a₁ := a.record .get_span_size
  match a.memory with
  | none => (.error .MemoryOutOfBoundError, a₁)
  | some mem =>
    if ptr.toInt < 0 ∨ (mem.length : Int) < ptr.toInt + span_size.toInt then
      (.error .MemoryOutOfBoundError, a₁)
    else
      match fetch a₁.log with
      | .error e => (.error e, a₁.record call)
      | .ok data =>
        (.ok (some (BitVec.ofNat 64 data.length)),
          { a₁.record call with memory := some (splice mem ptr.toNat data) })

/-- A sending import of `len` bytes from `ptr`: those bytes handed to the
    host (`send`, logged as `call`), once `len` is within the span size and
    the span is known to lie in the memory. -/
def send (E : Env) (send : List EnvCall → Bytes → Except Error Unit) (call : Bytes → EnvCall)
    (a : State) (ptr len : I64) : Reply × State :=
  let span_size := E.get_span_size a.log
  let a₁ := a.record .get_span_size
  if span_size.toInt < len.toInt then (.error .SpanTooSmallError, a₁)
  else
    match a.memory with
    | none => (.error .MemoryOutOfBoundError, a₁)
    | some mem =>
      if ptr.toInt < 0 ∨ len.toInt < 0 ∨ (mem.length : Int) < ptr.toInt + span_size.toInt then
        (.error .MemoryOutOfBoundError, a₁)
      else
        let data := (mem.drop ptr.toNat).take len.toNat
        ((send a₁.log data).map fun _ => none, a₁.record (call data))

/-- One host call of the ideal table. -/
def step (E : Env) (a : State) : HostCall → Reply × State
  | .gas _ => gas a
  | .get_span_size => query (fun h => .ok (E.get_span_size h)) .get_span_size a
  | .read_calldata ptr => read E E.get_calldata .get_calldata a ptr
  | .set_return_data ptr len => send E E.set_return_data .set_return_data a ptr len
  | .get_ask_count => query (fun h => .ok (E.get_ask_count h)) .get_ask_count a
  | .get_min_count => query (fun h => .ok (E.get_min_count h)) .get_min_count a
  | .get_prepare_time => query (fun h => .ok (E.get_prepare_time h)) .get_prepare_time a
  | .get_execute_time => query E.get_execute_time .get_execute_time a
  | .get_ans_count => query E.get_ans_count .get_ans_count a
  | .ask_external_data eid did ptr len =>
    send E (fun h => E.ask_external_data h eid did) (.ask_external_data eid did) a ptr len
  | .get_external_data_status eid vid =>
    query (fun h => E.get_external_data_status h eid vid) (.get_external_data_status eid vid) a
  | .read_external_data eid vid ptr =>
    read E (fun h => E.get_external_data h eid vid) (.get_external_data eid vid) a ptr

/-- A run of the ideal table: the replies, and the state after the last
    call. -/
def run (E : Env) (a : State) : List HostCall → List Reply × State
  | [] => ([], a)
  | c :: cs =>
    let p := step E a c
    let q := run E p.2 cs
    (p.1 :: q.1, q.2)

@[simp] theorem record_log (a : State) (c : EnvCall) : (a.record c).log = c :: a.log := rfl

@[simp] theorem record_memory (a : State) (c : EnvCall) : (a.record c).memory = a.memory := rfl

@[simp] theorem record_points (a : State) (c : EnvCall) : (a.record c).points = a.points := rfl

/-- Inside the memory, a splice is the write of `Memory.written`. -/
theorem splice_getElem? (mem : Bytes) (p : Nat) (data : Bytes) (j : Nat)
    (h : p + data.length ≤ mem.length) :
    (splice mem p data)[j]? = Memory.written mem p data j := by
  have htake : (mem.take p).length = p := by rw [List.length_take]; omega
  unfold splice Memory.written
  split_ifs with hj
  · rw [List.getElem?_append_left (by rw [List.length_append, htake]; omega),
      List.getElem?_append_right (by omega), htake]
  · by_cases hlt : j < p
    · rw [List.getElem?_append_left (by rw [List.length_append, htake]; omega),
        List.getElem?_append_left (by omega), List.getElem?_take_of_lt hlt]
    · rw [List.getElem?_append_right (by rw [List.length_append, htake]; omega),
        List.length_append, htake, List.getElem?_drop]
      congr 1
      omega

end Owasm.Ideal
