import Mathlib

/-! # Owasm: machine words, errors and the host's `Env`

    The data every part of the model of the Owasm VM (`packages/vm`)
    shares: Rust's fixed-width integers, the error taxonomy, and the `Env`
    capability through which the engine talks to its host.

    An `i64` or a `usize` is a 64-bit word (`BitVec 64`), and `as usize`
    keeps the bits.  What `+` does depends on the build, which nothing in
    the repository fixes: without overflow checks (cargo's release
    profile) it wraps, with them (its dev and test profiles) it panics.
    The imports are modelled as the release build runs them;
    `Owasm.Checked` runs them as the other build does and shows where the
    two differ.  Indexing and slicing are bounds-checked in every build; a
    failed check is a host panic, which the imports return as `none`.

    The host is modelled by what it answers.  Each `Env` method receives
    the calls made on the `Env` before it (newest first) with its own
    arguments, so a host whose answers change over a request is an `Env`
    like any other.
-/

namespace Owasm

/-! ## Section 1: Machine integers -/

/-- Rust's `i64` (and `usize` on a 64-bit host): a 64-bit word, read as a
    signed value by `toInt` and as an unsigned one by `toNat`. -/
abbrev I64 := BitVec 64

/-- `u64::MAX`. -/
def u64Max : Nat := 2 ^ 64 - 1

/-- `u64::saturating_add`. -/
def saturatingAdd (a b : UInt64) : UInt64 :=
  UInt64.ofNat (min (a.toNat + b.toNat) u64Max)

/-- `u64::saturating_sub`. -/
def saturatingSub (a b : UInt64) : UInt64 :=
  UInt64.ofNat (a.toNat - b.toNat)

theorem UInt64.lt_iff_toNat_lt {a b : UInt64} : a < b ↔ a.toNat < b.toNat := .rfl

theorem UInt64.le_iff_toNat_le {a b : UInt64} : a ≤ b ↔ a.toNat ≤ b.toNat := .rfl

theorem UInt64.eq_iff_toNat_eq {a b : UInt64} : a = b ↔ a.toNat = b.toNat :=
  ⟨congrArg _, fun h => UInt64.eq_of_toBitVec_eq (BitVec.eq_of_toNat_eq h)⟩

@[simp] theorem UInt64.toNat_ofNat_of_le_max {n : Nat} (h : n ≤ u64Max) :
    (UInt64.ofNat n).toNat = n :=
  UInt64.toNat_ofNat_of_lt (by unfold u64Max at h; unfold UInt64.size; omega)

theorem UInt64.toNat_le_max (a : UInt64) : a.toNat ≤ u64Max := by
  have := a.toNat_lt_size; unfold u64Max; unfold UInt64.size at this; omega

@[simp] theorem UInt32.toNat_toUInt64 (a : UInt32) : a.toUInt64.toNat = a.toNat := rfl

@[simp] theorem toNat_saturatingAdd (a b : UInt64) :
    (saturatingAdd a b).toNat = min (a.toNat + b.toNat) u64Max :=
  UInt64.toNat_ofNat_of_le_max (Nat.min_le_right _ _)

@[simp] theorem toNat_saturatingSub (a b : UInt64) :
    (saturatingSub a b).toNat = a.toNat - b.toNat :=
  UInt64.toNat_ofNat_of_le_max (Nat.le_trans (Nat.sub_le _ _) (UInt64.toNat_le_max a))

/-- A word is a nonnegative `i64` exactly when its top bit is clear. -/
theorem toInt_nonneg_iff (x : I64) : 0 ≤ x.toInt ↔ x.toNat < 2 ^ 63 := by
  rw [BitVec.toInt_eq_toNat_cond]
  have := x.isLt
  split <;> omega

/-- On nonnegative words the signed order is the unsigned one. -/
theorem slt_iff_of_nonneg {x y : I64} (hx : 0 ≤ x.toInt) (hy : 0 ≤ y.toInt) :
    x.slt y ↔ x.toNat < y.toNat := by
  rw [toInt_nonneg_iff] at hx hy
  simp only [BitVec.slt, BitVec.toInt_eq_toNat_cond, decide_eq_true_eq]
  rw [if_pos (by omega), if_pos (by omega)]
  omega

/-! ## Section 2: Errors -/

/-- Modelled from the spec: `crate::error::Error` (§4.1), whose declaration
    is not under src/.  The kinds of failure the engine and the host
    exchange. -/
inductive Error
  | CompileError
  | InstantiationError
  | RunError
  | OutOfGasError
  | MemoryOutOfBoundError
  | BadMemorySectionError
  | SpanTooSmallError
  | UnavailableData
  | WrongPeriodAction
  deriving DecidableEq, Repr

/-! ## Section 3: The host's `Env` -/

/-- A byte buffer (`Vec<u8>`, `&[u8]`). -/
abbrev Bytes := List UInt8

/-- One call the engine makes on the host's `Env`, with its arguments. -/
inductive EnvCall
  | get_span_size
  | get_calldata
  | set_return_data (data : Bytes)
  | get_ask_count
  | get_min_count
  | get_prepare_time
  | get_execute_time
  | get_ans_count
  | ask_external_data (eid did : I64) (data : Bytes)
  | get_external_data_status (eid vid : I64)
  | get_external_data (eid vid : I64)
  deriving DecidableEq, Repr

/-- The bytes a logged call handed to the host: those of the two
    sending imports. -/
def EnvCall.sent : EnvCall → Option Bytes
  | .set_return_data data => some data
  | .ask_external_data _ _ data => some data
  | _ => none

/-- The `Env` trait (`vm.rs`): what the host answers to each method, given
    the calls made on it before (newest first) and the method's arguments. -/
structure Env where
  get_span_size : List EnvCall → I64
  get_calldata : List EnvCall → Except Error Bytes
  set_return_data : List EnvCall → Bytes → Except Error Unit
  get_ask_count : List EnvCall → I64
  get_min_count : List EnvCall → I64
  get_prepare_time : List EnvCall → I64
  get_execute_time : List EnvCall → Except Error I64
  get_ans_count : List EnvCall → Except Error I64
  ask_external_data : List EnvCall → I64 → I64 → Bytes → Except Error Unit
  get_external_data_status : List EnvCall → I64 → I64 → Except Error I64
  get_external_data : List EnvCall → I64 → I64 → Except Error Bytes

end Owasm
