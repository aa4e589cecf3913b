import Owasm.Basic

/-! # Guest linear memory

    The guest's exported memory as the imports see it through
    `memory.view()`: a run of bytes whose length is `memory.size().bytes()`.
    The imports touch it in two ways.  The reading imports copy the host's
    bytes in one at a time (`view()[ptr as usize + idx].set(byte)`), and
    the sending imports copy a slice out (`view()[start..end]`).  Both
    index with Rust's checked indexing, so an index past the end is a
    panic, not an error.

    A 32-bit wasm memory holds at most 65536 pages of 64 KiB, so its size
    is at most `2^32` bytes; `Memory` carries that bound.  Page
    granularity is not kept: every size up to the bound is allowed.
-/

namespace Owasm

/-- A guest's linear memory: its bytes, no more than the `2^32` a 32-bit
    wasm memory can hold. -/
structure Memory where
  bytes : Bytes
  size_le : bytes.length ≤ 2 ^ 32

namespace Memory

/-- `memory.size().bytes().0`. -/
def size (m : Memory) : Nat := m.bytes.length

/-- `memory.view()[i].set(byte)`, for an `i` in range. -/
def set (m : Memory) (i : Nat) (byte : UInt8) : Memory :=
  ⟨m.bytes.set i byte, by simpa using m.size_le⟩

@[simp] theorem bytes_set (m : Memory) (i : Nat) (byte : UInt8) :
    (m.set i byte).bytes = m.bytes.set i byte := rfl

@[simp] theorem size_set (m : Memory) (i : Nat) (byte : UInt8) :
    (m.set i byte).size = m.size := by
  simp [size]

theorem size_lt (m : Memory) : m.size < 2 ^ 63 :=
  Nat.lt_of_le_of_lt m.size_le (by decide)

/-! ## Section 1: The copy loop of the reading imports -/

/-- The loop of `do_read_calldata` and `do_read_external_data`:
    `for (idx, byte) in data.iter().enumerate() { memory.view()[ptr as usize + idx].set(*byte) }`,
    from the position `idx` reached in `data`.  `none` is the panic of an
    index past the end of the memory. -/
def writeBytes (ptr : I64) : Memory → Nat → Bytes → Option Memory
  | m, _, [] => some m
  | m, idx, byte :: rest =>
    let i := (ptr.toNat + idx) % 2 ^ 64
    if i < m.size then writeBytes ptr (m.set i byte) (idx + 1) rest else none

/-- The byte at position `j` once `data` is written from position `p`:
    `data`'s own byte inside `[p, p + data.length)`, the old one outside. -/
def written (bytes : Bytes) (p : Nat) (data : Bytes) (j : Nat) : Option UInt8 :=
  if p ≤ j ∧ j < p + data.length then data[j - p]? else bytes[j]?

/-- Writing one byte at `p`, then `rest` after it, is writing `byte :: rest`
    at `p`. -/
theorem written_set (bytes : Bytes) (p : Nat) (byte : UInt8) (rest : Bytes) (j : Nat)
    (hp : p < bytes.length) :
    written (bytes.set p byte) (p + 1) rest j = written bytes p (byte :: rest) j := by
  simp only [written, List.length_cons, List.getElem?_set]
  by_cases hj : j = p
  · subst hj; simp [hp]
  · rw [if_neg (Ne.symm hj)]
    by_cases hin : p + 1 ≤ j ∧ j < p + 1 + rest.length
    · rw [if_pos hin, if_pos (by omega), show j - p = j - (p + 1) + 1 by omega,
        List.getElem?_cons_succ]
    · rw [if_neg hin, if_neg (by omega)]

/-- Inside the written range, the byte at `p + k` is `data`'s `k`-th. -/
theorem written_add_of_lt (bytes : Bytes) (p : Nat) (data : Bytes) {k : Nat}
    (hk : k < data.length) : written bytes p data (p + k) = data[k]? := by
  rw [written, if_pos ⟨Nat.le_add_right p k, by omega⟩, Nat.add_sub_cancel_left]

/-- When every index the loop reaches is inside the memory, the loop
    writes `data` at `ptr + idx` and leaves every other byte alone. -/
theorem writeBytes_spec (ptr : I64) (m : Memory) (idx : Nat) (data : Bytes)
    (h : ptr.toNat + idx + data.length ≤ m.size) :
    ∃ m', writeBytes ptr m idx data = some m' ∧ m'.size = m.size ∧
      ∀ j, m'.bytes[j]? = written m.bytes (ptr.toNat + idx) data j := by
  induction data generalizing m idx with
  | nil => exact ⟨m, rfl, rfl, fun j => by rw [written, if_neg (by simp)]⟩
  | cons byte rest ih =>
    have hlt : ptr.toNat + idx < m.size := by simp at h; omega
    have hmod : (ptr.toNat + idx) % 2 ^ 64 = ptr.toNat + idx :=
      Nat.mod_eq_of_lt (by have := m.size_lt; omega)
    obtain ⟨m', hw, hsize, hbytes⟩ :=
      ih (m.set (ptr.toNat + idx) byte) (idx + 1) (by simp at h ⊢; omega)
    refine ⟨m', ?_, by simpa using hsize, fun j => ?_⟩
    · simp only [writeBytes, hmod, if_pos hlt, hw]
    · rw [hbytes, bytes_set, ← Nat.add_assoc, written_set _ _ _ _ _ hlt]

/-- The loop never changes the size of the memory. -/
theorem writeBytes_size {ptr : I64} {m m' : Memory} {idx : Nat} {data : Bytes}
    (h : writeBytes ptr m idx data = some m') : m'.size = m.size := by
  induction data generalizing m idx with
  | nil => cases h; rfl
  | cons byte rest ih =>
    simp only [writeBytes] at h
    split at h
    · rw [ih h, size_set]
    · cases h

/-- Whenever the loop does not panic, it wrote `data` from the first
    index on, inside the memory, and left every other byte alone: the
    indices wrap modulo `2^64`, but one past the end is a panic, so none
    wraps back into the memory. -/
theorem writeBytes_eq_some {ptr : I64} {m m' : Memory} {idx : Nat} {data : Bytes}
    (h : writeBytes ptr m idx data = some m') :
    (data = [] ∨ (ptr.toNat + idx) % 2 ^ 64 + data.length ≤ m.size) ∧
      ∀ j, m'.bytes[j]? = written m.bytes ((ptr.toNat + idx) % 2 ^ 64) data j := by
  induction data generalizing m idx with
  | nil => cases h; exact ⟨.inl rfl, fun j => by rw [written, if_neg (by simp)]⟩
  | cons byte rest ih =>
    simp only [writeBytes] at h
    split at h
    · rename_i hlt
      have hnext : (ptr.toNat + (idx + 1)) % 2 ^ 64 = (ptr.toNat + idx) % 2 ^ 64 + 1 := by
        have := m.size_lt; omega
      obtain ⟨hfit, hbytes⟩ := ih h
      rw [hnext, size_set] at hfit
      rw [hnext] at hbytes
      refine ⟨.inr ?_, fun j => ?_⟩
      · rcases hfit with rfl | hfit <;> simp only [List.length_cons, List.length_nil] <;> omega
      · rw [hbytes, bytes_set, written_set _ _ _ _ _ hlt]
    · cases h

/-- The loop panics on its first byte when the first index is past the
    end of the memory. -/
theorem writeBytes_eq_none (ptr : I64) (m : Memory) (idx : Nat) (byte : UInt8) (rest : Bytes)
    (h : m.size ≤ (ptr.toNat + idx) % 2 ^ 64) :
    writeBytes ptr m idx (byte :: rest) = none := by
  dsimp only [writeBytes]
  rw [if_neg (Nat.not_lt.mpr h)]

/-- The copy loop panics exactly when there is a byte to copy and the data
    runs past the end of the memory. -/
theorem writeBytes_eq_none_iff (ptr : I64) (m : Memory) (data : Bytes) :
    writeBytes ptr m 0 data = none ↔ data ≠ [] ∧ m.size < ptr.toNat + data.length := by
  constructor
  · intro h
    refine ⟨(by rintro rfl; cases h), Nat.lt_of_not_le fun hle => ?_⟩
    obtain ⟨m', hw, -⟩ := writeBytes_spec ptr m 0 data (by omega)
    rw [h] at hw
    cases hw
  · rintro ⟨hne, hlt⟩
    cases hw : writeBytes ptr m 0 data with
    | none => rfl
    | some m' =>
      obtain ⟨hfit | hfit, -⟩ := writeBytes_eq_some hw
      · exact absurd hfit hne
      · rw [Nat.add_zero, Nat.mod_eq_of_lt ptr.isLt] at hfit
        omega

/-! ## Section 2: Changes confined to a set of positions -/

/-- `m'` is `m` changed at most at the positions `w`, all of them inside
    `m`. -/
structure ChangedOnly (w : Nat → Prop) (m m' : Memory) : Prop where
  /-- The size stays. -/
  size : m'.size = m.size
  /-- Every position of `w` is inside the memory. -/
  inside : ∀ j, w j → j < m.size
  /-- Every other byte keeps its value. -/
  frame : ∀ j, ¬ w j → m'.bytes[j]? = m.bytes[j]?

theorem ChangedOnly.rfl (m : Memory) : ChangedOnly (fun _ => False) m m :=
  ⟨Eq.refl _, fun _ h => h.elim, fun _ _ => Eq.refl _⟩

theorem ChangedOnly.trans {w₁ w₂ : Nat → Prop} {m₁ m₂ m₃ : Memory}
    (h₁ : ChangedOnly w₁ m₁ m₂) (h₂ : ChangedOnly w₂ m₂ m₃) :
    ChangedOnly (fun j => w₁ j ∨ w₂ j) m₁ m₃ :=
  ⟨h₂.size.trans h₁.size, fun j hj => hj.elim (h₁.inside j) (h₁.size ▸ h₂.inside j),
    fun j hj => (h₂.frame j (hj ∘ .inr)).trans (h₁.frame j (hj ∘ .inl))⟩

theorem ChangedOnly.congr {w w' : Nat → Prop} {m m' : Memory} (h : ChangedOnly w m m')
    (hw : ∀ j, w j ↔ w' j) : ChangedOnly w' m m' :=
  ⟨h.size, fun j hj => h.inside j ((hw j).mpr hj), fun j hj => h.frame j (hj ∘ (hw j).mp)⟩

/-- The copy loop from the start of `data`, whenever it does not panic,
    changed exactly the bytes `[ptr, ptr + |data|)`, all inside the
    memory. -/
theorem writeBytes_changedOnly {ptr : I64} {m m' : Memory} {data : Bytes}
    (h : writeBytes ptr m 0 data = some m') :
    (data = [] ∨ ptr.toNat + data.length ≤ m.size) ∧
      ChangedOnly (fun j => ptr.toNat ≤ j ∧ j < ptr.toNat + data.length) m m' := by
  obtain ⟨hfit, hbytes⟩ := writeBytes_eq_some h
  rw [Nat.add_zero, Nat.mod_eq_of_lt ptr.isLt] at hfit hbytes
  refine ⟨hfit, writeBytes_size h, fun j hj => ?_,
    fun j hj => by rw [hbytes, written, if_neg hj]⟩
  rcases hfit with rfl | hfit
  · simp at hj; omega
  · omega

/-! ## Section 3: The slice of the sending imports -/

/-- `memory.view()[start..stop].iter().map(|cell| cell.get()).collect()`.
    `none` is the panic of a slice that starts past its end or ends past
    the memory. -/
def readSlice (m : Memory) (start stop : Nat) : Option Bytes :=
  if start ≤ stop ∧ stop ≤ m.size then some ((m.bytes.drop start).take (stop - start))
  else none

/-- A slice inside the memory reads its `stop - start` bytes in order. -/
theorem readSlice_spec (m : Memory) {start stop : Nat} (h : start ≤ stop)
    (hs : stop ≤ m.size) :
    ∃ data, m.readSlice start stop = some data ∧ data.length = stop - start ∧
      ∀ k, k < data.length → data[k]? = m.bytes[start + k]? := by
  refine ⟨_, if_pos ⟨h, hs⟩, by simp [size] at hs ⊢; omega, fun k hk => ?_⟩
  simp only [List.length_take, List.length_drop] at hk
  rw [List.getElem?_take_of_lt (by omega), List.getElem?_drop]

theorem readSlice_eq_none (m : Memory) {start stop : Nat}
    (h : ¬ (start ≤ stop ∧ stop ≤ m.size)) :
    m.readSlice start stop = none :=
  if_neg h

theorem readSlice_eq_none_iff (m : Memory) {start stop : Nat} :
    m.readSlice start stop = none ↔ ¬ (start ≤ stop ∧ stop ≤ m.size) := by
  unfold readSlice
  split <;> simp_all

/-- A slice that did not panic was a range inside the memory. -/
theorem readSlice_eq_some {m : Memory} {start stop : Nat} {data : Bytes}
    (h : m.readSlice start stop = some data) :
    start ≤ stop ∧ stop ≤ m.size ∧ data = (m.bytes.drop start).take (stop - start) := by
  unfold readSlice at h
  split at h
  · cases h; exact ⟨‹_ ∧ _›.1, ‹_ ∧ _›.2, rfl⟩
  · cases h

end Memory

/-- `require_mem_range` (`imports.rs`). -/
def requireMemRange (max_range require_range : Nat) : Except Error Unit :=
  if max_range < require_range then .error .MemoryOutOfBoundError else .ok ()

@[simp] theorem requireMemRange_ok {max_range require_range : Nat} :
    requireMemRange max_range require_range = .ok () ↔ require_range ≤ max_range := by
  unfold requireMemRange; split <;> simp_all [Nat.not_lt]

theorem requireMemRange_error {max_range require_range : Nat} (h : max_range < require_range) :
    requireMemRange max_range require_range = .error .MemoryOutOfBoundError :=
  if_pos h

end Owasm
