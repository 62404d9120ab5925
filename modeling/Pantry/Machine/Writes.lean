import Pantry.Machine.Footprint

namespace Machine

variable {w : Nat}

structure Write (w : Nat) where
  addr : BitVec w
  content : List Byte

def Write.region (e : Write w) : Set (BitVec w) := Machine.region e.addr e.content.length

namespace Memory

variable {m m' : Memory w} {a : BitVec w}

def apply (m : Memory w) (writes : List (Write w)) : Memory w :=
  writes.foldl (fun m e => m.store e.addr e.content) m

theorem apply_cons (m : Memory w) (e : Write w) (rest : List (Write w)) :
    m.apply (e :: rest) = (m.store e.addr e.content).apply rest := rfl

theorem store_congr (same : m a = m' a) (p : BitVec w) (content : List Byte) :
    m.store p content a = m'.store p content a := by
  simp only [store, same]

theorem apply_congr (same : m a = m' a) (writes : List (Write w)) : m.apply writes a = m'.apply writes a := by
  induction writes generalizing m m' with
  | nil => exact same
  | cons e rest ih => exact ih (store_congr same e.addr e.content)

/-- Where some of the writes do not reach, they can be left out. -/
theorem apply_filter {ι : Type} (f : ι → Write w) (keep : ι → Bool) {writes : List ι}
    (apart : ∀ i ∈ writes, keep i = false → a ∉ (f i).region) :
    m.apply (writes.map f) a = m.apply ((writes.filter keep).map f) a := by
  induction writes generalizing m with
  | nil => rfl
  | cons i rest ih =>
    have later : ∀ j ∈ rest, keep j = false → a ∉ (f j).region :=
      fun j member => apart j (List.mem_cons_of_mem _ member)
    rw [List.map_cons, apply_cons, ih later, List.filter_cons]
    cases kept : keep i with
    | true => rw [if_pos rfl, List.map_cons, apply_cons]
    | false =>
      rw [if_neg Bool.false_ne_true]
      exact apply_congr (store_other (apart i (List.mem_cons_self ..) kept)) _

theorem apply_changes {s : Set (BitVec w)} {writes : List (Write w)} (inside : ∀ e ∈ writes, e.region ⊆ s) :
    Changes s m (m.apply writes) := by
  induction writes generalizing m with
  | nil => exact Changes.refl s m
  | cons e rest ih =>
    have first : Changes s m (m.store e.addr e.content) := (Changes.refl s m).store (inside e (List.mem_cons_self ..))
    exact first.trans (ih fun e member => inside e (List.mem_cons_of_mem _ member))

end Memory

theorem leValue_append (first second : List Byte) :
    leValue (first ++ second) = leValue first + 256 ^ first.length * leValue second := by
  induction first with
  | nil => simp only [List.nil_append, leValue, List.length_nil, Nat.pow_zero, Nat.one_mul, Nat.zero_add]
  | cons byte rest ih =>
    simp only [List.cons_append, leValue, ih, List.length_cons, Nat.pow_succ]
    ring

theorem leValue_lt (bytes : List Byte) : leValue bytes < 256 ^ bytes.length := by
  induction bytes with
  | nil => exact Nat.one_pos
  | cons byte rest ih =>
    have small := byte.isLt
    rw [leValue, List.length_cons, Nat.pow_succ]
    omega

theorem leValue_zeros {bytes : List Byte} (zero : ∀ byte ∈ bytes, byte = 0#8) : leValue bytes = 0 := by
  induction bytes with
  | nil => rfl
  | cons byte rest ih =>
    rw [leValue, ih fun b member => zero b (List.mem_cons_of_mem _ member), zero byte (List.mem_cons_self ..)]
    rfl

namespace Memory

variable {m : Memory w} {p : BitVec w} {off : Nat}

theorem bytes_zero {n : Nat} (bound : n ≤ 2 ^ w) (zero : ∀ a ∈ region p n, m a = 0#8) :
    ∀ byte ∈ m.bytes p n, byte = 0#8 := by
  intro byte member
  obtain ⟨i, small, rfl⟩ := List.mem_map.mp member
  have below := List.mem_range.mp small
  apply zero
  have offset : p + BitVec.ofNat w i - p = BitVec.ofNat w i := by ring
  rw [mem_region, offset, BitVec.toNat_ofNat, Nat.mod_eq_of_lt (by omega)]
  exact below

theorem read_zero {b : Nat} (bound : b / 8 ≤ 2 ^ w)
    (zero : ∀ a ∈ region (p + BitVec.ofNat w off) (b / 8), m a = 0#8) : m.read b p off = 0#b := by
  rw [read, leValue_zeros (bytes_zero bound zero)]

theorem bytes_append (m : Memory w) (p : BitVec w) (n k : Nat) :
    m.bytes p (n + k) = m.bytes p n ++ m.bytes (p + BitVec.ofNat w n) k := by
  unfold bytes
  rw [List.range_add, List.map_append, List.map_map]
  congr 1
  apply List.map_congr_left
  intro i _
  rw [Function.comp_apply, BitVec.ofNat_add, BitVec.add_assoc]

/-- A word of 64 bits whose upper half is zero has the value of its lower half. -/
theorem read_low (bound : 4 ≤ 2 ^ w) (upper : ∀ a ∈ region (p + BitVec.ofNat w (off + 4)) 4, m a = 0#8) :
    m.read 64 p off = (m.read 32 p off).setWidth 64 := by
  have high : leValue (m.bytes (p + BitVec.ofNat w off + BitVec.ofNat w 4) 4) = 0 := by
    rw [BitVec.add_assoc, ← BitVec.ofNat_add]
    exact leValue_zeros (bytes_zero bound upper)
  have low := leValue_lt (m.bytes (p + BitVec.ofNat w off) 4)
  rw [bytes_length] at low
  have whole : m.read 64 p off = BitVec.ofNat 64 (leValue (m.bytes (p + BitVec.ofNat w off) 4)) := by
    change BitVec.ofNat 64 (leValue (m.bytes (p + BitVec.ofNat w off) (4 + 4))) = _
    rw [bytes_append, leValue_append, high, Nat.mul_zero, Nat.add_zero]
  have part : m.read 32 p off = BitVec.ofNat 32 (leValue (m.bytes (p + BitVec.ofNat w off) 4)) := rfl
  apply BitVec.eq_of_toNat_eq
  rw [whole, part, BitVec.toNat_setWidth, BitVec.toNat_ofNat, BitVec.toNat_ofNat]
  omega

end Memory

end Machine
