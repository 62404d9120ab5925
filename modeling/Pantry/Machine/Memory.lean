import Mathlib.Data.BitVec
import Mathlib.Data.Set.Basic
import Mathlib.Data.Set.BooleanAlgebra
import Mathlib.Data.Set.Disjoint
import Mathlib.Order.CompletePartialOrder
import Mathlib.Tactic.Ring

namespace Machine

abbrev Byte := BitVec 8

def leValue : List Byte → Nat
  | [] => 0
  | byte :: rest => byte.toNat + 256 * leValue rest

def leBytes : Nat → Nat → List Byte
  | 0, _ => []
  | n + 1, value => BitVec.ofNat 8 value :: leBytes n (value / 256)

@[simp] theorem leBytes_length (n value : Nat) : (leBytes n value).length = n := by
  induction n generalizing value with
  | zero => rfl
  | succ n ih => simp only [leBytes, List.length_cons, ih]

theorem leValue_leBytes (n value : Nat) : leValue (leBytes n value) = value % 256 ^ n := by
  induction n generalizing value with
  | zero => simp only [leBytes, leValue, Nat.pow_zero, Nat.mod_one]
  | succ n ih =>
    have split : value % (256 * 256 ^ n) = value % 256 + 256 * (value / 256 % 256 ^ n) := Nat.mod_mul
    simp only [leBytes, leValue, ih, BitVec.toNat_ofNat, Nat.reducePow]
    rw [Nat.pow_succ, Nat.mul_comm (256 ^ n), split]

/-- The addresses of the `n` bytes from `p` on, around the end of the address space. -/
def region {w : Nat} (p : BitVec w) (n : Nat) : Set (BitVec w) := {a | (a - p).toNat < n}

variable {w : Nat}

theorem mem_region {p a : BitVec w} {n : Nat} : a ∈ region p n ↔ (a - p).toNat < n := Iff.rfl

theorem region_subset (p : BitVec w) {off n length : Nat} (fits : off + n ≤ length) :
    region (p + BitVec.ofNat w off) n ⊆ region p length := by
  intro a member
  have split : a - p = (a - (p + BitVec.ofNat w off)) + BitVec.ofNat w off := by ring
  have bound : (a - p).toNat ≤ (a - (p + BitVec.ofNat w off)).toNat + off := by
    rw [split, BitVec.toNat_add, BitVec.toNat_ofNat]
    exact (Nat.mod_le _ _).trans (Nat.add_le_add_left (Nat.mod_le _ _) _)
  rw [mem_region] at member ⊢
  omega

theorem region_mono (p : BitVec w) {n length : Nat} (fits : n ≤ length) :
    region p n ⊆ region p length := fun _ member => Nat.lt_of_lt_of_le member fits

theorem region_start {p : BitVec w} {n : Nat} (positive : 0 < n) : p ∈ region p n := by
  rw [mem_region, BitVec.sub_self]
  exact positive

theorem region_disjoint {p q : BitVec w} {n k : Nat} (below : p.toNat + n ≤ q.toNat)
    (fits : q.toNat + k ≤ 2 ^ w) : Disjoint (region p n) (region q k) := by
  rw [Set.disjoint_left]
  intro a left right
  have hp : a = p + (a - p) := by ring
  have hq : a = q + (a - q) := by ring
  have bp : a.toNat = p.toNat + (a - p).toNat := by
    conv_lhs => rw [hp]
    rw [BitVec.toNat_add, Nat.mod_eq_of_lt]
    have := q.isLt
    rw [mem_region] at left
    omega
  have bq : a.toNat = q.toNat + (a - q).toNat := by
    conv_lhs => rw [hq]
    rw [BitVec.toNat_add, Nat.mod_eq_of_lt]
    rw [mem_region] at right
    omega
  rw [mem_region] at left right
  omega

/-- A byte-addressed memory of `w`-bit pointers. -/
def Memory (w : Nat) : Type := BitVec w → Byte

namespace Memory

def bytes (m : Memory w) (p : BitVec w) (n : Nat) : List Byte :=
  (List.range n).map fun i => m (p + BitVec.ofNat w i)

/-- The little-endian `width`-bit word at offset `off` of the object at `p`. -/
def read (m : Memory w) (width : Nat) (p : BitVec w) (off : Nat) : BitVec width :=
  BitVec.ofNat width (leValue (m.bytes (p + BitVec.ofNat w off) (width / 8)))

def store (m : Memory w) (p : BitVec w) (content : List Byte) : Memory w := fun a =>
  (content[(a - p).toNat]?).getD (m a)

def write {width : Nat} (m : Memory w) (p : BitVec w) (off : Nat) (value : BitVec width) : Memory w :=
  m.store (p + BitVec.ofNat w off) (leBytes (width / 8) value.toNat)

/-- The bytes from `p` on in front of the first that is 0, of at most `n`. -/
def string (m : Memory w) : Nat → BitVec w → List Byte
  | 0, _ => []
  | n + 1, p => if m p = 0#8 then [] else m p :: m.string n (p + 1#w)

@[simp] theorem bytes_length (m : Memory w) (p : BitVec w) (n : Nat) : (m.bytes p n).length = n := by
  simp only [bytes, List.length_map, List.length_range]

theorem bytes_congr {m m' : Memory w} {p : BitVec w} {n : Nat} (bound : n ≤ 2 ^ w)
    (same : ∀ a ∈ region p n, m a = m' a) : m.bytes p n = m'.bytes p n := by
  unfold bytes
  apply List.map_congr_left
  intro i member
  have small := List.mem_range.mp member
  apply same
  have offset : p + BitVec.ofNat w i - p = BitVec.ofNat w i := by ring
  rw [mem_region, offset, BitVec.toNat_ofNat, Nat.mod_eq_of_lt (Nat.lt_of_lt_of_le small bound)]
  exact small

theorem read_congr {m m' : Memory w} {width off : Nat} {p : BitVec w} (bound : width / 8 ≤ 2 ^ w)
    (same : ∀ a ∈ region (p + BitVec.ofNat w off) (width / 8), m a = m' a) :
    m.read width p off = m'.read width p off := by
  unfold read
  rw [bytes_congr bound same]

theorem store_other {m : Memory w} {p a : BitVec w} {content : List Byte}
    (outside : a ∉ region p content.length) : m.store p content a = m a := by
  have high : content.length ≤ (a - p).toNat := Nat.not_lt.mp outside
  simp only [store, List.getElem?_eq_none high, Option.getD_none]

theorem store_replicate {m : Memory w} {p a : BitVec w} {n : Nat} {byte : Byte} (inside : a ∈ region p n) :
    m.store p (List.replicate n byte) a = byte := by
  simp only [store, List.getElem?_replicate_of_lt (mem_region.mp inside), Option.getD_some]

theorem write_other {width off : Nat} {m : Memory w} {p a : BitVec w} {value : BitVec width}
    (outside : a ∉ region (p + BitVec.ofNat w off) (width / 8)) : m.write p off value a = m a :=
  store_other (by rwa [leBytes_length])

theorem bytes_store (m : Memory w) (p : BitVec w) {off n : Nat} {content : List Byte}
    (inside : off + n ≤ content.length) (bound : content.length ≤ 2 ^ w) :
    (m.store p content).bytes (p + BitVec.ofNat w off) n = (content.drop off).take n := by
  apply List.ext_getElem
  · simp only [bytes_length, List.length_take, List.length_drop]
    omega
  · intro i left right
    rw [bytes_length] at left
    have offset : p + BitVec.ofNat w off + BitVec.ofNat w i - p = BitVec.ofNat w (off + i) := by
      rw [BitVec.ofNat_add]
      ring
    have small : off + i < 2 ^ w := by omega
    have present : off + i < content.length := by omega
    simp only [bytes, List.getElem_map, List.getElem_range, store, offset, BitVec.toNat_ofNat,
      Nat.mod_eq_of_lt small, List.getElem?_eq_getElem present, Option.getD_some, List.getElem_take,
      List.getElem_drop]

theorem bytes_store_same (m : Memory w) (p : BitVec w) {content : List Byte}
    (bound : content.length ≤ 2 ^ w) : (m.store p content).bytes p content.length = content := by
  have inside : 0 + content.length ≤ content.length := by omega
  have whole := bytes_store m p inside bound
  simpa only [BitVec.ofNat_eq_ofNat, BitVec.add_zero, List.drop_zero, List.take_length] using whole

theorem read_write {m : Memory w} {width off : Nat} {p : BitVec w} {value : BitVec width}
    (whole : 8 ∣ width) (bound : width / 8 ≤ 2 ^ w) : (m.write p off value).read width p off = value := by
  have fits : (leBytes (width / 8) value.toNat).length ≤ 2 ^ w := by rwa [leBytes_length]
  have content := bytes_store_same m (p + BitVec.ofNat w off) fits
  rw [leBytes_length] at content
  unfold read write
  rw [content, leValue_leBytes]
  have power : 256 ^ (width / 8) = 2 ^ width := by
    rw [show 256 = 2 ^ 8 from rfl, ← Nat.pow_mul, Nat.mul_div_cancel' whole]
  rw [power, Nat.mod_eq_of_lt value.isLt, BitVec.ofNat_toNat, BitVec.setWidth_eq]

theorem read_store_other {m : Memory w} {width off : Nat} {p q : BitVec w} {content : List Byte}
    (bound : width / 8 ≤ 2 ^ w)
    (apart : Disjoint (region (p + BitVec.ofNat w off) (width / 8)) (region q content.length)) :
    (m.store q content).read width p off = m.read width p off :=
  read_congr bound fun _ member => store_other (Set.disjoint_left.mp apart member)

theorem next_byte (p : BitVec w) (k : Nat) : p + 1#w + BitVec.ofNat w k = p + BitVec.ofNat w (k + 1) := by
  rw [BitVec.add_assoc, BitVec.add_comm 1#w, ← BitVec.ofNat_add]

theorem bytes_succ (m : Memory w) (p : BitVec w) (n : Nat) : m.bytes p (n + 1) = m p :: m.bytes (p + 1#w) n := by
  unfold bytes
  rw [List.range_succ_eq_map, List.map_cons, List.map_map]
  congr 1
  · exact congrArg m (BitVec.add_zero p)
  · apply List.map_congr_left
    intro i _
    rw [next_byte]
    rfl

theorem read_mod (m : Memory w) (p : BitVec w) (n off : Nat) :
    (m.read (8 * (n + 1)) p off).toNat % 256 = (m (p + BitVec.ofNat w off)).toNat := by
  have power : 256 ∣ 2 ^ (8 * (n + 1)) := ⟨2 ^ (8 * n), by rw [Nat.mul_succ, Nat.pow_add, Nat.mul_comm]⟩
  unfold read
  rw [BitVec.toNat_ofNat, Nat.mod_mod_of_dvd _ power, Nat.mul_div_cancel_left _ (by decide), bytes_succ, leValue,
    Nat.add_mul_mod_self_left, Nat.mod_eq_of_lt (BitVec.isLt _)]

/-- One of the first `n` bytes from `p` on is 0. -/
def Terminated (m : Memory w) (p : BitVec w) (n : Nat) : Prop := ∃ k < n, m (p + BitVec.ofNat w k) = 0#8

instance (m : Memory w) (p : BitVec w) (n : Nat) : Decidable (Terminated m p n) :=
  inferInstanceAs (Decidable (∃ k < n, _))

theorem terminated_succ {m : Memory w} {p : BitVec w} {n : Nat} :
    Terminated m p (n + 1) ↔ m p = 0#8 ∨ Terminated m (p + 1#w) n := by
  constructor
  · intro terminated
    obtain ⟨k, small, zero⟩ := terminated
    cases k with
    | zero => exact .inl (by simpa using zero)
    | succ k => exact .inr ⟨k, by omega, by rwa [next_byte]⟩
  · intro terminated
    rcases terminated with zero | later
    · exact ⟨0, by omega, by simpa using zero⟩
    · obtain ⟨k, small, zero⟩ := later
      exact ⟨k + 1, by omega, by rwa [next_byte] at zero⟩

/-- A string that ends within `n` bytes depends on these alone. -/
theorem string_congr {m m' : Memory w} {p : BitVec w} {n : Nat} (terminated : Terminated m p n)
    (same : ∀ k < n, m' (p + BitVec.ofNat w k) = m (p + BitVec.ofNat w k)) (limit : Nat) :
    m'.string limit p = m.string limit p := by
  induction limit generalizing p n with
  | zero => rfl
  | succ limit ih =>
    cases n with
    | zero =>
      obtain ⟨_, none, -⟩ := terminated
      omega
    | succ n =>
      have first : m' p = m p := by simpa using same 0 (Nat.succ_pos n)
      unfold string
      rw [first]
      by_cases ends : m p = 0#8
      · rw [if_pos ends, if_pos ends]
      · rw [if_neg ends, if_neg ends]
        have later : ∀ k < n, m' (p + 1#w + BitVec.ofNat w k) = m (p + 1#w + BitVec.ofNat w k) := by
          intro k small
          rw [next_byte]
          exact same (k + 1) (by omega)
        rw [ih ((terminated_succ.mp terminated).resolve_left ends) later]

/-- The byte behind `n` that are not 0 decides whether the string has ended. -/
theorem string_length_iff {m : Memory w} {p : BitVec w} {n limit : Nat} (unterminated : ¬ Terminated m p n)
    (room : n < limit) : (m.string limit p).length = n ↔ m (p + BitVec.ofNat w n) = 0#8 := by
  induction n generalizing p limit with
  | zero =>
    cases limit with
    | zero => omega
    | succ limit =>
      unfold string
      split <;> simp_all
  | succ n ih =>
    cases limit with
    | zero => omega
    | succ limit =>
      obtain ⟨more, later⟩ := not_or.mp (terminated_succ.not.mp unterminated)
      unfold string
      rw [if_neg more, List.length_cons, Nat.add_right_cancel_iff, ih later (by omega), next_byte]

end Memory

end Machine
