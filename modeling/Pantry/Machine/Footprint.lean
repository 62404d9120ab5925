import Pantry.Machine.Memory

namespace Machine

variable {w : Nat}

def between (w lo hi : Nat) : Set (BitVec w) := {a | lo ≤ a.toNat ∧ a.toNat < hi}

theorem mem_between {a : BitVec w} {lo hi : Nat} : a ∈ between w lo hi ↔ lo ≤ a.toNat ∧ a.toNat < hi := Iff.rfl

theorem between_mono {lo hi lo' hi' : Nat} (low : lo' ≤ lo) (high : hi ≤ hi') :
    between w lo hi ⊆ between w lo' hi' := by
  intro a member
  rw [mem_between] at member ⊢
  omega

theorem between_disjoint {lo hi lo' hi' : Nat} (apart : hi ≤ lo' ∨ hi' ≤ lo) :
    Disjoint (between w lo hi) (between w lo' hi') := by
  rw [Set.disjoint_left]
  intro a left right
  rw [mem_between] at left right
  omega

theorem region_between {p : BitVec w} {n : Nat} (fits : p.toNat + n ≤ 2 ^ w) :
    region p n = between w p.toNat (p.toNat + n) := by
  ext a
  rw [mem_region, mem_between, BitVec.toNat_sub]
  have := a.isLt
  have := p.isLt
  by_cases above : p.toNat ≤ a.toNat
  · have wraps : 2 ^ w - p.toNat + a.toNat = (a.toNat - p.toNat) + 2 ^ w := by omega
    rw [wraps, Nat.add_mod_right, Nat.mod_eq_of_lt (by omega)]
    omega
  · rw [Nat.mod_eq_of_lt (by omega)]
    omega

/-- Between `m` and `m'` only bytes of `s` have changed. -/
def Changes (s : Set (BitVec w)) (m m' : Memory w) : Prop := ∀ a ∉ s, m' a = m a

namespace Changes

variable {s t : Set (BitVec w)} {m m' m'' : Memory w}

theorem refl (s : Set (BitVec w)) (m : Memory w) : Changes s m m := fun _ _ => rfl

theorem trans (first : Changes s m m') (second : Changes s m' m'') : Changes s m m'' :=
  fun a outside => (second a outside).trans (first a outside)

theorem mono (changes : Changes s m m') (subset : s ⊆ t) : Changes t m m' :=
  fun a outside => changes a fun member => outside (subset member)

theorem store (changes : Changes s m m') {p : BitVec w} {content : List Byte}
    (inside : region p content.length ⊆ s) : Changes s m (m'.store p content) :=
  changes.trans fun _ outside => Memory.store_other fun member => outside (inside member)

theorem write (changes : Changes s m m') {p : BitVec w} {off width : Nat} {value : BitVec width}
    (inside : region (p + BitVec.ofNat w off) (width / 8) ⊆ s) : Changes s m (m'.write p off value) :=
  changes.store (by rwa [leBytes_length])

theorem bytes (changes : Changes s m m') {p : BitVec w} {n : Nat} (bound : n ≤ 2 ^ w)
    (apart : Disjoint (region p n) s) : m'.bytes p n = m.bytes p n :=
  Memory.bytes_congr bound fun a member => changes a (Set.disjoint_left.mp apart member)

theorem read (changes : Changes s m m') {p : BitVec w} {width off : Nat} (bound : width / 8 ≤ 2 ^ w)
    (apart : Disjoint (region (p + BitVec.ofNat w off) (width / 8)) s) :
    m'.read width p off = m.read width p off :=
  Memory.read_congr bound fun a member => changes a (Set.disjoint_left.mp apart member)

end Changes

/-- Membership in a part of an object, by the distance from the object's start. -/
theorem mem_region_part {p a : BitVec w} {off n : Nat} (bound : off + n ≤ 2 ^ w) :
    a ∈ region (p + BitVec.ofNat w off) n ↔ off ≤ (a - p).toNat ∧ (a - p).toNat < off + n := by
  have moved : a - (p + BitVec.ofNat w off) = (a - p) - BitVec.ofNat w off := by ring
  have small := (a - p).isLt
  rw [mem_region, moved, BitVec.toNat_sub, BitVec.toNat_ofNat]
  by_cases full : off = 2 ^ w
  · have none : n = 0 := by omega
    rw [none]
    omega
  · rw [Nat.mod_eq_of_lt (show off < 2 ^ w by omega)]
    by_cases above : off ≤ (a - p).toNat
    · have wraps : 2 ^ w - off + (a - p).toNat = ((a - p).toNat - off) + 2 ^ w := by omega
      rw [wraps, Nat.add_mod_right, Nat.mod_eq_of_lt (by omega)]
      omega
    · rw [Nat.mod_eq_of_lt (by omega)]
      omega

namespace Memory

variable {m : Memory w} {p : BitVec w} {off off' width width' : Nat}

theorem region_parts_disjoint {n n' : Nat} (apart : off + n ≤ off' ∨ off' + n' ≤ off) (bound : off + n ≤ 2 ^ w)
    (bound' : off' + n' ≤ 2 ^ w) :
    Disjoint (region (p + BitVec.ofNat w off) n) (region (p + BitVec.ofNat w off') n') := by
  rw [Set.disjoint_left]
  intro a left right
  rw [mem_region_part bound] at left
  rw [mem_region_part bound'] at right
  omega

theorem read_store_part {content : List Byte} (apart : off + width / 8 ≤ off' ∨ off' + content.length ≤ off)
    (bound : off + width / 8 ≤ 2 ^ w) (bound' : off' + content.length ≤ 2 ^ w) :
    (m.store (p + BitVec.ofNat w off') content).read width p off = m.read width p off :=
  read_store_other (by omega) (region_parts_disjoint apart bound bound')

theorem read_write_part {value : BitVec width'} (apart : off + width / 8 ≤ off' ∨ off' + width' / 8 ≤ off)
    (bound : off + width / 8 ≤ 2 ^ w) (bound' : off' + width' / 8 ≤ 2 ^ w) :
    (m.write p off' value).read width p off = m.read width p off := by
  have length := leBytes_length (width' / 8) value.toNat
  exact read_store_part (by rw [length]; exact apart) bound (by rw [length]; exact bound')

theorem read_part : m.read width (p + BitVec.ofNat w off) off' = m.read width p (off + off') := by
  unfold read
  rw [BitVec.add_assoc, BitVec.ofNat_add]

end Memory

end Machine
