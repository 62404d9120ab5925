import Pantry.Driver.Shim
import Pantry.Panwrap.Submission

namespace Driver

open Machine Panwrap Decoder

/-- The bytes of a `struct mali_jd_atom_v2`, its padding clear. -/
def atomFields (atom : MaliJdAtomV2 32) : List Field := [
  ⟨64, atom.jc⟩, ⟨64, atom.udata 0⟩, ⟨64, atom.udata 1⟩, ⟨32, atom.extResList⟩, ⟨32, 0#32⟩, ⟨16, atom.nrExtRes⟩,
  ⟨16, atom.compatCoreReq⟩, ⟨8, atom.preDepAtomId 0⟩, ⟨8, atom.preDepType 0⟩, ⟨8, atom.preDepAtomId 1⟩,
  ⟨8, atom.preDepType 1⟩, ⟨8, atom.atomNumber⟩, ⟨8, atom.prio⟩, ⟨8, atom.deviceNr⟩, ⟨8, 0#8⟩, ⟨32, atom.coreReq⟩]

/-- The bytes of the `struct mali_ioctl_job_submit` that `submit_job_internal` hands in, its header filled in by
    `m_ioctl`. -/
def submitFields (p : BitVec 32) (count : Nat) : List Field := [
  ⟨32, 0x21C#32⟩, ⟨32, 0#32⟩, ⟨32, p⟩, ⟨32, 0#32⟩, ⟨32, BitVec.ofNat 32 count⟩, ⟨32, BitVec.ofNat 32 MaliJdAtomV2.size⟩]

def storeAtoms (m : Memory 32) (p : BitVec 32) : List (MaliJdAtomV2 32) → Memory 32
  | [] => m
  | atom :: rest => (storeAtoms m (p + BitVec.ofNat 32 MaliJdAtomV2.size) rest).store p (Field.image (atomFields atom))

/-- The memory that the kernel is called with to submit a batch: its atoms stand at `p`, the argument at `ptr`. -/
def handedIn (m : Memory 32) (ptr p : BitVec 32) (atoms : List (MaliJdAtomV2 32)) : Memory 32 :=
  (storeAtoms m p atoms).store ptr (Field.image (submitFields p atoms.length))

variable {m m' : Memory 32} {ptr p : BitVec 32} {atoms : List (MaliJdAtomV2 32)}

/-- The bytes of the argument of a submission and of its atoms. -/
def batchRegion (ptr p : BitVec 32) (n : Nat) : Set (BitVec 32) :=
  region ptr 24 ∪ region p (MaliJdAtomV2.size * n)

theorem load_atom_congr {a : BitVec 32}
    (same : ∀ width off, off + width / 8 ≤ MaliJdAtomV2.size → m'.read width a off = m.read width a off) :
    MaliJdAtomV2.load m' a = MaliJdAtomV2.load m a := by
  unfold MaliJdAtomV2.size at same
  unfold MaliJdAtomV2.load
  have udata (i : Fin 2) := same 64 (8 + 8 * i.val) (by omega)
  have preDepAtomId (i : Fin 2) := same 8 (36 + 2 * i.val) (by omega)
  have preDepType (i : Fin 2) := same 8 (37 + 2 * i.val) (by omega)
  simp only [udata, preDepAtomId, preDepType]
  rw [same 64 0 (by decide), same 32 24 (by decide), same 16 32 (by decide), same 16 34 (by decide),
    same 8 40 (by decide), same 8 41 (by decide), same 8 42 (by decide), same 32 44 (by decide)]

theorem batch_keep {R : Set (BitVec 32)} (laid : BatchLaid m ptr p atoms) (changes : Changes R m m')
    (apart : Disjoint (batchRegion ptr p atoms.length) R) (small : MaliJdAtomV2.size * atoms.length ≤ 2 ^ 32) :
    BatchLaid m' ptr p atoms where
  args := by
    have same (off : Nat) (part : off + 4 ≤ 24) : m'.read 32 ptr off = m.read 32 ptr off := by
      apply changes.read (by decide)
      apply apart.mono_left
      intro a member
      rw [mem_region_part (by omega)] at member
      exact .inl (show (a - ptr).toNat < 24 by omega)
    rw [← laid.args, MaliIoctlJobSubmit.load, same 8 (by decide), same 16 (by decide), same 20 (by decide)]
    rfl
  atom := by
    intro i atom member
    have inside : i < atoms.length := (List.getElem?_eq_some_iff.mp member).1
    have value : (BitVec.ofNat 32 i).toNat = i := by
      rw [BitVec.toNat_ofNat, Nat.mod_eq_of_lt (Nat.lt_trans inside laid.fits)]
    rw [← laid.atom i atom member]
    apply load_atom_congr
    intro width off part
    unfold MaliJdAtomV2.size at part small
    apply changes.read (by omega)
    apply apart.mono_left
    intro a inner
    rw [atomAt, value, BitVec.add_assoc, ← BitVec.ofNat_add, MaliJdAtomV2.size, mem_region_part (by omega)] at inner
    exact .inr (show (a - p).toNat < 48 * atoms.length by omega)
  present := laid.present
  fits := laid.fits

theorem atomFields_sizes (atom : MaliJdAtomV2 32) : Field.sizes (atomFields atom) = MaliJdAtomV2.size := by
  simp [Field.sizes, atomFields, Field.size, MaliJdAtomV2.size]

theorem load_atom_store (m : Memory 32) (a : BitVec 32) (atom : MaliJdAtomV2 32) :
    MaliJdAtomV2.load (m.store a (Field.image (atomFields atom))) a = atom := by
  have sizes : (atomFields atom).map Field.size = [8, 8, 8, 4, 4, 2, 2, 1, 1, 1, 1, 1, 1, 1, 1, 4] := by
    simp [atomFields, Field.size]
  have bound : Field.sizes (atomFields atom) ≤ 2 ^ 32 := by
    rw [atomFields_sizes]
    decide
  have field (i off : Nat) {width : Nat} {value : BitVec width} (whole : 8 ∣ width)
      (place : ([8, 8, 8, 4, 4, 2, 2, 1, 1, 1, 1, 1, 1, 1, 1, 4].take i).sum = off)
      (member : (atomFields atom)[i]? = some ⟨width, value⟩) :
      (m.store a (Field.image (atomFields atom))).read width a off = value := by
    refine Memory.read_image m a bound whole ?_ member
    rw [Field.sizes, List.map_take, sizes, place]
  have udata : (fun i : Fin 2 => (m.store a (Field.image (atomFields atom))).read 64 a (8 + 8 * i.val)) = atom.udata := by
    funext i
    revert i
    exact Fin.forall_fin_two.mpr ⟨field 1 8 (by decide) rfl rfl, field 2 16 (by decide) rfl rfl⟩
  have atomIds : (fun i : Fin 2 => (m.store a (Field.image (atomFields atom))).read 8 a (36 + 2 * i.val)) =
      atom.preDepAtomId := by
    funext i
    revert i
    exact Fin.forall_fin_two.mpr ⟨field 7 36 (by decide) rfl rfl, field 9 38 (by decide) rfl rfl⟩
  have types : (fun i : Fin 2 => (m.store a (Field.image (atomFields atom))).read 8 a (37 + 2 * i.val)) =
      atom.preDepType := by
    funext i
    revert i
    exact Fin.forall_fin_two.mpr ⟨field 8 37 (by decide) rfl rfl, field 10 39 (by decide) rfl rfl⟩
  unfold MaliJdAtomV2.load
  rw [udata, atomIds, types, field 0 0 (by decide) rfl rfl, field 3 24 (by decide) rfl rfl,
    field 5 32 (by decide) rfl rfl, field 6 34 (by decide) rfl rfl, field 11 40 (by decide) rfl rfl,
    field 12 41 (by decide) rfl rfl, field 13 42 (by decide) rfl rfl, field 15 44 (by decide) rfl rfl]

theorem region_part_subset {w off n size : Nat} {q : BitVec w} (inside : off + n ≤ size) (bound : size ≤ 2 ^ w) :
    region (q + BitVec.ofNat w off) n ⊆ region q size := by
  intro a member
  rw [mem_region_part (by omega)] at member
  exact Nat.lt_of_lt_of_le member.2 inside

theorem storeAtoms_changes (small : MaliJdAtomV2.size * atoms.length ≤ 2 ^ 32) :
    Changes (region p (MaliJdAtomV2.size * atoms.length)) m (storeAtoms m p atoms) := by
  induction atoms generalizing p with
  | nil => exact Changes.refl _ m
  | cons atom rest ih =>
    rw [List.length_cons, Nat.mul_succ, Nat.add_comm] at small ⊢
    apply ((ih (by omega)).mono (region_part_subset (Nat.le_refl _) small)).store
    rw [Field.image_length, atomFields_sizes]
    intro a member
    exact Nat.lt_of_lt_of_le member (Nat.le_add_right _ _)

theorem load_storeAtoms (small : MaliJdAtomV2.size * atoms.length ≤ 2 ^ 32) {i : Nat} {atom : MaliJdAtomV2 32}
    (member : atoms[i]? = some atom) :
    MaliJdAtomV2.load (storeAtoms m p atoms) (p + BitVec.ofNat 32 (MaliJdAtomV2.size * i)) = atom := by
  induction atoms generalizing p i with
  | nil => cases member
  | cons first rest ih =>
    rw [List.length_cons, Nat.mul_succ] at small
    cases i with
    | zero =>
      obtain rfl : first = atom := Option.some.inj member
      rw [Nat.mul_zero, BitVec.add_zero, storeAtoms]
      exact load_atom_store _ p first
    | succ i =>
      have found : rest[i]? = some atom := member
      have inside : i < rest.length := (List.getElem?_eq_some_iff.mp found).1
      have length : (Field.image (atomFields first)).length = MaliJdAtomV2.size := by
        rw [Field.image_length, atomFields_sizes]
      have moved : p + BitVec.ofNat 32 (MaliJdAtomV2.size * (i + 1)) =
          p + BitVec.ofNat 32 MaliJdAtomV2.size + BitVec.ofNat 32 (MaliJdAtomV2.size * i) := by
        rw [BitVec.add_assoc, ← BitVec.ofNat_add, Nat.mul_succ, Nat.add_comm]
      have stored := ih (p := p + BitVec.ofNat 32 MaliJdAtomV2.size) (by omega) found
      rw [← moved] at stored
      rw [← stored, storeAtoms]
      apply load_atom_congr
      intro width off part
      rw [Memory.read_part, Memory.read_part]
      unfold MaliJdAtomV2.size at part small length ⊢
      have front : ((storeAtoms m (p + BitVec.ofNat 32 48) rest).store (p + BitVec.ofNat 32 0)
          (Field.image (atomFields first))).read width p (48 * (i + 1) + off) =
          (storeAtoms m (p + BitVec.ofNat 32 48) rest).read width p (48 * (i + 1) + off) :=
        Memory.read_store_part (.inr (by omega)) (by omega) (by omega)
      rwa [BitVec.add_zero] at front

/-- What the memory at a submission holds besides what the driver left: the argument at `ptr` and the atoms at `p`, apart
    from what the jobs are built of. -/
structure HandsIn (jobs : Set (BitVec 32)) (atoms : List (MaliJdAtomV2 32)) (m m' : Memory 32) (ptr p : BitVec 32) :
    Prop where
  batch : BatchLaid m' ptr p atoms
  changes : Changes (batchRegion ptr p atoms.length) m m'
  apart : Disjoint (batchRegion ptr p atoms.length) jobs

theorem handedIn_handsIn {jobs : Set (BitVec 32)} (present : ptr ≠ 0#32 ∧ p ≠ 0#32)
    (small : MaliJdAtomV2.size * atoms.length ≤ 2 ^ 32)
    (argument : Disjoint (region ptr 24) (region p (MaliJdAtomV2.size * atoms.length)))
    (apart : Disjoint (batchRegion ptr p atoms.length) jobs) : HandsIn jobs atoms m (handedIn m ptr p atoms) ptr p := by
  have length : (Field.image (submitFields p atoms.length)).length = 24 := by
    simp [Field.sizes, submitFields, Field.size]
  have sizes : (submitFields p atoms.length).map Field.size = [4, 4, 4, 4, 4, 4] := by simp [submitFields, Field.size]
  have field (i off : Nat) {value : BitVec 32} (place : ([4, 4, 4, 4, 4, 4].take i).sum = off)
      (member : (submitFields p atoms.length)[i]? = some ⟨32, value⟩) :
      (handedIn m ptr p atoms).read 32 ptr off = value := by
    refine Memory.read_image _ ptr (by rw [← Field.image_length, length]; decide) (by decide) ?_ member
    rw [Field.sizes, List.map_take, sizes, place]
  have argued : Changes (region ptr 24) (storeAtoms m p atoms) (handedIn m ptr p atoms) :=
    (Changes.refl _ _).store (by rw [length])
  refine ⟨⟨?_, ?_, present, ?_⟩, ?_, apart⟩
  · rw [MaliIoctlJobSubmit.load, field 2 8 rfl rfl, field 4 16 rfl rfl, field 5 20 rfl rfl]
  · intro i atom member
    have inside : i < atoms.length := (List.getElem?_eq_some_iff.mp member).1
    have value : (BitVec.ofNat 32 i).toNat = i := by
      unfold MaliJdAtomV2.size at small
      rw [BitVec.toNat_ofNat, Nat.mod_eq_of_lt (by omega)]
    have stored := load_storeAtoms (m := m) (p := p) small member
    rw [atomOf, atomAt, value, ← stored]
    apply load_atom_congr
    intro width off part
    unfold MaliJdAtomV2.size at part small argument ⊢
    apply argued.read (by omega)
    apply argument.symm.mono_left
    rw [BitVec.add_assoc, ← BitVec.ofNat_add]
    exact region_part_subset (by omega) (by omega)
  · unfold MaliJdAtomV2.size at small
    omega
  · exact ((storeAtoms_changes small).mono Set.subset_union_right).trans (argued.mono Set.subset_union_left)

end Driver
