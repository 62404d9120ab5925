import Pantry.Decoder.Section
import Pantry.Machine.Footprint
import Pantry.Panwrap.Ioctl

namespace Panwrap

open Machine Decoder Program

variable {w : Nat}

/-- The section on the pre-dependencies in the log of the atom at `a`. -/
def preDependencies (a atoms : BitVec w) (i : BitVec 32) : Decode w Unit :=
  forEach (fun _ => do
    let atomId ← deref atoms fun m => m.read 8 a (36 + 2 * i.toNat)
    panwrapLog "\t\t\tatom_id = %d flags == " [.nat atomId.toNat]
    let dependencyType ← deref atoms fun m => m.read 8 a (37 + 2 * i.toNat)
    logDecodedFlags maliJdDepTypeFlagInfo (dependencyType.setWidth 64)
    logCont "\n" []) (List.range 2)

theorem logAtom_eq (a atoms : BitVec w) (i : BitVec 32) :
    logAtom a atoms i = (do
      let atom ← deref atoms fun m => MaliJdAtomV2.load m a
      panwrapLog "\t\tudata = [0x%PRIx64, 0x%PRIx64]\n" [.nat (atom.udata 0).toNat, .nat (atom.udata 1).toNat]
      panwrapLog "\t\tnr_ext_res = %d\n" [.nat atom.nrExtRes.toNat]
      logExtResources atom
      panwrapLog "\t\tcompat_core_req = 0x%x\n" [.nat atom.compatCoreReq.toNat]
      panwrapLog "\t\tPre-dependencies:\n" []
      preDependencies a atoms i
      panwrapLog "\t\tatom_number = %d\n" [.nat atom.atomNumber.toNat]
      panwrapLog "\t\tprio = %d (%s)\n" [.nat atom.prio.toNat, .str (ioctlDecodeJdPrio atom.prio)]
      panwrapLog "\t\tdevice_nr = %d\n" [.nat atom.deviceNr.toNat]
      panwrapLog "\t\tJob type = %s\n" [.str (ioctlGetJobTypeFromJdCoreReq atom.coreReq)]
      panwrapLog "\t\tcore_req = " []
      ioctlLogDecodedJdCoreReq atom.coreReq
      logCont "\n" []) := rfl

def dependencyLine (atomId dependencyType : BitVec 8) : List Out :=
  .log "\t\t\tatom_id = %d flags == " [.nat atomId.toNat] ::
    (panwrapLogDecodedFlags maliJdDepTypeFlagInfo (dependencyType.setWidth 64) ++ [.logCont "\n" []])

theorem dependencyLine_inj {atomId atomId' type type' : BitVec 8} {rest rest' : List Out}
    (same : dependencyLine atomId type ++ rest = dependencyLine atomId' type' ++ rest') :
    atomId = atomId' ∧ type = type' ∧ rest = rest' := by
  have heads := List.head_eq_of_cons_eq same
  have ids : atomId = atomId' := BitVec.eq_of_toNat_eq (by simpa using heads)
  have values := List.head_eq_of_cons_eq (List.tail_eq_of_cons_eq same)
  have types : type = type' := by
    simp only [Out.logCont.injEq, List.cons.injEq, Arg.nat.injEq, BitVec.toNat_setWidth, and_true, true_and] at values
    exact BitVec.eq_of_toNat_eq (by omega)
  subst ids types
  exact ⟨rfl, rfl, List.append_cancel_left same⟩

/-- The section on the pre-dependencies of atom `i`: it lists the two of `atoms[i]`, in order, and reads
    nothing else. -/
structure DependenciesLogged (s : Proc w) (atoms : BitVec w) (i : BitVec 32) : Prop where
  listed : (preDependencies (atomAt atoms i) atoms i s).out = (List.finRange 2).flatMap fun j =>
    dependencyLine ((MaliJdAtomV2.load s.mem (atomAt atoms i)).preDepAtomId j)
      ((MaliJdAtomV2.load s.mem (atomAt atoms i)).preDepType j)
  inside : ReadsOnly (region (atomAt atoms i + BitVec.ofNat w 36) 4) (preDependencies (atomAt atoms i) atoms i) s

def SameDependencies (atom : MaliJdAtomV2 w) : Prop :=
  atom.preDepAtomId 0 = atom.preDepAtomId 1 ∧ atom.preDepType 0 = atom.preDepType 1

section Section

variable (a : BitVec w) (i : Nat)

def dependencyText (m : Memory w) : List Out :=
  (List.range 2).flatMap fun _ => dependencyLine (m.read 8 a (36 + 2 * i)) (m.read 8 a (37 + 2 * i))

theorem prints_preDependencies {atoms : BitVec w} (nonnull : atoms ≠ 0#w) (i : BitVec 32) (m : Memory w) :
    Prints (preDependencies a atoms i) m (dependencyText a i.toNat m) := by
  apply prints_forEach
  intro _
  apply prints_deref_bind nonnull
  apply (prints_put _).bind
  apply prints_deref_bind nonnull
  exact (prints_put _).bind (prints_put _)

theorem preDependencies_null (i : BitVec 32) (s : Proc w) : (preDependencies a 0#w i s).out = [] := by
  have faults {f : Memory w → BitVec 8} : (deref 0#w f).Faults s .nullDeref := faults_deref.mpr ⟨rfl, rfl⟩
  have body {k : BitVec 8 → Decode w Unit} {f : Memory w → BitVec 8} : (deref 0#w f >>= k).Faults s .nullDeref :=
    faults_bind.mpr (.inl faults)
  rw [preDependencies, List.range_succ_eq_map, forEach, bind_fault body, bind_fault faults]
  simp only [deref, if_pos]

theorem dependencyText_shows {m m' : Memory w} (same : dependencyText a i m = dependencyText a i m') :
    m.read 8 a (36 + 2 * i) = m'.read 8 a (36 + 2 * i) := (dependencyLine_inj same).1

theorem dependency_even (width : 3 ≤ w) : 2 ∣ 2 * i % 2 ^ w :=
  (Nat.dvd_mod_iff (dvd_pow_self 2 (by omega))).mpr (Nat.dvd_mul_right 2 i)

theorem shown_dependency (width : 3 ≤ w) (low : 2 * i % 2 ^ w ≤ 2) :
    ∃ j : Fin 2, ∀ m : Memory w, m.read 8 a (36 + 2 * i) = (MaliJdAtomV2.load m a).preDepAtomId j ∧
      m.read 8 a (37 + 2 * i) = (MaliJdAtomV2.load m a).preDepType j := by
  have even := dependency_even i width
  have moved {off : Nat} : BitVec.ofNat w (off + 2 * i) = BitVec.ofNat w (off + 2 * i % 2 ^ w) := by
    apply BitVec.eq_of_toNat_eq
    rw [BitVec.toNat_ofNat, BitVec.toNat_ofNat, Nat.add_mod_mod]
  have cases : 2 * i % 2 ^ w = 0 ∨ 2 * i % 2 ^ w = 2 := by omega
  rcases cases with zero | two
  · refine ⟨0, fun m => ⟨?_, ?_⟩⟩ <;> simp only [Memory.read, moved, zero, MaliJdAtomV2.load] <;> rfl
  · refine ⟨1, fun m => ⟨?_, ?_⟩⟩ <;> simp only [Memory.read, moved, two, MaliJdAtomV2.load] <;> rfl

theorem shown_outside (width : 3 ≤ w) (high : 2 < 2 * i % 2 ^ w) :
    Disjoint (region (a + BitVec.ofNat w (36 + 2 * i)) (8 / 8)) (region (a + BitVec.ofNat w 36) 4) := by
  have even := dependency_even i width
  rw [Set.disjoint_left]
  intro b here there
  have start : b = a + BitVec.ofNat w (36 + 2 * i) := by
    rw [mem_region] at here
    have zero : b - (a + BitVec.ofNat w (36 + 2 * i)) = 0#w := BitVec.eq_of_toNat_eq (by simp only [BitVec.toNat_zero]; omega)
    exact sub_eq_zero.mp zero
  have offset : b - (a + BitVec.ofNat w 36) = BitVec.ofNat w (2 * i) := by
    rw [start, BitVec.ofNat_add]
    ring
  rw [mem_region, offset, BitVec.toNat_ofNat] at there
  omega

theorem preDep_congr {m m' : Memory w} (agrees : ∀ b ∈ region (a + BitVec.ofNat w 36) 4, m b = m' b)
    (j : Fin 2) : (MaliJdAtomV2.load m a).preDepAtomId j = (MaliJdAtomV2.load m' a).preDepAtomId j ∧
      (MaliJdAtomV2.load m a).preDepType j = (MaliJdAtomV2.load m' a).preDepType j := by
  have one : 8 / 8 ≤ 2 ^ w := Nat.one_le_two_pow
  have within {off : Nat} (fits : off + 1 ≤ 4) :
      m.read 8 a (36 + off) = m'.read 8 a (36 + off) := by
    apply Memory.read_congr one
    intro b member
    rw [BitVec.ofNat_add, ← BitVec.add_assoc] at member
    exact agrees b (region_subset _ fits member)
  have bound := j.isLt
  refine ⟨within (by omega), ?_⟩
  have next : 37 + 2 * j.val = 36 + (1 + 2 * j.val) := by omega
  simp only [MaliJdAtomV2.load, next]
  exact within (by omega)

end Section

/-- The dependencies of atom `i` are logged for what they are if and only if `pre_dep[i]` still lies inside
    the array and both dependencies are the same. -/
theorem dependencies_logged_iff (build : Build) (s : Proc build.bits) (atoms : BitVec build.bits) (i : BitVec 32) :
    DependenciesLogged s atoms i ↔ atoms ≠ 0#(build.bits) ∧ 2 * i.toNat % 2 ^ build.bits ≤ 2 ∧
      SameDependencies (MaliJdAtomV2.load s.mem (atomAt atoms i)) := by
  have width : 3 ≤ build.bits := by cases build <;> decide
  constructor
  · intro logged
    have nonnull : atoms ≠ 0#(build.bits) := by
      intro null
      have listed := logged.listed
      rw [null, preDependencies_null] at listed
      exact absurd listed (List.cons_ne_nil _ _).symm
    have prints := prints_preDependencies (atomAt atoms i) nonnull i
    have listed := logged.listed
    rw [(prints s.mem).out_eq] at listed
    obtain ⟨first, firstType, rest⟩ := dependencyLine_inj listed
    obtain ⟨second, secondType, -⟩ := dependencyLine_inj rest
    refine ⟨nonnull, ?_, first.symm.trans second, firstType.symm.trans secondType⟩
    by_contra high
    exact not_readsOnly prints (by decide) (by decide) Nat.one_le_two_pow (shown_outside _ _ width (Nat.not_le.mp high))
      (fun m => dependencyText_shows _ _) logged.inside
  · rintro ⟨nonnull, low, sameId, sameType⟩
    have prints := prints_preDependencies (atomAt atoms i) nonnull i
    obtain ⟨j, shown⟩ := shown_dependency (atomAt atoms i) i.toNat width low
    have text (m : Memory build.bits) : dependencyText (atomAt atoms i) i.toNat m = (List.range 2).flatMap fun _ =>
        dependencyLine ((MaliJdAtomV2.load m (atomAt atoms i)).preDepAtomId j)
          ((MaliJdAtomV2.load m (atomAt atoms i)).preDepType j) := by
      simp only [dependencyText, (shown m).1, (shown m).2]
    refine ⟨?_, (readsOnly_iff prints).mpr fun m agrees => ?_⟩
    · rw [(prints s.mem).out_eq, text]
      have cases : j = 0 ∨ j = 1 := by omega
      rcases cases with rfl | rfl <;>
        simp only [List.finRange_succ, List.finRange_zero, List.flatMap_cons, List.map_cons, sameId, sameType] <;> rfl
    · obtain ⟨id, type⟩ := preDep_congr (atomAt atoms i) agrees j
      rw [text, text, id, type]

def waitingAtom : Proc 64 := ⟨fun a => if a = 0x1024#64 ∨ a = 0x1025#64 then 1#8 else 0#8, 0⟩

theorem dependencies_repeated : ¬ DependenciesLogged waitingAtom 0x1000#64 0#32 := by
  intro logged
  exact absurd logged.listed (by decide)

end Panwrap
