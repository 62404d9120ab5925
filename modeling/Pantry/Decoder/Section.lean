import Pantry.Decoder.Context

namespace Decoder

open Machine Panwrap Program

variable {w : Nat} {α : Type}

/-- On the memory `m` the program finishes, changes nothing and puts out `out`. -/
def Prints (p : Decode w Unit) (m : Memory w) (out : List Out) : Prop := ∀ s, s.mem = m → p.Runs s out () s

/-- What `p` puts out depends on no byte of the memory outside of `R`. -/
def ReadsOnly (R : Set (BitVec w)) (p : Decode w Unit) (s : Proc w) : Prop :=
  ∀ m : Memory w, (∀ a ∈ R, m a = s.mem a) → (p { s with mem := m }).out = (p s).out

section Prints

variable {p : Decode w Unit} {k : Unit → Decode w Unit} {m : Memory w} {out rest : List Out}

theorem prints_put (items : List Out) : Prints (put items : Decode w Unit) m items :=
  fun _ _ => runs_put.mpr ⟨rfl, rfl⟩

theorem Prints.bind (first : Prints p m out) (second : Prints (k ()) m rest) : Prints (p >>= k) m (out ++ rest) :=
  fun s same => (first s same).bind (second s same)

theorem prints_deref_bind {ptr : BitVec w} (nonnull : ptr ≠ 0#w) {f : Memory w → α} {k : α → Decode w Unit}
    (second : Prints (k (f m)) m out) : Prints (deref ptr f >>= k) m out := by
  intro s same
  have first : (deref ptr f).Runs s [] (f m) s := by simp only [Runs, deref, if_neg nonnull, same]
  exact first.bind (second s same)

theorem prints_forEach {β : Type} {body : β → Decode w Unit} {text : β → List Out}
    (each : ∀ item, Prints (body item) m (text item)) (items : List β) :
    Prints (forEach body items) m (items.flatMap text) := by
  induction items with
  | nil => exact prints_put []
  | cons item items ih => exact (each item).bind ih

theorem Prints.out_eq {s : Proc w} (prints : Prints p s.mem out) : (p s).out = out := (prints s rfl).out_eq

end Prints

section Footprint

variable {p : Decode w Unit} {text : Memory w → List Out} {R : Set (BitVec w)} {s : Proc w}

theorem readsOnly_iff (prints : ∀ m, Prints p m (text m)) :
    ReadsOnly R p s ↔ ∀ m : Memory w, (∀ a ∈ R, m a = s.mem a) → text m = text s.mem := by
  simp only [ReadsOnly, (prints _).out_eq]

theorem not_readsOnly (prints : ∀ m, Prints p m (text m)) {q : BitVec w} {off width : Nat}
    (whole : 8 ∣ width) (positive : 0 < width) (bound : width / 8 ≤ 2 ^ w)
    (outside : Disjoint (region (q + BitVec.ofNat w off) (width / 8)) R)
    (shows : ∀ m, text m = text s.mem → m.read width q off = s.mem.read width q off) : ¬ ReadsOnly R p s := by
  intro only
  have agrees : ∀ a ∈ R, s.mem.write q off (s.mem.read width q off + BitVec.ofNat width 1) a = s.mem a :=
    fun a member => Memory.write_other (Set.disjoint_right.mp outside member)
  have same := shows _ ((readsOnly_iff prints).mp only _ agrees)
  rw [Memory.read_write whole bound] at same
  have power := Nat.one_lt_two_pow positive.ne'
  have next := congrArg BitVec.toNat same
  have value := (s.mem.read width q off).isLt
  rw [BitVec.toNat_add, BitVec.toNat_ofNat, Nat.mod_eq_of_lt power] at next
  by_cases last : (s.mem.read width q off).toNat + 1 = 2 ^ width
  · rw [last, Nat.mod_self] at next
    omega
  · rw [Nat.mod_eq_of_lt (by omega)] at next
    omega

end Footprint

end Decoder
