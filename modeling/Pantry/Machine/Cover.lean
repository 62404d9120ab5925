import Mathlib.Tactic.Common
import Mathlib.Data.BitVec
import Mathlib.Data.List.Perm.Basic

/-! Masks taken out of a word one after the other: each that the rest of the word still contains. -/

namespace Machine

variable {α : Type} {w : Nat}

/-- The bits of `m` are among those of `v`. -/
def Among (m v : BitVec w) : Prop := v &&& m = m

instance (m v : BitVec w) : Decidable (Among m v) := inferInstanceAs (Decidable (_ = _))

section Among

variable {m m' v : BitVec w}

theorem among_iff : Among m v ↔ ∀ i < w, m.getLsbD i = true → v.getLsbD i = true := by
  unfold Among
  constructor
  · intro same i _ set
    rw [← same, BitVec.getLsbD_and] at set
    exact (Bool.and_eq_true_iff.mp set).1
  · intro bits
    apply BitVec.eq_of_getLsbD_eq
    intro i inside
    rw [BitVec.getLsbD_and]
    cases set : m.getLsbD i with
    | false => exact Bool.and_false _
    | true => rw [bits i inside set, Bool.and_true]

theorem disjoint_iff : m &&& m' = 0#w ↔ ∀ i < w, m.getLsbD i = true → m'.getLsbD i = false := by
  constructor
  · intro apart i _ set
    have bit : (m &&& m').getLsbD i = (0#w).getLsbD i := by rw [apart]
    rwa [BitVec.getLsbD_and, set, Bool.true_and, BitVec.getLsbD_zero] at bit
  · intro bits
    apply BitVec.eq_of_getLsbD_eq
    intro i inside
    rw [BitVec.getLsbD_and, BitVec.getLsbD_zero]
    cases set : m.getLsbD i with
    | false => exact Bool.false_and _
    | true => rw [bits i inside set, Bool.and_false]

theorem among_minus_iff : Among m (v &&& ~~~m') ↔ Among m v ∧ m' &&& m = 0#w := by
  rw [among_iff, among_iff, disjoint_iff, ← forall₂_and]
  apply forall₂_congr
  intro i inside
  rw [BitVec.getLsbD_and, BitVec.getLsbD_not]
  cases m.getLsbD i <;> cases v.getLsbD i <;> cases m'.getLsbD i <;> simp [inside]

theorem Among.or (first : Among m v) (second : Among m' v) : Among (m ||| m') v := by
  rw [among_iff] at *
  intro i inside set
  rw [BitVec.getLsbD_or] at set
  rcases Bool.or_eq_true_iff.mp set with set | set
  · exact first i inside set
  · exact second i inside set

/-- What a contained mask leaves of a word makes up the word with it. -/
theorem Among.union (among : Among m v) : m ||| (v &&& ~~~m) = v := by
  apply BitVec.eq_of_getLsbD_eq
  intro i inside
  have bit := among_iff.mp among i inside
  rw [BitVec.getLsbD_or, BitVec.getLsbD_and, BitVec.getLsbD_not]
  cases set : m.getLsbD i with
  | false => simp [inside]
  | true => simp [bit set]

theorem Among.minus (among : Among m m') : (v &&& ~~~m') &&& m = 0#w := by
  rw [disjoint_iff]
  intro i inside set
  rw [BitVec.getLsbD_and, BitVec.getLsbD_not, Bool.and_eq_true_iff] at set
  cases bit : m.getLsbD i with
  | false => rfl
  | true =>
    rw [among_iff.mp among i inside bit] at set
    simp at set

theorem minus_minus : (v &&& ~~~m) &&& ~~~m' = v &&& ~~~(m ||| m') := by
  rw [BitVec.not_or, BitVec.and_assoc]

end Among

variable (mask : α → BitVec w)

/-- The items whose masks are contained in what those taken before leave of the word. -/
def taken (v : BitVec w) : List α → List α
  | [] => []
  | item :: rest => if Among (mask item) v then item :: taken (v &&& ~~~mask item) rest else taken v rest

def union (items : List α) : BitVec w := items.foldr (fun item rest => mask item ||| rest) 0#w

/-- What the masks taken leave of the word. -/
def residue (v : BitVec w) (items : List α) : BitVec w := v &&& ~~~union mask (taken mask v items)

section Taken

variable {mask : α → BitVec w} {v : BitVec w} {item : α} {items more : List α}

theorem residue_nil : residue mask v [] = v := by
  show v &&& ~~~0#w = v
  rw [BitVec.not_zero, BitVec.and_allOnes]

theorem taken_among (contained : Among (mask item) v) :
    taken mask v (item :: items) = item :: taken mask (v &&& ~~~mask item) items := if_pos contained

theorem taken_passed (other : ¬ Among (mask item) v) : taken mask v (item :: items) = taken mask v items := if_neg other

theorem residue_among (contained : Among (mask item) v) :
    residue mask v (item :: items) = residue mask (v &&& ~~~mask item) items := by
  rw [residue, taken_among contained, residue, minus_minus]
  rfl

theorem residue_passed (other : ¬ Among (mask item) v) : residue mask v (item :: items) = residue mask v items := by
  rw [residue, taken_passed other, residue]

/-- What is taken of a longer list goes on with what the items so far leave. -/
theorem taken_append : taken mask v (items ++ more) = taken mask v items ++ taken mask (residue mask v items) more := by
  induction items generalizing v with
  | nil => rw [residue_nil]; rfl
  | cons item rest ih =>
    rw [List.cons_append]
    by_cases contained : Among (mask item) v
    · rw [taken_among contained, taken_among contained, residue_among contained, ih, List.cons_append]
    · rw [taken_passed contained, taken_passed contained, residue_passed contained, ih]

theorem taken_sublist : (taken mask v items).Sublist items := by
  induction items generalizing v with
  | nil => exact .slnil
  | cons item rest ih =>
    by_cases contained : Among (mask item) v
    · rw [taken_among contained]
      exact ih.cons_cons item
    · rw [taken_passed contained]
      exact ih.cons item

/-- An item is taken at its place if what those taken before leave of the word contains its mask. -/
theorem taken_at {before after : List α} : ∃ later : List α, later.Sublist after ∧
    taken mask v (before ++ item :: after) =
      taken mask v before ++ (if Among (mask item) (residue mask v before) then [item] else []) ++ later := by
  by_cases contained : Among (mask item) (residue mask v before)
  · refine ⟨taken mask (residue mask v before &&& ~~~mask item) after, taken_sublist, ?_⟩
    rw [taken_append, taken_among contained, if_pos contained, List.append_assoc]
    rfl
  · refine ⟨taken mask (residue mask v before) after, taken_sublist, ?_⟩
    rw [taken_append, taken_passed contained, if_neg contained, List.append_nil]

theorem among_of_taken : ∀ item ∈ taken mask v items, Among (mask item) v := by
  induction items generalizing v with
  | nil =>
    intro item member
    cases member
  | cons first rest ih =>
    by_cases contained : Among (mask first) v
    · rw [taken_among contained, List.forall_mem_cons]
      exact ⟨contained, fun item member => (among_minus_iff.mp (ih item member)).1⟩
    · rw [taken_passed contained]
      exact ih

theorem taken_pairwise : (taken mask v items).Pairwise fun first second => mask first &&& mask second = 0#w := by
  induction items generalizing v with
  | nil => exact .nil
  | cons first rest ih =>
    by_cases contained : Among (mask first) v
    · rw [taken_among contained]
      exact .cons (fun item member => (among_minus_iff.mp (among_of_taken item member)).2) ih
    · rw [taken_passed contained]
      exact ih

theorem among_union : ∀ item ∈ items, Among (mask item) (union mask items) := by
  intro item member
  rw [among_iff]
  intro i inside set
  induction items with
  | nil => cases member
  | cons first rest ih =>
    show (mask first ||| union mask rest).getLsbD i = true
    rw [BitVec.getLsbD_or, Bool.or_eq_true_iff]
    rcases List.mem_cons.mp member with rfl | later
    · exact .inl set
    · exact .inr (ih later)

theorem union_among (contained : ∀ item ∈ items, Among (mask item) v) : Among (union mask items) v := by
  induction items with
  | nil => exact BitVec.and_zero
  | cons item rest ih =>
    obtain ⟨first, later⟩ := List.forall_mem_cons.mp contained
    exact first.or (ih later)

/-- The masks taken and the residue make up the word. -/
theorem union_residue : union mask (taken mask v items) ||| residue mask v items = v :=
  (union_among among_of_taken).union

theorem residue_disjoint : ∀ item ∈ taken mask v items, residue mask v items &&& mask item = 0#w :=
  fun item member => (among_union item member).minus

/-- Of masks that are pairwise disjoint those that the word contains are taken. -/
theorem taken_of_pairwise (apart : items.Pairwise fun first second => mask first &&& mask second = 0#w) :
    taken mask v items = items.filter fun item => Among (mask item) v := by
  induction items generalizing v with
  | nil => rfl
  | cons item rest ih =>
    obtain ⟨first, later⟩ := List.pairwise_cons.mp apart
    by_cases contained : Among (mask item) v
    · have head : decide (Among (mask item) v) = true := decide_eq_true contained
      have tail : rest.filter (fun other => Among (mask other) (v &&& ~~~mask item)) = rest.filter fun other => Among (mask other) v := by
        apply List.filter_congr
        intro other member
        rw [decide_eq_decide, among_minus_iff]
        exact and_iff_left (first other member)
      rw [taken_among contained, ih later, tail, List.filter_cons, if_pos head]
    · have head : ¬ decide (Among (mask item) v) = true := by rwa [decide_eq_true_iff]
      rw [taken_passed contained, ih later, List.filter_cons, if_neg head]

theorem union_perm (perm : items.Perm more) : union mask items = union mask more := by
  apply perm.foldr_eq'
  intro first _ second _ rest
  rw [← BitVec.or_assoc, ← BitVec.or_assoc, BitVec.or_comm (mask first)]

variable (apart : items.Pairwise fun first second => mask first &&& mask second = 0#w) (perm : items.Perm more)
include apart perm

theorem taken_perm : (taken mask v items).Perm (taken mask v more) := by
  have apart' : more.Pairwise fun first second => mask first &&& mask second = 0#w := by
    refine (perm.pairwise_iff ?_).mp apart
    intro first second disjoint
    rwa [BitVec.and_comm]
  rw [taken_of_pairwise apart, taken_of_pairwise apart']
  exact perm.filter _

theorem residue_perm : residue mask v items = residue mask v more := by
  rw [residue, residue, union_perm (taken_perm apart perm)]

end Taken

end Machine
