import Mathlib.Tactic.Common
import Mathlib.Data.List.Nodup
import Mathlib.Logic.Function.Basic

/-! Circular doubly linked lists, the links of all of them kept in one place. -/

namespace Machine

structure Links (α : Type) where
  next : α → α
  prev : α → α

variable {α : Type} {links links' : Links α} {a b c head node : α} {nodes first second : List α}

def Linked (links : Links α) : α → List α → α → Prop
  | a, [], b => links.next a = b ∧ links.prev b = a
  | a, node :: nodes, b => (links.next a = node ∧ links.prev node = a) ∧ Linked links node nodes b

structure Ring (links : Links α) (head : α) (nodes : List α) : Prop where
  linked : Linked links head nodes head
  distinct : (head :: nodes).Nodup

section Linked

theorem linked_append : Linked links a (first ++ c :: second) b ↔ Linked links a first c ∧ Linked links c second b := by
  induction first generalizing a with
  | nil => rfl
  | cons node first ih =>
    rw [List.cons_append, Linked, ih, Linked]
    exact and_assoc.symm

theorem Linked.congr (linked : Linked links a nodes b) (next : ∀ x ∈ a :: nodes, links'.next x = links.next x)
    (prev : ∀ x ∈ nodes ++ [b], links'.prev x = links.prev x) : Linked links' a nodes b := by
  induction nodes generalizing a with
  | nil =>
    obtain ⟨forth, back⟩ := linked
    exact ⟨(next a List.mem_cons_self).trans forth, (prev b List.mem_cons_self).trans back⟩
  | cons node nodes ih =>
    obtain ⟨⟨forth, back⟩, rest⟩ := linked
    refine ⟨⟨(next a List.mem_cons_self).trans forth, (prev node List.mem_cons_self).trans back⟩, ?_⟩
    exact ih rest (fun x member => next x (List.mem_cons_of_mem a member))
      (fun x member => prev x (List.mem_cons_of_mem node member))

theorem Linked.next_mem (linked : Linked links a nodes b) : links.next a ∈ nodes ++ [b] := by
  cases nodes with
  | nil =>
    rw [linked.1]
    exact List.mem_singleton_self b
  | cons node nodes =>
    rw [linked.1.1]
    exact List.mem_cons_self

theorem Linked.prev_mem (linked : Linked links a nodes b) : links.prev b ∈ a :: nodes := by
  induction nodes generalizing a with
  | nil =>
    rw [linked.2]
    exact List.mem_singleton_self a
  | cons node nodes ih => exact List.mem_cons_of_mem a (ih linked.2)

end Linked

theorem Ring.head_not_mem (ring : Ring links head nodes) : head ∉ nodes := (List.nodup_cons.mp ring.distinct).1

theorem Ring.nodup (ring : Ring links head nodes) : nodes.Nodup := (List.nodup_cons.mp ring.distinct).2

theorem Ring.congr (ring : Ring links head nodes) (next : ∀ x ∈ head :: nodes, links'.next x = links.next x)
    (prev : ∀ x ∈ head :: nodes, links'.prev x = links.prev x) : Ring links' head nodes where
  linked := ring.linked.congr next fun x member => prev x (by
    rcases List.mem_append.mp member with inside | last
    · exact List.mem_cons_of_mem head inside
    · rw [List.mem_singleton.mp last]
      exact List.mem_cons_self)
  distinct := ring.distinct

theorem Ring.first_mem (ring : Ring links head nodes) : links.next head ∈ head :: nodes := by
  rcases List.mem_append.mp ring.linked.next_mem with inside | last
  · exact List.mem_cons_of_mem head inside
  · rw [List.mem_singleton.mp last]
    exact List.mem_cons_self

theorem Ring.prev_mem (ring : Ring links head nodes) (member : node ∈ nodes) : links.prev node ∈ head :: nodes := by
  obtain ⟨first, second, rfl⟩ := List.append_of_mem member
  have before := (linked_append.mp ring.linked).1.prev_mem
  rw [← List.cons_append]
  exact List.mem_append_left _ before

theorem Ring.next_mem (ring : Ring links head nodes) (member : node ∈ nodes) : links.next node ∈ head :: nodes := by
  obtain ⟨first, second, rfl⟩ := List.append_of_mem member
  rcases List.mem_append.mp (linked_append.mp ring.linked).2.next_mem with late | last
  · exact List.mem_cons_of_mem _ (List.mem_append_right _ (List.mem_cons_of_mem node late))
  · rw [List.mem_singleton.mp last]
    exact List.mem_cons_self

namespace Links

variable [DecidableEq α]

def setNext (links : Links α) (node target : α) : Links α :=
  { links with next := Function.update links.next node target }

def setPrev (links : Links α) (node target : α) : Links α :=
  { links with prev := Function.update links.prev node target }

/-- Link a node to itself. -/
def alone (links : Links α) (node : α) : Links α := (links.setPrev node node).setNext node node

/-- Put a node between two others. -/
def insert (links : Links α) (node before after : α) : Links α :=
  (((links.setPrev after node).setNext node after).setPrev node before).setNext before node

def join (links : Links α) (before after : α) : Links α := (links.setPrev after before).setNext before after

/-- Take a node out of its ring and leave it alone. -/
def remove (links : Links α) (node : α) : Links α := (links.join (links.prev node) (links.next node)).alone node

variable {x before after target : α}

@[simp] theorem setNext_next_self : (links.setNext node target).next node = target := Function.update_self ..

@[simp] theorem setNext_next_other (other : x ≠ node) : (links.setNext node target).next x = links.next x :=
  Function.update_of_ne other ..

@[simp] theorem setNext_prev : (links.setNext node target).prev = links.prev := rfl

@[simp] theorem setPrev_prev_self : (links.setPrev node target).prev node = target := Function.update_self ..

@[simp] theorem setPrev_prev_other (other : x ≠ node) : (links.setPrev node target).prev x = links.prev x :=
  Function.update_of_ne other ..

@[simp] theorem setPrev_next : (links.setPrev node target).next = links.next := rfl

theorem insert_next_other (notNode : x ≠ node) (notBefore : x ≠ before) :
    (links.insert node before after).next x = links.next x := by
  simp only [insert, setNext_next_other notBefore, setPrev_next, setNext_next_other notNode]

theorem insert_prev_other (notNode : x ≠ node) (notAfter : x ≠ after) :
    (links.insert node before after).prev x = links.prev x := by
  simp only [insert, setNext_prev, setPrev_prev_other notNode, setPrev_prev_other notAfter]

theorem join_next_other (notBefore : x ≠ before) : (links.join before after).next x = links.next x := by
  rw [join, setNext_next_other notBefore, setPrev_next]

theorem join_prev_other (notAfter : x ≠ after) : (links.join before after).prev x = links.prev x := by
  rw [join, setNext_prev, setPrev_prev_other notAfter]

theorem alone_next_other (other : x ≠ node) : (links.alone node).next x = links.next x := by
  rw [alone, setNext_next_other other, setPrev_next]

theorem alone_prev_other (other : x ≠ node) : (links.alone node).prev x = links.prev x := by
  rw [alone, setNext_prev, setPrev_prev_other other]

end Links

section Operations

variable [DecidableEq α]

theorem ring_alone : Ring (links.alone node) node [] where
  linked := ⟨Links.setNext_next_self, Links.setPrev_prev_self⟩
  distinct := List.nodup_singleton node

theorem Ring.alone (ring : Ring links head nodes) (outside : node ∉ head :: nodes) :
    Ring (links.alone node) head nodes := by
  apply ring.congr
  · intro x member
    exact Links.alone_next_other fun same => outside (same ▸ member)
  · intro x member
    exact Links.alone_prev_other fun same => outside (same ▸ member)

/-- Between the head and its successor a node becomes the first of the ring. -/
theorem Ring.insert (ring : Ring links head nodes) (outside : node ∉ head :: nodes) :
    Ring (links.insert node head (links.next head)) head (node :: nodes) := by
  obtain ⟨notHead, notInside⟩ := List.ne_and_not_mem_of_not_mem_cons outside
  have distinct : (head :: node :: nodes).Nodup :=
    (List.Perm.swap head node nodes).nodup (List.nodup_cons.mpr ⟨outside, ring.distinct⟩)
  cases nodes with
  | nil =>
    have back : links.next head = head := ring.linked.1
    refine ⟨⟨⟨?_, ?_⟩, ?_, ?_⟩, distinct⟩
    · simp [Links.insert]
    · simp [Links.insert]
    · simp [Links.insert, notHead, back]
    · simp [Links.insert, Ne.symm notHead, back]
  | cons second rest =>
    have successor : links.next head = second := ring.linked.1.1
    have notSecond : node ≠ second := fun same => notInside (same ▸ List.mem_cons_self)
    have headOutside : head ∉ second :: rest := ring.head_not_mem
    refine ⟨⟨⟨?_, ?_⟩, ⟨?_, ?_⟩, ?_⟩, distinct⟩
    · simp [Links.insert]
    · simp [Links.insert]
    · simp [Links.insert, notHead, successor]
    · simp [Links.insert, Ne.symm notSecond, successor]
    · rw [successor]
      apply ring.linked.2.congr
      · intro x member
        exact Links.insert_next_other (fun same => notInside (same ▸ member)) fun same => headOutside (same ▸ member)
      · intro x member
        have apart : x ≠ node ∧ x ≠ second := by
          rcases List.mem_append.mp member with inside | last
          · refine ⟨fun same => notInside (same ▸ List.mem_cons_of_mem second inside), ?_⟩
            exact fun same => (List.nodup_cons.mp ring.nodup).1 (same ▸ inside)
          · rw [List.mem_singleton.mp last]
            exact ⟨Ne.symm notHead, fun same => headOutside (same ▸ List.mem_cons_self)⟩
        exact Links.insert_prev_other apart.1 apart.2

theorem Ring.insert_other (ring : Ring links head nodes) (notNode : node ∉ head :: nodes) (notBefore : b ∉ head :: nodes)
    (notAfter : c ∉ head :: nodes) : Ring (links.insert node b c) head nodes := by
  apply ring.congr
  · intro x member
    exact Links.insert_next_other (fun same => notNode (same ▸ member)) fun same => notBefore (same ▸ member)
  · intro x member
    exact Links.insert_prev_other (fun same => notNode (same ▸ member)) fun same => notAfter (same ▸ member)

theorem Linked.join (left : Linked links a first c) (right : Linked links c second b)
    (forth : (a :: first ++ c :: second).Nodup) (back : (first ++ c :: second ++ [b]).Nodup) :
    Linked (links.join (links.prev c) (links.next c)) a (first ++ second) b := by
  induction first generalizing a with
  | nil =>
    obtain ⟨-, before⟩ := left
    rw [before]
    cases second with
    | nil =>
      obtain ⟨after, -⟩ := right
      rw [after]
      exact ⟨Links.setNext_next_self, Links.setPrev_prev_self⟩
    | cons d second =>
      obtain ⟨⟨after, -⟩, rest⟩ := right
      rw [after]
      refine ⟨⟨Links.setNext_next_self, Links.setPrev_prev_self⟩, ?_⟩
      have outside : a ∉ c :: d :: second := (List.nodup_cons.mp forth).1
      have later : d ∉ second ++ [b] := (List.nodup_cons.mp (List.nodup_cons.mp back).2).1
      apply rest.congr
      · intro x member
        exact Links.join_next_other fun same => outside (same ▸ List.mem_cons_of_mem c member)
      · intro x member
        exact Links.join_prev_other fun same => later (same ▸ member)
  | cons d first ih =>
    obtain ⟨⟨next, prev⟩, rest⟩ := left
    obtain ⟨outside, forth⟩ := List.nodup_cons.mp forth
    have before : links.prev c ∈ d :: first := rest.prev_mem
    have after : links.next c ∈ second ++ [b] := right.next_mem
    obtain ⟨ahead, back'⟩ := List.nodup_cons.mp back
    refine ⟨⟨?_, ?_⟩, ih rest forth back'⟩
    · rw [Links.join_next_other, next]
      exact fun same => outside (same ▸ List.mem_append_left _ before)
    · rw [Links.join_prev_other, prev]
      intro same
      apply ahead
      show d ∈ (first ++ c :: second) ++ [b]
      rw [List.append_assoc, same]
      exact List.mem_append_right first (List.mem_cons_of_mem c after)

theorem Ring.remove (ring : Ring links head nodes) (member : node ∈ nodes) :
    Ring (links.remove node) head (nodes.erase node) := by
  obtain ⟨first, second, notFirst, rfl, erased⟩ := List.exists_erase_eq member
  rw [erased]
  obtain ⟨left, right⟩ := linked_append.mp ring.linked
  have back : (first ++ node :: second ++ [head]).Nodup := by
    have turned := List.nodup_append_comm.mp (List.singleton_append ▸ ring.distinct)
    exact turned
  have joined := left.join right ring.distinct back
  have distinct : (head :: (first ++ second)).Nodup :=
    ring.distinct.sublist (((List.sublist_cons_self node second).append_left first).cons_cons head)
  have whole : Ring (links.join (links.prev node) (links.next node)) head (first ++ second) := ⟨joined, distinct⟩
  apply whole.alone
  intro inside
  rcases List.mem_cons.mp inside with rfl | inside
  · exact ring.head_not_mem (List.mem_append_right first List.mem_cons_self)
  · rcases List.mem_append.mp inside with early | late
    · exact notFirst early
    · exact (List.nodup_cons.mp (List.nodup_append.mp ring.nodup).2.1).1 late

theorem Ring.remove_other {others : List α} {other : α} (ring : Ring links head nodes) (member : node ∈ nodes)
    (apart : Ring links other others) (disjoint : List.Disjoint (head :: nodes) (other :: others)) :
    Ring (links.remove node) other others := by
  have joined : Ring (links.join (links.prev node) (links.next node)) other others := by
    apply apart.congr
    · intro x inside
      exact Links.join_next_other fun same => disjoint (ring.prev_mem member) (same ▸ inside)
    · intro x inside
      exact Links.join_prev_other fun same => disjoint (ring.next_mem member) (same ▸ inside)
  exact joined.alone fun inside => disjoint (List.mem_cons_of_mem head member) inside

end Operations

/-- Two rings and the spare nodes share out the nodes that are live. -/
structure Shared (links : Links α) (live : α → Bool) (a : α) (as : List α) (b : α) (bs : List α) (spare : List α) :
    Prop where
  left : Ring links a as
  right : Ring links b bs
  apart : List.Disjoint (a :: as) (b :: bs)
  live : ∀ x, live x = true ↔ x ∈ as ∨ x ∈ bs ∨ x ∈ spare
  spares : spare.Nodup
  outside : ∀ x ∈ spare, x ∉ a :: as ∧ x ∉ b :: bs

namespace Shared

variable {live : α → Bool} {as bs spare : List α} {x : α}

theorem swap (shared : Shared links live a as b bs spare) : Shared links live b bs a as spare where
  left := shared.right
  right := shared.left
  apart := fun _ left right => shared.apart right left
  live := fun x => (shared.live x).trans or_left_comm
  spares := shared.spares
  outside := fun x member => (shared.outside x member).symm

variable [DecidableEq α]

theorem allocate (shared : Shared links live a as b bs spare) (dead : live x = false) (notLeft : x ≠ a) (notRight : x ≠ b) :
    Shared links (Function.update live x true) a as b bs (x :: spare) := by
  have absent : x ∉ as ∧ x ∉ bs ∧ x ∉ spare := by
    have known := (shared.live x).not
    rw [dead] at known
    simpa using known
  refine { shared with live := ?_, spares := List.nodup_cons.mpr ⟨absent.2.2, shared.spares⟩, outside := ?_ }
  · intro y
    by_cases same : y = x
    · subst same
      simp
    · simp [same, shared.live y]
  · intro y member
    rcases List.mem_cons.mp member with rfl | member
    · exact ⟨List.not_mem_cons_of_ne_of_not_mem notLeft absent.1, List.not_mem_cons_of_ne_of_not_mem notRight absent.2.1⟩
    · exact shared.outside y member

theorem release (shared : Shared links live a as b bs (x :: spare)) :
    Shared links (Function.update live x false) a as b bs spare := by
  obtain ⟨single, spares⟩ := List.nodup_cons.mp shared.spares
  obtain ⟨notLeft, notRight⟩ := shared.outside x List.mem_cons_self
  refine { shared with
    live := ?_, spares := spares, outside := fun y member => shared.outside y (List.mem_cons_of_mem x member) }
  intro y
  by_cases same : y = x
  · subst same
    simp [List.not_mem_of_not_mem_cons notLeft, List.not_mem_of_not_mem_cons notRight, single]
  · simp [shared.live y, same]

theorem link (shared : Shared links live a as b bs (x :: spare)) :
    Shared (links.insert x a (links.next a)) live a (x :: as) b bs spare := by
  obtain ⟨single, spares⟩ := List.nodup_cons.mp shared.spares
  obtain ⟨notLeft, notRight⟩ := shared.outside x List.mem_cons_self
  have head : a ∉ b :: bs := fun inside => shared.apart List.mem_cons_self inside
  have next : links.next a ∉ b :: bs := fun inside => shared.apart shared.left.first_mem inside
  refine ⟨shared.left.insert notLeft, shared.right.insert_other notRight head next, ?_, ?_, spares, ?_⟩
  · intro y left right
    rcases List.mem_cons.mp left with rfl | left
    · exact head right
    · rcases List.mem_cons.mp left with rfl | left
      · exact notRight right
      · exact shared.apart (List.mem_cons_of_mem a left) right
  · intro y
    rw [shared.live y, List.mem_cons, List.mem_cons]
    tauto
  · intro y member
    obtain ⟨first, second⟩ := shared.outside y (List.mem_cons_of_mem x member)
    refine ⟨?_, second⟩
    intro inside
    rcases List.mem_cons.mp inside with rfl | inside
    · exact first List.mem_cons_self
    · rcases List.mem_cons.mp inside with rfl | inside
      · exact single member
      · exact first (List.mem_cons_of_mem a inside)

theorem unlink (shared : Shared links live a as b bs spare) (member : x ∈ as) :
    Shared (links.remove x) live a (as.erase x) b bs (x :: spare) := by
  have kept : a :: as.erase x ⊆ a :: as := List.cons_subset_cons a (List.erase_subset ..)
  have other : x ∉ b :: bs := fun inside => shared.apart (List.mem_cons_of_mem a member) inside
  refine ⟨shared.left.remove member, shared.left.remove_other member shared.right shared.apart,
    fun y left right => shared.apart (kept left) right, ?_, ?_, ?_⟩
  · intro y
    rw [shared.live y, shared.left.nodup.mem_erase_iff, List.mem_cons]
    by_cases same : y = x
    · simp [same, member]
    · simp [same]
  · refine List.nodup_cons.mpr ⟨?_, shared.spares⟩
    intro inside
    exact (shared.outside x inside).1 (List.mem_cons_of_mem a member)
  · intro y inside
    rcases List.mem_cons.mp inside with rfl | inside
    · refine ⟨?_, other⟩
      intro again
      rcases List.mem_cons.mp again with rfl | again
      · exact shared.left.head_not_mem member
      · exact (shared.left.nodup.mem_erase_iff.mp again).1 rfl
    · exact ⟨fun found => (shared.outside y inside).1 (kept found), (shared.outside y inside).2⟩

end Shared

end Machine
