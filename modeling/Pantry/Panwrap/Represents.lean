import Pantry.Panwrap.Nodes

namespace Panwrap

open Machine

variable {w : Nat} {α : Type} {heads : Heads w} {s : Nodes w} {p : BitVec w} {E : NodeFault → Prop}

section Access

variable {move : Nodes w → Nodes w} {f : Nodes w → α} {Q : α → Nodes w → Prop} {R : Unit → Nodes w → Prop}

theorem safe_touch (usable : s.fault? heads p = none) : (touch heads p move f).Safe E s Q ↔ Q (f s) (move s) := by
  simp only [touch, Script.safe_access, usable, ↓reduceIte]
  exact Iff.rfl

theorem safe_load (usable : s.fault? heads p = none) : (load heads p f).Safe E s Q ↔ Q (f s) s := safe_touch usable

theorem safe_store (usable : s.fault? heads p = none) : (store heads p move).Safe E s R ↔ R () (move s) :=
  safe_touch usable

end Access

section List

variable {Q : Unit → Nodes w → Prop} {entry before after head : BitVec w}

theorem safe_listInit (usable : s.fault? heads entry = none) :
    (listInit heads entry).Safe E s Q ↔ Q () { s with links := s.links.alone entry } := by
  unfold listInit
  rw [Script.safe_bind, safe_store usable, safe_store (by exact usable)]
  rfl

theorem safe_listAddBetween (node : s.fault? heads entry = none) (left : s.fault? heads before = none)
    (right : s.fault? heads after = none) :
    (listAddBetween heads entry before after).Safe E s Q ↔ Q () { s with links := s.links.insert entry before after } := by
  unfold listAddBetween
  rw [Script.safe_bind, safe_store right, Script.safe_bind, safe_store (by exact node), Script.safe_bind,
    safe_store (by exact node), safe_store (by exact left)]
  rfl

theorem safe_listAdd (node : s.fault? heads entry = none) (first : s.fault? heads head = none)
    (next : s.fault? heads (s.links.next head) = none) :
    (listAdd heads entry head).Safe E s Q ↔
      Q () { s with links := s.links.insert entry head (s.links.next head) } := by
  unfold listAdd
  rw [Script.safe_bind, safe_load first, safe_listAddBetween node first next]

theorem safe_listDel (node : s.fault? heads entry = none) (left : s.fault? heads (s.links.prev entry) = none)
    (right : s.fault? heads (s.links.next entry) = none) :
    (listDel heads entry).Safe E s Q ↔ Q () { s with links := s.links.remove entry } := by
  unfold listDel listDelBetween
  rw [Script.safe_bind, safe_load node, Script.safe_bind, safe_load node, Script.safe_bind, Script.safe_bind,
    safe_store right, safe_store (by exact left), safe_listInit (by exact node)]
  rfl

variable {test : Nodes w → BitVec w → Bool} {R : Option (BitVec w) → Nodes w → Prop} {nodes : List (BitVec w)}

theorem safe_listRounds {a : BitVec w} {fuel : Nat} (linked : Linked s.links a nodes head) (outside : head ∉ nodes)
    (usable : ∀ node ∈ nodes, s.fault? heads node = none) (enough : nodes.length < fuel) :
    (listRounds heads head test fuel (s.links.next a)).Safe E s R ↔ R (nodes.find? (test s)) s := by
  induction nodes generalizing a fuel with
  | nil =>
    obtain ⟨fuel, rfl⟩ := Nat.exists_eq_succ_of_ne_zero (Nat.ne_of_gt enough)
    rw [linked.1, listRounds, if_pos rfl]
    exact Iff.rfl
  | cons node nodes ih =>
    obtain ⟨fuel, rfl⟩ := Nat.exists_eq_succ_of_ne_zero (Nat.ne_of_gt (Nat.zero_lt_of_lt enough))
    obtain ⟨other, outside⟩ := List.ne_and_not_mem_of_not_mem_cons outside
    obtain ⟨first, rest⟩ := List.forall_mem_cons.mp usable
    rw [linked.1.1, listRounds, if_neg other.symm, Script.safe_bind, safe_load first, List.find?_cons]
    cases hit : test s node with
    | true => exact Iff.rfl
    | false =>
      rw [if_neg Bool.false_ne_true, Script.safe_bind, safe_load first]
      exact ih linked.2 outside rest (Nat.lt_of_succ_lt_succ enough)

/-- The nodes of a ring and its head are distinct addresses. -/
theorem ring_length {links : Links (BitVec w)} (ring : Ring links head nodes) : nodes.length < 2 ^ w := by
  have apart : ((head :: nodes).map BitVec.toNat).Nodup :=
    ring.distinct.map fun _ _ same => BitVec.eq_of_toNat_eq same
  have inside : (head :: nodes).map BitVec.toNat ⊆ List.range (2 ^ w) := by
    intro n member
    obtain ⟨node, -, rfl⟩ := List.mem_map.mp member
    exact List.mem_range.mpr node.isLt
  have few := (apart.subperm inside).length_le
  rwa [List.length_map, List.length_range] at few

theorem safe_listForEachEntry (ring : Ring s.links head nodes) (first : s.fault? heads head = none)
    (usable : ∀ node ∈ nodes, s.fault? heads node = none) :
    (listForEachEntry heads head test).Safe E s R ↔ R (nodes.find? (test s)) s := by
  unfold listForEachEntry
  rw [Script.safe_bind, safe_load first, safe_listRounds ring.linked ring.head_not_mem usable (ring_length ring)]

end List

/-- The nodes `as` and `ms` hold the lists of the tracker `t`. Besides them the nodes `spare` are
    allocated, and nothing else. -/
structure Represents (heads : Heads w) (s : Nodes w) (as ms spare : List (BitVec w)) (t : Tracker w) : Prop where
  maliFd : s.maliFd = t.maliFd
  nodes : Shared s.links s.live heads.allocations as heads.mmaps ms spare
  null : s.live 0#w = false
  allocated : as.map s.allocated = t.allocations
  mapped : ms.map s.mapped = t.mmaps

theorem usable_heads : s.fault? heads heads.allocations = none ∧ s.fault? heads heads.mmaps = none := by
  simp [Nodes.fault?, heads.allocationsNonnull, heads.mmapsNonnull]

theorem safe_null {move : Nodes w → Nodes w} {f : Nodes w → α} {Q : α → Nodes w → Prop} (null : p = 0#w) :
    (touch heads p move f).Safe E s Q ↔ E .nullDeref := by
  have faults : s.fault? heads p = some .nullDeref := if_pos null
  simp only [touch, Script.safe_access, faults]
  exact Iff.rfl

namespace Represents

variable {as ms spare : List (BitVec w)} {t : Tracker w}

section Reading

variable (rep : Represents heads s as ms spare t)
include rep

theorem usable_live (live : s.live p = true) : s.fault? heads p = none := by
  have nonnull : p ≠ 0#w := by
    intro null
    rw [null, rep.null] at live
    cases live
  simp [Nodes.fault?, nonnull, live]

theorem usable_allocation (member : p ∈ as) : s.fault? heads p = none :=
  rep.usable_live ((rep.nodes.live p).mpr (.inl member))

theorem usable_mapping (member : p ∈ ms) : s.fault? heads p = none :=
  rep.usable_live ((rep.nodes.live p).mpr (.inr (.inl member)))

theorem usable_spare (member : p ∈ spare) : s.fault? heads p = none :=
  rep.usable_live ((rep.nodes.live p).mpr (.inr (.inr member)))

theorem usable_allocations (member : p ∈ heads.allocations :: as) : s.fault? heads p = none := by
  rcases List.mem_cons.mp member with rfl | member
  · exact usable_heads.1
  · exact rep.usable_allocation member

theorem usable_mmaps (member : p ∈ heads.mmaps :: ms) : s.fault? heads p = none := by
  rcases List.mem_cons.mp member with rfl | member
  · exact usable_heads.2
  · exact rep.usable_mapping member

/-- Searching the nodes by what they hold finds what searching the list does. -/
theorem find_mapped (test : MappedMemory w → Bool) :
    (ms.find? fun p => test (s.mapped p)).map s.mapped = t.mmaps.find? test := by
  rw [← rep.mapped, List.find?_map]
  rfl

theorem find_allocated (test : AllocatedMemory → Bool) :
    (as.find? fun p => test (s.allocated p)).map s.allocated = t.allocations.find? test := by
  rw [← rep.allocated, List.find?_map]
  rfl

/-- A lookup returns the newest entry that passes the test and leaves the nodes as they are. -/
theorem findMmaps {test : MappedMemory w → Bool} {Q : Option (MappedMemory w) → Nodes w → Prop} :
    (findMmaps heads test).Safe E s Q ↔ Q (t.mmaps.find? test) s := by
  rw [← rep.find_mapped test]
  unfold Panwrap.findMmaps
  rw [Script.safe_bind, safe_listForEachEntry rep.nodes.right usable_heads.2 fun _ member => rep.usable_mapping member]
  cases search : ms.find? fun p => test (s.mapped p) with
  | none => exact Iff.rfl
  | some pos =>
    dsimp only
    rw [Script.safe_bind, safe_load (rep.usable_mapping (List.mem_of_find?_eq_some search))]
    exact Iff.rfl

theorem lookups {β : Type} (q : Query (MappedMemory w) β) {Q : β → Nodes w → Prop} :
    (Panwrap.lookups heads q).Safe E s Q ↔ Q (q.eval t.mmaps) s := by
  induction q with
  | answer value => exact Iff.rfl
  | find test rest ih =>
    rw [Panwrap.lookups, Script.safe_bind, rep.findMmaps]
    exact ih _

end Reading

section Changing

variable {new pos : BitVec w}

theorem allocate (rep : Represents heads s as ms spare t) (nonnull : new ≠ 0#w) (dead : s.live new = false)
    (notAllocations : new ≠ heads.allocations) (notMmaps : new ≠ heads.mmaps) :
    Represents heads (s.allocate new) as ms (new :: spare) t := by
  have live : (s.allocate new).live = Function.update s.live new true := if_neg nonnull
  refine { rep with nodes := ?_, null := ?_ }
  · rw [live]
    exact rep.nodes.allocate dead notAllocations notMmaps
  · rw [live]
    exact (Function.update_of_ne nonnull.symm ..).trans rep.null

theorem setAllocated (rep : Represents heads s as ms spare t) (member : new ∈ spare) (value : AllocatedMemory) :
    Represents heads (s.setAllocated new value) as ms spare t := by
  refine { rep with allocated := ?_ }
  rw [← rep.allocated]
  apply List.map_congr_left
  intro p inside
  apply Function.update_of_ne
  intro same
  exact (rep.nodes.outside new member).1 (same ▸ List.mem_cons_of_mem _ inside)

theorem setMapped (rep : Represents heads s as ms spare t) (member : new ∈ spare) (value : MappedMemory w) :
    Represents heads (s.setMapped new value) as ms spare t := by
  refine { rep with mapped := ?_ }
  rw [← rep.mapped]
  apply List.map_congr_left
  intro p inside
  apply Function.update_of_ne
  intro same
  exact (rep.nodes.outside new member).2 (same ▸ List.mem_cons_of_mem _ inside)

theorem linkAllocation (rep : Represents heads s as ms (new :: spare) t) :
    Represents heads { s with links := s.links.insert new heads.allocations (s.links.next heads.allocations) }
      (new :: as) ms spare (listAddAllocation (s.allocated new) t) :=
  { rep with
    nodes := rep.nodes.link
    allocated := congrArg (s.allocated new :: ·) rep.allocated }

theorem linkMapping (rep : Represents heads s as ms (new :: spare) t) :
    Represents heads { s with links := s.links.insert new heads.mmaps (s.links.next heads.mmaps) }
      as (new :: ms) spare (listAddMapping (s.mapped new) t) :=
  { rep with
    nodes := rep.nodes.swap.link.swap
    mapped := congrArg (s.mapped new :: ·) rep.mapped }

theorem unlinkAllocation (rep : Represents heads s as ms spare t) (member : pos ∈ as) :
    Represents heads { s with links := s.links.remove pos } (as.erase pos) ms (pos :: spare)
      { t with allocations := (as.erase pos).map s.allocated } :=
  { rep with
    nodes := rep.nodes.unlink member
    allocated := rfl }

theorem unlinkMapping (rep : Represents heads s as ms spare t) (member : pos ∈ ms) :
    Represents heads { s with links := s.links.remove pos } as (ms.erase pos) (pos :: spare)
      { t with mmaps := (ms.erase pos).map s.mapped } :=
  { rep with
    nodes := (rep.nodes.swap.unlink member).swap
    mapped := rfl }

theorem release (rep : Represents heads s as ms (pos :: spare) t) :
    Represents heads (s.release pos) as ms spare t := by
  refine { rep with nodes := rep.nodes.release, null := ?_ }
  by_cases same : 0#w = pos
  · rw [same]
    exact Function.update_self ..
  · exact (Function.update_of_ne same ..).trans rep.null

end Changing

end Represents

end Panwrap
