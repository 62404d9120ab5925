import Pantry.Driver.Queue

namespace Driver

open Machine Panwrap Decoder Program

abbrev Delivery : Type := BitVec 32 × MaliJdAtomV2 32

def Event.deliveries : Event → List Delivery
  | .jobSubmit fd atoms => atoms.map fun atom => (fd, atom)
  | _ => []

def deliveries (out : List Event) : List Delivery := out.flatMap Event.deliveries

def deliveriesOf (labels : List (QueueCall × List Event)) : List Delivery :=
  labels.flatMap fun label => deliveries label.2

def QueueCall.fd : QueueCall → BitVec 32
  | .submit fd _ => fd
  | .flush fd => fd

def QueueCall.request? : QueueCall → Option Delivery
  | .submit fd atom => some (fd, atom)
  | .flush _ => none

def requestsOf (labels : List (QueueCall × List Event)) : List Delivery :=
  labels.filterMap fun label => label.1.request?

/-- Every atom that reached the kernel did so on the device it was submitted to. The kernel gets the atoms
    in the order they were submitted in. -/
def Attributed (labels : List (QueueCall × List Event)) : Prop := deliveriesOf labels <+: requestsOf labels

/-- Whichever call sends the queue names the device of each atom in it; `fds` are those of the atoms queued. -/
def Undivided (fds : List (BitVec 32)) : List QueueCall → Prop
  | [] => True
  | .submit fd _ :: calls =>
    if fds.length + 1 = atomQueueMax then (∀ other ∈ fds, other = fd) ∧ Undivided [] calls
    else Undivided (fds ++ [fd]) calls
  | .flush fd :: calls => (∀ other ∈ fds, other = fd) ∧ Undivided [] calls

section Retag

variable {owed : List Delivery} {fd : BitVec 32}

theorem retag_eq_iff : (owed.map Prod.snd).map (fun atom => (fd, atom)) = owed ↔ ∀ other ∈ owed.map Prod.fst, other = fd := by
  rw [List.map_map]
  constructor
  · intro same other member
    obtain ⟨delivery, present, rfl⟩ := List.mem_map.mp member
    rw [← same] at present
    obtain ⟨_, -, rfl⟩ := List.mem_map.mp present
    rfl
  · intro own
    have each : owed.map (fun delivery => (fd, delivery.2)) = owed.map id := by
      apply List.map_congr_left
      intro delivery present
      exact Prod.ext (own _ (List.mem_map_of_mem present)).symm rfl
    exact each.trans (List.map_id owed)

theorem sent_prefix_iff {sent asked : List Delivery} :
    (owed.map Prod.snd).map (fun atom => (fd, atom)) ++ sent <+: owed ++ asked ↔
      (∀ other ∈ owed.map Prod.fst, other = fd) ∧ sent <+: asked := by
  rw [← retag_eq_iff]
  have length : ((owed.map Prod.snd).map fun atom => (fd, atom)).length = owed.length := by
    rw [List.length_map, List.length_map]
  constructor
  · rintro ⟨rest, whole⟩
    rw [List.append_assoc] at whole
    obtain ⟨same, tail⟩ := List.append_inj whole length
    exact ⟨same, rest, tail⟩
  · rintro ⟨same, rest, rfl⟩
    exact ⟨rest, by rw [same, List.append_assoc]⟩

end Retag

section Specs

variable {kernel : Kernel} {fd : BitVec 32} {d d' : State} {out : List Event} {call : QueueCall}

def Event.On (fd : BitVec 32) : Event → Prop
  | .jobSubmit device _ => device = fd
  | _ => True

theorem emits_badIoctl {α : Type} {request : BitVec 32} {call : Nat} :
    Emits (Event.On fd) (badIoctl kernel request call : Drive α) := by
  unfold badIoctl printf
  exact Emits.bind (emits_one trivial) fun _ => emits_fail _

theorem emits_flushJobQueue : Emits (Event.On fd) (flushJobQueue kernel fd) := by
  unfold flushJobQueue ioctlJobSubmit
  refine Emits.bind emits_get fun d => ?_
  split
  · refine Emits.bind (Emits.bind emits_get fun d' => ?_) fun _ => emits_modify _
    refine Emits.bind (emits_one rfl) fun _ => Emits.bind (emits_modify _) fun _ => ?_
    split
    · exact emits_pure ()
    · exact emits_badIoctl
  · exact emits_one trivial

theorem emits_submitJob {atom : MaliJdAtomV2 32} : Emits (Event.On fd) (submitJob kernel fd atom) := by
  unfold submitJob
  refine Emits.bind (emits_one trivial) fun _ => Emits.bind emits_get fun d => ?_
  split
  · exact Emits.bind (emits_modify _) fun _ => emits_flushJobQueue.whenever
  · exact emits_fail _

theorem emits_perform : Emits (Event.On call.fd) (call.perform kernel) := by
  cases call with
  | submit fd atom => exact emits_submitJob
  | flush fd => exact emits_flushJobQueue

theorem deliveries_on (device : ∀ event ∈ out, event.On fd) :
    deliveries out = (batches out).flatten.map fun atom => (fd, atom) := by
  induction out with
  | nil => rfl
  | cons event rest ih =>
    obtain ⟨first, others⟩ := List.forall_mem_cons.mp device
    have later := ih others
    unfold deliveries at later ⊢
    rw [List.flatMap_cons, later]
    cases event with
    | jobSubmit other atoms =>
      have same : other = fd := first
      rw [same]
      exact (List.map_append ..).symm
    | print | memAlloc | mmap64 | submitted => rfl

theorem deliveries_step (step : QueueStep kernel d (call, out) d') :
    deliveries out = (batches out).flatten.map fun atom => (call.fd, atom) := by
  apply deliveries_on
  intro event member
  have emits : Emits (Event.On call.fd) (call.perform kernel) := emits_perform
  apply emits d event
  rwa [Runs.out_eq step]

end Specs

section Runs

variable {kernel : Kernel} {d d' : State} {labels : List (QueueCall × List Event)}

theorem attributed_from (run : Run (QueueStep kernel) d labels d') {owed : List Delivery}
    (holds : d.queued = owed.map Prod.snd) :
    deliveriesOf labels <+: owed ++ requestsOf labels ↔ Undivided (owed.map Prod.fst) (labels.map Prod.fst) := by
  induction run generalizing owed with
  | nil => exact iff_of_true List.nil_prefix trivial
  | @cons d d₁ d' label labels step _ ih =>
    obtain ⟨call, out⟩ := label
    have first : deliveriesOf ((call, out) :: labels) = deliveries out ++ deliveriesOf labels := List.flatMap_cons ..
    rw [first, List.map_cons]
    cases call with
    | flush fd =>
      obtain ⟨sent, -, empty, -⟩ := flushJobQueue_after out () d₁ step
      have all : deliveries out = (owed.map Prod.snd).map fun atom => (fd, atom) := by
        rw [deliveries_step step, sent, flatten_flushed, holds]
        rfl
      rw [all, Undivided]
      have none : d₁.queued = ([] : List Delivery).map Prod.snd := empty
      exact sent_prefix_iff.trans (and_congr_right fun _ => ih none)
    | submit fd atom =>
      obtain ⟨-, takes, -⟩ := submitJob_after out () d₁ step
      have asked : requestsOf ((.submit fd atom, out) :: labels) = (fd, atom) :: requestsOf labels := rfl
      have more : d.queued ++ [atom] = (owed ++ [(fd, atom)]).map Prod.snd := by
        rw [List.map_append, holds]
        rfl
      have length : (owed.map Prod.fst).length = d.queued.length := by rw [holds, List.length_map, List.length_map]
      have all := deliveries_step step
      rw [asked, List.append_cons, Undivided, length]
      generalize batches out = sent at takes all
      generalize later : d₁.queued = queue at takes
      cases takes with
      | more room =>
        have none : deliveries out = [] := all
        rw [none, if_neg (by omega), List.nil_append, ih (later.trans more), List.map_append]
        rfl
      | full full =>
        have whole : deliveries out = ((owed ++ [(fd, atom)]).map Prod.snd).map fun atom => (fd, atom) := by
          rw [all, List.flatten_singleton, more]
          rfl
        have own : (∀ other ∈ (owed ++ [(fd, atom)]).map Prod.fst, other = fd) ↔ ∀ other ∈ owed.map Prod.fst, other = fd := by
          rw [List.map_append, List.forall_mem_append]
          exact and_iff_left (List.forall_mem_singleton.mpr rfl)
        rw [whole, if_pos full, ← own]
        have none : d₁.queued = ([] : List Delivery).map Prod.snd := later
        exact sent_prefix_iff.trans (and_congr_right fun _ => ih none)

/-- In a run from an empty queue every atom reaches the device it was submitted to exactly if whichever call
    sends the queue names the device of each atom in it. -/
theorem attributed_iff (empty : d.atomQueueSize = 0) (run : Run (QueueStep kernel) d labels d') :
    Attributed labels ↔ Undivided [] (labels.map Prod.fst) := by
  have none : d.queued = ([] : List Delivery).map Prod.snd := queued_empty empty
  exact attributed_from run none

end Runs

theorem two_devices_attributed :
    let labels : List (QueueCall × List Event) :=
      [(.submit 3 blankAtom, [.submitted 3 blankAtom]), (.flush 3, [.jobSubmit 3 [blankAtom]]),
        (.submit 4 blankAtom, [.submitted 4 blankAtom]), (.flush 4, [.jobSubmit 4 [blankAtom]])]
    Attributed labels := by
  intro labels
  have run : ∃ d', Run (QueueStep grantingKernel) (.start fun _ => 0#8) labels d' :=
    ⟨_, .cons rfl (.cons rfl (.cons rfl (.single rfl)))⟩
  obtain ⟨d', run⟩ := run
  apply (attributed_iff rfl run).mpr
  exact ⟨List.forall_mem_singleton.mpr rfl, List.forall_mem_singleton.mpr rfl, trivial⟩

theorem flushed_on_another_device :
    let labels : List (QueueCall × List Event) :=
      [(.submit 3 blankAtom, [.submitted 3 blankAtom]), (.flush 4, [.jobSubmit 4 [blankAtom]])]
    (∃ d', Run (QueueStep grantingKernel) (.start fun _ => 0#8) labels d') ∧ ¬ Attributed labels := by
  intro labels
  refine ⟨⟨_, .cons rfl (.single rfl)⟩, ?_⟩
  rintro ⟨rest, whole⟩
  have same : ((4 : BitVec 32), blankAtom) = (3, blankAtom) := List.head_eq_of_cons_eq whole
  exact absurd (congrArg Prod.fst same) (by decide)

end Driver
