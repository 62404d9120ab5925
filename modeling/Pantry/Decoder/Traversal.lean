import Pantry.Decoder.Chain

namespace Decoder

open Machine Panwrap Program

variable {w : Nat}

def Mark.descriptor? : Mark → Option (BitVec 64)
  | .descriptor addr _ => some addr
  | _ => none

def descriptors (marks : List Mark) : List (BitVec 64) := marks.filterMap Mark.descriptor?

theorem descriptors_append (first second : List Mark) :
    descriptors (first ++ second) = descriptors first ++ descriptors second := List.filterMap_append ..

/-- Following `next_job` from the descriptor at `chain` passes the ones at `path`, tracing each, and
    comes to `last`. -/
inductive Follows (env : Env w) : Proc w → BitVec 64 → List (BitVec 64) → Proc w → BitVec 64 → Prop where
  | nil (s : Proc w) (chain : BitVec 64) : Follows env s chain [] s chain
  | cons {s t u : Proc w} {chain next last : BitVec 64} {path : List (BitVec 64)} :
      NextJob env (s, chain) (t, next) → Follows env t next path u last →
      Follows env s chain (chain :: path) u last

/-- The chain ends at `last`: it is not mapped, or it is traced and names no further descriptor. -/
def ChainEnds (env : Env w) (s : Proc w) (last : BitVec 64) (tail : List (BitVec 64)) (t : Proc w) : Prop :=
  (headerOf env last = 0#w ∧ tail = [] ∧ t = s) ∨
    (headerOf env last ≠ 0#w ∧ PayloadLeaves env (headerOf env last) s (payloadOf last) t ∧
      nextJobOf env t.mem last = 0#64 ∧ tail = [last])

section Marks

variable {env : Env w} {s t : Proc w} {marks : List Mark}

theorem attributes_descriptors {v : BitVec w} (payload : v ≠ 0#w) {a : BitVec 64}
    (yields : Yields (fun n => traceAttributes env v n a) s marks () t) : descriptors marks = [] := by
  obtain ⟨out, converges, rfl⟩ := yields_iff_converges.mp yields
  apply loop_out (P := fun out => descriptors (out.filterMap Out.found) = []) _ _ converges
  · intro first second left right
    rw [List.filterMap_append, descriptors_append, left, right, List.append_nil]
  · intro a s out next t round
    have word := yields_iff_converges.mpr ⟨out, round, rfl⟩
    rcases (yields_traceAttributeWord env payload).mp word with ⟨-, ⟨-, none, -⟩ | ⟨-, one, -⟩⟩
    · rw [none]
      rfl
    · rw [one]
      rfl

theorem vertexTiler_descriptors {h : BitVec w} (header : h ≠ 0#w) {payload : BitVec 64}
    (yields : Yields (fun n => traceVertexTiler env n h payload) s marks () t) : descriptors marks = [] := by
  rcases (yields_traceVertexTiler env header).mp yields with
    ⟨mapped, ⟨-, rfl, -⟩ | ⟨-, -, -, found, attributes, rfl⟩⟩
  · rfl
  · rw [descriptors_append]
    change descriptors found ++ [] = []
    rw [attributes_descriptors mapped attributes, List.append_nil]

theorem checked_descriptors {p : Decode w Unit} {c : Prop} {found : List Mark} (checked : Checked p s c found () s)
    (none : descriptors found = []) (yields : Yields (fun _ => p) s marks () t) : descriptors marks = [] := by
  obtain ⟨-, rfl, -⟩ := checked.traces_iff.mp (yields_const.mp yields)
  exact none

theorem payload_descriptors {h : BitVec w} (header : h ≠ 0#w) {payload : BitVec 64}
    (yields : Yields (fun n => tracePayload env n h payload) s marks () t) : descriptors marks = [] := by
  unfold tracePayload at yields
  rw [yields_deref_bind] at yields
  obtain ⟨-, yields⟩ := yields
  split at yields
  · exact checked_descriptors (checked_traceSetValue env payload s) rfl yields
  · split at yields
    · exact vertexTiler_descriptors header yields
    · split at yields
      · exact checked_descriptors (checked_traceFragment env payload s) rfl yields
      · exact checked_descriptors (silent_traceUnknown env _ payload).checked rfl yields

theorem job_descriptors {chain : BitVec 64} {next : Option (BitVec 64)}
    (yields : Yields (fun n => traceJob env n chain) s marks next t) :
    descriptors marks = if headerOf env chain = 0#w then [] else [chain] := by
  rcases (yields_traceJob env).mp yields with ⟨header, rfl, -, -⟩ | ⟨header, ⟨found, payload, rfl⟩, -⟩
  · rw [if_pos header]
    rfl
  · rw [if_neg header]
    change chain :: descriptors found = [chain]
    rw [payload_descriptors header payload]

end Marks

section Traversal

variable (env : Env w)

theorem leaves_traceJob {s t : Proc w} {chain next : BitVec 64} :
    Leaves (fun n => traceJob env n chain) s (some next) t ↔ NextJob env (s, chain) (t, next) := by
  rw [← hop_traceJob]
  rfl

theorem path_follows {s t : Proc w} {chain last : BitVec 64} {path : List (BitVec 64)} {out : List Out}
    (rounds : Path (traceJob env) s chain path out t last) :
    Follows env s chain path t last ∧ descriptors (out.filterMap Out.found) = path := by
  induction rounds with
  | nil s chain => exact ⟨.nil s chain, rfl⟩
  | cons first _ ih =>
    obtain ⟨later, same⟩ := ih
    have hop := (leaves_traceJob env).mp ⟨_, first⟩
    refine ⟨.cons hop later, ?_⟩
    rw [List.filterMap_append, descriptors_append, same,
      job_descriptors (yields_iff_converges.mpr ⟨_, first, rfl⟩), if_neg hop.1, List.singleton_append]

theorem follows_path {s t : Proc w} {chain last : BitVec 64} {path : List (BitVec 64)}
    (follows : Follows env s chain path t last) : ∃ out, Path (traceJob env) s chain path out t last := by
  induction follows with
  | nil s chain => exact ⟨[], .nil s chain⟩
  | cons hop _ ih =>
    obtain ⟨out, first⟩ := (leaves_traceJob env).mpr hop
    obtain ⟨out', rounds⟩ := ih
    exact ⟨_, .cons first rounds⟩

theorem job_ends {s t : Proc w} {last : BitVec 64} {tail : List (BitVec 64)} :
    (∃ marks, Yields (fun n => traceJob env n last) s marks none t ∧ descriptors marks = tail) ↔
      ChainEnds env s last tail t := by
  constructor
  · rintro ⟨marks, yields, rfl⟩
    have visited := job_descriptors yields
    rcases (yields_traceJob env).mp yields with ⟨header, -, -, same⟩ | ⟨header, ⟨found, payload, -⟩, goes⟩
    · exact .inl ⟨header, by rw [visited, if_pos header], same⟩
    · have leaves := (leaves_tracePayload env header).mp (leaves_iff_yields.mpr ⟨found, payload⟩)
      refine .inr ⟨header, leaves, ?_, by rw [visited, if_neg header]⟩
      by_contra more
      rw [if_neg more] at goes
      cases goes
  · intro ends
    have round : ∃ marks, Yields (fun n => traceJob env n last) s marks none t := by
      simp only [yields_traceJob]
      rcases ends with ⟨header, -, same⟩ | ⟨header, leaves, zero, -⟩
      · exact ⟨[], .inl ⟨header, rfl, trivial, same⟩⟩
      · obtain ⟨found, payload⟩ := leaves_iff_yields.mp ((leaves_tracePayload env header).mpr leaves)
        exact ⟨_, .inr ⟨header, ⟨found, payload, rfl⟩, (if_pos zero).symm⟩⟩
    obtain ⟨marks, yields⟩ := round
    refine ⟨marks, yields, ?_⟩
    rw [job_descriptors yields]
    rcases ends with ⟨header, rfl, -⟩ | ⟨header, -, -, rfl⟩
    · exact if_pos header
    · exact if_neg header

/-- Coming back to a descriptor with the memory as it was, the traversal never ends. -/
theorem cycle_endless {s : Proc w} {chain next : BitVec 64} {path : List (BitVec 64)}
    (cycle : Follows env s chain (next :: path) s chain) (fuel : Nat) : Cuts (chaiTraceHwChain env fuel chain) s := by
  obtain ⟨out, rounds⟩ := follows_path env cycle
  exact rounds.cycle_diverges (fuelled_traceJob env) fuel

/-- `chai_trace_hw_chain` ends where the chain does, having traced the descriptors along it in
    order, and never where the chain is a cycle. -/
theorem traversal_follows_chain (s : Proc w) (chain : BitVec 64) :
    (∀ visited t, (∃ marks, Yields (fun fuel => chaiTraceHwChain env fuel chain) s marks () t ∧
        descriptors marks = visited) ↔
      ∃ path u last tail, Follows env s chain path u last ∧ ChainEnds env u last tail t ∧ visited = path ++ tail) ∧
    ∀ path, path ≠ [] → Follows env s chain path s chain →
      ∀ fuel, Cuts (chaiTraceHwChain env fuel chain) s := by
  refine ⟨fun visited t => ⟨?_, ?_⟩, ?_⟩
  · rintro ⟨_, yields, rfl⟩
    obtain ⟨out, converges, rfl⟩ := yields_iff_converges.mp yields
    obtain ⟨path, out₁, u, last, out₂, rounds, final, rfl⟩ :=
      (loop_converges_iff (fuelled_traceJob env)).mp converges
    obtain ⟨follows, same⟩ := path_follows env rounds
    have ends := (job_ends env).mp ⟨_, yields_iff_converges.mpr ⟨out₂, final, rfl⟩, rfl⟩
    exact ⟨path, u, last, _, follows, ends, by rw [List.filterMap_append, descriptors_append, same]⟩
  · rintro ⟨path, u, last, tail, follows, ends, rfl⟩
    obtain ⟨out₁, rounds⟩ := follows_path env follows
    obtain ⟨marks, yields, rfl⟩ := (job_ends env).mpr ends
    obtain ⟨out₂, final, rfl⟩ := yields_iff_converges.mp yields
    have whole := (loop_converges_iff (fuelled_traceJob env)).mpr ⟨path, out₁, u, last, out₂, rounds, final, rfl⟩
    refine ⟨_, yields_iff_converges.mpr ⟨_, whole, rfl⟩, ?_⟩
    rw [List.filterMap_append, descriptors_append, (path_follows env rounds).2]
  · intro path some cycle
    obtain ⟨next, rest, rfl⟩ := List.exists_cons_of_ne_nil some
    exact cycle_endless env cycle

end Traversal

def selfLoop : Memory 32 := fun a => if a = 0x10010#32 then 2#8 else if a = 0x1001a#32 then 1#8 else 0#8

theorem self_loop_never_returns :
    ¬ ∃ fuel out t, Runs (chaiTraceHwChain onePage fuel 0x10000#64) ⟨selfLoop, 0⟩ out () t := by
  rintro ⟨fuel, out, t, runs⟩
  have again : NextJob onePage (⟨selfLoop, 0⟩, 0x10000#64) (⟨selfLoop, 0⟩, 0x10000#64) := by
    refine ⟨by decide, ?_, by decide, by decide⟩
    unfold PayloadLeaves
    rw [if_neg (by decide), if_neg (by decide), if_neg (by decide)]
  exact runs.not_cuts (cycle_endless onePage (.cons again (.nil _ _)) fuel)

end Decoder
