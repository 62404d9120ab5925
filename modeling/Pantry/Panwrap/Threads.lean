import Pantry.Machine.Monitor
import Pantry.Panwrap.Refinement

namespace Panwrap

open Machine

variable {build : Build} {heads : Heads build.bits} {alloc : Malloc heads} {links : Links (BitVec build.bits)}
  {allocated : BitVec build.bits → AllocatedMemory} {mapped : BitVec build.bits → MappedMemory build.bits}
  {s : Nodes build.bits} {t : Tracker build.bits} {job : Job build} {jobs : List (Job build)}

theorem holds_start : Holds heads (Nodes.start heads links allocated mapped) {} := by
  refine ⟨[], [], rfl, ⟨ring_alone.alone ?_, ring_alone, ?_, ?_, List.nodup_nil, ?_⟩, rfl, rfl, rfl⟩
  · rw [List.mem_singleton]
    exact heads.distinct.symm
  · intro p left right
    exact heads.distinct ((List.mem_singleton.mp left).symm.trans (List.mem_singleton.mp right))
  · intro p
    simp [Nodes.start]
  · intro p member
    cases member

section Example

def exampleHeads : Heads Build.lp64.bits := ⟨0x601000#64, 0x601020#64, by decide, by decide, by decide⟩

def exampleBlock (s : Nodes Build.lp64.bits) : BitVec 64 := BitVec.ofNat 64 (0x100000 + 64 * s.mallocs)

def exampleMalloc : Malloc exampleHeads where
  give s :=
    if exampleBlock s ≠ exampleHeads.allocations ∧ exampleBlock s ≠ exampleHeads.mmaps ∧ s.live (exampleBlock s) = false
    then exampleBlock s else 0#64
  fresh := by
    intro s given
    split at given
    · rename_i free
      rw [if_pos free]
      exact free
    · exact absurd rfl given

def exampleStart : Nodes Build.lp64.bits :=
  Nodes.start exampleHeads ⟨id, id⟩ (fun _ => ⟨0#64, false⟩) fun _ => ⟨0#64, 0#64, 0#64⟩

noncomputable def exampleJob (call : Call .lp64) (ret : Int) (ptr : BitVec 64) : Job .lp64 :=
  Job.of ⟨call, ⟨ret, ptr, fun _ => 0#8⟩⟩ x86 ⟨fun _ => 0#8, 0⟩

noncomputable def opensMali : Job .lp64 := exampleJob (.openAt "/dev/mali0" 2#32 0#32) 3 0#64

noncomputable def mapsTracking : Job .lp64 := exampleJob (.mmap 0#64 0x1000#64 0#32 1#32 3 0x3000#64) 0 0x7F0000#64

noncomputable def closesOther : Job .lp64 := exampleJob (.close 7) 0 0#64

end Example

section Alone

/-- The tracker once the wrappers of the jobs were called one after the other. -/
def Tracker.called (jobs : List (Job build)) : Tracker build.bits :=
  jobs.foldl (fun t job => t.next job.label.call job.label.reply) {}

theorem Tracker.called_snoc (jobs : List (Job build)) (job : Job build) :
    Tracker.called (jobs ++ [job]) = (Tracker.called jobs).next job.label.call job.label.reply := List.foldl_append ..

def JobStep (alloc : Malloc heads) (s : Nodes build.bits) (job : Job build) (s' : Nodes build.bits) : Prop :=
  job.Enters s ∧ (job.locked alloc).Finishes s () s' ∨ ¬ job.Enters s ∧ s' = s

theorem Holds.step {s' : Nodes build.bits} (holds : Holds heads s t) (step : JobStep alloc s job s') :
    Holds heads s' (t.next job.label.call job.label.reply) := by
  rcases step with ⟨enters, finishes⟩ | ⟨passes, rfl⟩
  · rw [← Tracker.locked_of_enters holds enters]
    exact (holds.locked_safe alloc job).finishes finishes
  · rw [Tracker.next_of_not_enters holds passes]
    exact holds

theorem Holds.proceeds (holds : Holds heads s t) (job : Job build) :
    (∃ s', JobStep alloc s job s') ∨ ∃ reason, (job.locked alloc).run s = .fault reason ∧ Stops alloc job s t.mmaps reason := by
  by_cases enters : job.Enters s
  · rcases (holds.locked_safe alloc job).cases with ⟨_, s', finishes, -⟩ | stops
    · exact .inl ⟨s', .inl ⟨enters, finishes⟩⟩
    · exact .inr stops
  · exact .inl ⟨s, .inr ⟨enters, rfl⟩⟩

theorem run_holds (run : Run (JobStep alloc) s jobs s') (holds : Holds heads s t) :
    Holds heads s' (jobs.foldl (fun t job => t.next job.label.call job.label.reply) t) := by
  induction run generalizing t with
  | nil => exact holds
  | cons one _ ih => exact ih (holds.step one)

theorem example_maps : ∃ s, Run (JobStep exampleMalloc) exampleStart [opensMali, mapsTracking] s := by
  have opened : JobStep exampleMalloc exampleStart opensMali { exampleStart with maliFd := 3 } := .inl ⟨trivial, rfl⟩
  rcases (holds_start.step opened).proceeds mapsTracking with ⟨s, mapped⟩ | ⟨reason, -, stops⟩
  · exact ⟨s, .cons opened (.single mapped)⟩
  · rcases stops with ⟨-, null⟩ | ⟨-, endless⟩
    · exact absurd null (by decide)
    · exact absurd trivial endless

/-- In every run of the wrappers, call after call, the nodes hold the lists of the tracker, nothing
    allocated is out of their reach, and each further call goes through unless `malloc` fails or its decoding
    does not come to an end. -/
theorem nodes_refine_tracker (run : Run (JobStep alloc) (Nodes.start heads links allocated mapped) jobs s) :
    Holds heads s (Tracker.called jobs) ∧
      ∀ job : Job build, (∃ s', JobStep alloc s job s') ∨
        ∃ reason, (job.locked alloc).run s = .fault reason ∧ Stops alloc job s (Tracker.called jobs).mmaps reason := by
  have holds := run_holds run holds_start
  exact ⟨holds, holds.proceeds⟩

theorem tracking_page_held :
    ∃ s, Run (JobStep exampleMalloc) exampleStart [opensMali, mapsTracking] s ∧
      Holds exampleHeads s { maliFd := 3, mmaps := [⟨0x1000#64, 0x7F0000#64, 0#64⟩] } := by
  obtain ⟨s, run⟩ := example_maps
  exact ⟨s, run, (nodes_refine_tracker run).1⟩

theorem nodes_translate (run : Run (JobStep alloc) (Nodes.start heads links allocated mapped) jobs s)
    (gpuAddr : BitVec 64) (sz : BitVec build.bits) :
    (fetchMapped heads gpuAddr sz).Finishes s (fetchMappedGpu (Tracker.called jobs).mmaps gpuAddr sz) s := by
  have holds : Holds heads s (Tracker.called jobs) := run_holds run holds_start
  obtain ⟨as, ms, rep⟩ := holds
  have safe := rep.fetchMapped_safe (E := fun _ => False) gpuAddr sz
  rcases safe.cases with ⟨_, _, finishes, rfl, rfl⟩ | ⟨_, -, impossible⟩
  · exact finishes
  · exact impossible.elim

theorem opened_translates : ∃ s, Run (JobStep exampleMalloc) exampleStart [opensMali, mapsTracking] s ∧
    (fetchMapped exampleHeads 0x10#64 8#64).Finishes s 0x7F0010#64 s := by
  obtain ⟨s, run⟩ := example_maps
  exact ⟨s, run, nodes_translate run 0x10#64 8#64⟩

end Alone

section Together

variable {τ : Type} [DecidableEq τ] {labels : List (τ × Act (Job build))} {S : System τ NodeFault (Nodes build.bits) (Job build)}

abbrev ThreadMove (alloc : Malloc heads) :
    System τ NodeFault (Nodes build.bits) (Job build) → τ × Act (Job build) →
      System τ NodeFault (Nodes build.bits) (Job build) → Prop :=
  Move (fun job => job.locked alloc) Job.Enters

/-- A move of a thread; where it takes the lock, its test of `mali_fd` still holds. -/
def TimelyMove (alloc : Malloc heads) (S : System τ NodeFault (Nodes build.bits) (Job build)) (label : τ × Act (Job build))
    (S' : System τ NodeFault (Nodes build.bits) (Job build)) : Prop :=
  ThreadMove alloc S label S' ∧ ∀ job, label.2 = .lock → S.stage label.1 = .waiting job → job.Enters S.shared

noncomputable def exampleLabels : List (Bool × Act (Job .lp64)) := [
  (false, .call opensMali), (false, .lock), (false, .access), (false, .unlock opensMali),
  (true, .call mapsTracking), (false, .call closesOther), (true, .lock), (true, .access), (true, .access), (true, .access),
  (true, .access), (true, .access), (true, .access), (true, .access), (true, .access), (true, .access),
  (true, .unlock mapsTracking), (false, .lock), (false, .access), (false, .unlock closesOther)]

section Moves

variable {t : τ}

theorem TimelyMove.call (idle : S.stage t = .idle) (enters : job.Enters S.shared) :
    TimelyMove alloc S (t, .call job) (S.to t (.waiting job)) := ⟨.call idle enters, nofun⟩

theorem TimelyMove.lock (waiting : S.stage t = .waiting job) (free : S.owner = none) (enters : job.Enters S.shared) :
    TimelyMove alloc S (t, .lock) { S.to t (.inside job (job.locked alloc)) with owner := some t } := by
  refine ⟨.lock waiting free, ?_⟩
  intro other _ waits
  cases waiting.symm.trans waits
  exact enters

theorem TimelyMove.access {move : Nodes build.bits → Nodes build.bits}
    {rest : Nodes build.bits → Script NodeFault (Nodes build.bits) Unit} (inside : S.stage t = .inside job (.access move rest)) :
    TimelyMove alloc S (t, .access) { S.to t (.inside job (rest S.shared)) with shared := move S.shared } :=
  ⟨.access inside, nofun⟩

theorem TimelyMove.unlock (inside : S.stage t = .inside job (.done ())) :
    TimelyMove alloc S (t, .unlock job) { S.to t .idle with owner := none } := ⟨.unlock inside, nofun⟩

end Moves

theorem example_threads : ∃ S, Run (TimelyMove exampleMalloc) (System.start exampleStart) exampleLabels S ∧ S.owner = none := by
  have opened : (3 : Int) ≠ 0 := by decide
  have run : Run (TimelyMove exampleMalloc) (System.start exampleStart) exampleLabels _ :=
    .cons (.call rfl trivial) <| .cons (.lock rfl rfl trivial) <| .cons (.access rfl) <| .cons (.unlock rfl) <|
    .cons (.call rfl ⟨opened, rfl⟩) <| .cons (.call rfl trivial) <| .cons (.lock rfl rfl ⟨opened, rfl⟩) <|
    .cons (.access rfl) <| .cons (.access rfl) <| .cons (.access rfl) <| .cons (.access rfl) <| .cons (.access rfl) <|
    .cons (.access rfl) <| .cons (.access rfl) <| .cons (.access rfl) <| .cons (.access rfl) <| .cons (.unlock rfl) <|
    .cons (.lock rfl rfl trivial) <| .cons (.access rfl) <| .single (.unlock rfl)
  exact ⟨_, run, rfl⟩

def Tracker.after (jobs : List (Job build)) : Tracker build.bits := jobs.foldl (fun t job => t.locked job.label) {}

theorem Tracker.after_snoc (jobs : List (Job build)) (job : Job build) :
    Tracker.after (jobs ++ [job]) = (Tracker.after jobs).locked job.label := List.foldl_append ..

def GetsLock (alloc : Malloc heads) (S : System τ NodeFault (Nodes build.bits) (Job build)) (t : τ) : Prop :=
  ∃ path S' S'', (∀ label ∈ path, label.1 ≠ t) ∧ Run (ThreadMove alloc) S path S' ∧ ThreadMove alloc S' (t, .lock) S''

def Undecoded (S : System τ NodeFault (Nodes build.bits) (Job build)) (t : Tracker build.bits) : Prop :=
  ∃ u job rest, S.stage u = .inside job rest ∧ rest.run S.shared = .fault .undecoded ∧ ¬ job.Ends t.mmaps

/-- The thread inside the lock is going to write through the NULL that `malloc` gave it. -/
def Starved (alloc : Malloc heads) (S : System τ NodeFault (Nodes build.bits) (Job build)) (t : Tracker build.bits) :
    Prop :=
  ∃ u job rest base, S.stage u = .inside job rest ∧ rest.run S.shared = .fault .nullDeref ∧ Holds heads base t ∧
    alloc.give base = 0#(build.bits)

theorem serial_holds {start : Nodes build.bits} (serial : Serial (fun job => job.locked alloc) start jobs s)
    (holds : Holds heads start t) : Holds heads s (jobs.foldl (fun t job => t.locked job.label) t) := by
  induction serial generalizing t with
  | nil => exact holds
  | cons one _ ih => exact ih ((holds.locked_safe alloc _).finishes one)

theorem threads_orderly
    (run : Run (ThreadMove alloc) (System.start (Nodes.start heads links allocated mapped)) labels S) :
    Orderly (fun job => job.locked alloc) (Nodes.start heads links allocated mapped) labels S :=
  orderly_of_run run

theorem threads_free
    (run : Run (ThreadMove alloc) (System.start (Nodes.start heads links allocated mapped)) labels S)
    (free : S.owner = none) : Holds heads S.shared (Tracker.after (released labels)) :=
  serial_holds ((threads_orderly run).free free) holds_start

theorem threads_inside
    (run : Run (ThreadMove alloc) (System.start (Nodes.start heads links allocated mapped)) labels S)
    {t : τ} {rest : Script NodeFault (Nodes build.bits) Unit} (inside : S.stage t = .inside job rest) :
    ∃ base, Holds heads base (Tracker.after (released labels)) ∧
      rest.Safe (Stops alloc job base (Tracker.after (released labels)).mmaps) S.shared fun _ s =>
        Holds heads s (Tracker.after (released labels ++ [job])) := by
  obtain ⟨-, base, serial, same⟩ := (threads_orderly run).held t job rest inside
  have holds : Holds heads base (Tracker.after (released labels)) := serial_holds serial holds_start
  refine ⟨base, holds, ?_⟩
  have safe := holds.locked_safe alloc job
  unfold Script.Safe at safe ⊢
  rw [same, Tracker.after_snoc]
  exact safe

/-- Whatever the interleaving of the threads' loads and stores: one thread at a time is inside the lock;
    while it is free the nodes hold what the locked parts of the jobs make of the lists one after the other; and
    no access of the thread inside is to a freed node, nor is one freed twice. -/
theorem threads_serialised
    (run : Run (ThreadMove alloc) (System.start (Nodes.start heads links allocated mapped)) labels S) :
    (∀ t u job other rest rest', S.stage t = .inside job rest → S.stage u = .inside other rest' → t = u) ∧
      (S.owner = none → Holds heads S.shared (Tracker.after (released labels))) ∧
      ∀ t job rest, S.stage t = .inside job rest → ∃ base, Holds heads base (Tracker.after (released labels)) ∧
        rest.Safe (Stops alloc job base (Tracker.after (released labels)).mmaps) S.shared fun _ s =>
          Holds heads s (Tracker.after (released labels ++ [job])) :=
  ⟨fun _ _ _ _ _ _ first second => (threads_orderly run).exclusive first second, threads_free run,
    fun _ _ _ inside => threads_inside run inside⟩

theorem opened_by_thread :
    ∃ S, Run (ThreadMove exampleMalloc) (System.start exampleStart) exampleLabels S ∧
      Holds exampleHeads S.shared { maliFd := 3, mmaps := [⟨0x1000#64, 0x7F0000#64, 0#64⟩] } := by
  obtain ⟨S, timely, free⟩ := example_threads
  have run : Run (ThreadMove exampleMalloc) (System.start exampleStart) exampleLabels S := timely.mono fun step => step.1
  exact ⟨S, run, (threads_serialised run).2.1 free⟩

/-- A thread that waits for the lock can get it: whoever has it needs nobody else to give it back,
    unless `malloc` fails it or its decoding does not come to an end. -/
theorem waiting_gets_lock
    (run : Run (ThreadMove alloc) (System.start (Nodes.start heads links allocated mapped)) labels S)
    {t : τ} (waiting : S.stage t = .waiting job) :
    GetsLock alloc S t ∨ Starved alloc S (Tracker.after (released labels)) ∨
      Undecoded S (Tracker.after (released labels)) := by
  cases owner : S.owner with
  | none => exact .inl ⟨[], S, _, by simp, .nil S, .lock waiting owner⟩
  | some u =>
    obtain ⟨other, rest, inside⟩ := (threads_orderly run).inside u owner
    have apart : t ≠ u := by
      intro same
      rw [same, inside] at waiting
      cases waiting
    obtain ⟨base, holds, safe⟩ := threads_inside run inside
    rcases safe.cases with ⟨_, final, finishes, -⟩ | ⟨_, faults, ⟨rfl, null⟩ | ⟨rfl, endless⟩⟩
    · have turn : ∃ path, (∀ label ∈ path, label.1 = u) ∧
          Run (ThreadMove alloc) S path { S.to u .idle with shared := final, owner := none } := finishes_alone inside finishes
      obtain ⟨path, own, alone⟩ := turn
      have still : (S.to u .idle).stage t = .waiting job := (System.to_other apart).trans waiting
      have next : ThreadMove alloc { S.to u .idle with shared := final, owner := none } (t, .lock) _ := .lock still rfl
      refine .inl ⟨path, _, _, ?_, alone, next⟩
      intro label member same
      exact apart (same.symm.trans (own label member))
    · exact .inr (.inl ⟨u, other, rest, base, inside, faults, holds, null⟩)
    · exact .inr (.inr ⟨u, other, rest, inside, faults, endless⟩)

theorem second_gets_lock :
    ∃ S : System Bool NodeFault (Nodes Build.lp64.bits) (Job .lp64), Run (ThreadMove exampleMalloc)
        (System.start exampleStart) [(false, .call opensMali), (true, .call opensMali), (false, .lock)] S ∧
      GetsLock exampleMalloc S true := by
  have run : Run (ThreadMove exampleMalloc) (System.start exampleStart)
      [(false, .call opensMali), (true, .call opensMali), (false, .lock)] _ :=
    .cons (.call rfl trivial) (.cons (.call rfl trivial) (.single (.lock rfl rfl)))
  refine ⟨_, run, (waiting_gets_lock (t := true) run rfl).resolve_right ?_⟩
  intro stuck
  rcases stuck with ⟨u, job, rest, base, inside, faults, -⟩ | ⟨u, job, rest, inside, faults, -⟩
  -- the thread inside is the one whose whole script runs
  all_goals
    cases u with
    | false =>
      cases inside
      cases faults
    | true => cases inside

end Together

section Timely

variable {τ : Type} {labels : List (τ × Act (Job build))} {S S' : System τ NodeFault (Nodes build.bits) (Job build)}

/-- So far the locked parts amount to whole calls, and so will that of the thread inside. -/
structure Linear (past : List (τ × Act (Job build))) (S : System τ NodeFault (Nodes build.bits) (Job build)) : Prop where
  called : Tracker.after (released past) = Tracker.called (released past)
  inside : ∀ t job rest, S.stage t = .inside job rest →
    (Tracker.after (released past)).locked job.label = (Tracker.after (released past)).next job.label.call job.label.reply

variable {past : List (τ × Act (Job build))} {label : τ × Act (Job build)}

theorem Linear.quiet (linear : Linear past S) (none : Act.released label = none)
    (inside : ∀ t job rest, S'.stage t = .inside job rest → (∃ rest, S.stage t = .inside job rest) ∨
      (Tracker.after (released past)).locked job.label =
        (Tracker.after (released past)).next job.label.call job.label.reply) : Linear (past ++ [label]) S' := by
  have same : released (past ++ [label]) = released past := by
    rw [released_snoc, none]
    exact List.append_nil _
  refine ⟨same ▸ linear.called, ?_⟩
  rw [same]
  intro t job rest found
  rcases inside t job rest found with ⟨rest, earlier⟩ | now
  · exact linear.inside t job rest earlier
  · exact now

variable [DecidableEq τ]

theorem Linear.step {start : Nodes build.bits} (holds : Holds heads start {})
    (orderly : Orderly (fun job => job.locked alloc) start past S) (linear : Linear past S)
    (step : TimelyMove alloc S label S') : Linear (past ++ [label]) S' := by
  obtain ⟨move, timely⟩ := step
  cases move with
  | @call t job idle test =>
    apply linear.quiet rfl
    intro u other rest found
    by_cases same : u = t
    · rw [same, System.to_same] at found
      cases found
    · exact .inl ⟨rest, (System.to_other same).symm.trans found⟩
  | pass idle test => exact linear.quiet rfl fun u other rest found => .inl ⟨rest, found⟩
  | @lock t job waiting free =>
    apply linear.quiet rfl
    intro u other rest found
    by_cases same : u = t
    · subst same
      have stage : Stage.inside job (job.locked alloc) = .inside other rest := System.to_same.symm.trans found
      cases stage
      exact .inr (Tracker.locked_of_enters (serial_holds (orderly.free free) holds) (timely job rfl waiting))
    · exact .inl ⟨rest, (System.to_other same).symm.trans found⟩
  | @access t job move rest inside =>
    apply linear.quiet rfl
    intro u other rest' found
    by_cases same : u = t
    · subst same
      have stage : Stage.inside job (rest S.shared) = .inside other rest' := System.to_same.symm.trans found
      cases stage
      exact .inl ⟨_, inside⟩
    · exact .inl ⟨rest', (System.to_other same).symm.trans found⟩
  | @unlock t job inside =>
    have more : released (past ++ [(t, .unlock job)]) = released past ++ [job] := released_snoc
    refine ⟨?_, ?_⟩
    · rw [more, Tracker.after_snoc, Tracker.called_snoc, ← linear.called]
      exact linear.inside t job _ inside
    · intro u other rest found
      by_cases same : u = t
      · subst same
        have stage : Stage.idle = .inside other rest := System.to_same.symm.trans found
        cases stage
      · have earlier : S.stage u = .inside other rest := (System.to_other same).symm.trans found
        exact absurd (orderly.exclusive earlier inside) same

/-- Where no test of `mali_fd` is out of date by the time its thread has the lock, the threads leave the
    lists of the same calls made one after the other. -/
theorem timely_linearizable
    (run : Run (TimelyMove alloc) (System.start (Nodes.start heads links allocated mapped)) labels S)
    (free : S.owner = none) : Holds heads S.shared (Tracker.called (released labels)) := by
  have orderly : Orderly (fun job => job.locked alloc) (Nodes.start heads links allocated mapped) labels S ∧
      Linear labels S := by
    apply run.history
    · intro past S S' label step both
      exact ⟨both.1.step step.1, Linear.step holds_start both.1 both.2 step⟩
    · exact ⟨orderly_start, rfl, fun t job rest found => nomatch found⟩
  rw [← orderly.2.called]
  exact serial_holds (orderly.1.free free) holds_start

theorem opened_timely :
    ∃ S, Run (TimelyMove exampleMalloc) (System.start exampleStart) exampleLabels S ∧
      Holds exampleHeads S.shared { maliFd := 3, mmaps := [⟨0x1000#64, 0x7F0000#64, 0#64⟩] } := by
  obtain ⟨S, run, free⟩ := example_threads
  exact ⟨S, run, timely_linearizable run free⟩

end Timely

end Panwrap
