import Pantry.Panwrap.Wrappers

namespace Panwrap

open Machine Decoder Program

variable {v w : Nat} {α : Type}

/-- A `switch (IOCTL_CASE(request))` on a machine whose `unsigned long` has `w` bits. -/
def dispatch (w : Nat) (request : BitVec v) (otherwise : α) : List (BitVec 32 × α) → α
  | [] => otherwise
  | (command, decoder) :: rest =>
    if ioctlCase w request = ioctlCase w command then decoder else dispatch w request otherwise rest

/-- The command whose case such a switch takes. -/
def selected (w : Nat) (request : BitVec v) (commands : List (BitVec 32)) : Option (BitVec 32) :=
  dispatch w request none (commands.map fun command => (command, some command))

section Selected

variable {request : BitVec v} {command : BitVec 32} {commands : List (BitVec 32)} {otherwise : α}
  {table : List (BitVec 32 × α)}

theorem selected_cons : selected w request (command :: commands) =
    if ioctlCase w request = ioctlCase w command then some command else selected w request commands := rfl

theorem selected_mem (chosen : selected w request commands = some command) :
    command ∈ commands ∧ ioctlCase w request = ioctlCase w command := by
  induction commands with
  | nil => cases chosen
  | cons first rest ih =>
    rw [selected_cons] at chosen
    split at chosen
    · rename_i same
      cases chosen
      exact ⟨List.mem_cons_self .., same⟩
    · obtain ⟨member, same⟩ := ih chosen
      exact ⟨List.mem_cons_of_mem _ member, same⟩

/-- The switch runs the decoder that it has for the command whose case it takes. -/
theorem dispatch_selected (chosen : selected w request (table.map Prod.fst) = some command) :
    ∃ decoder, (command, decoder) ∈ table ∧ dispatch w request otherwise table = decoder := by
  induction table with
  | nil => cases chosen
  | cons entry rest ih =>
    obtain ⟨first, decoder⟩ := entry
    rw [List.map_cons, selected_cons] at chosen
    by_cases same : ioctlCase w request = ioctlCase w first
    · rw [if_pos same] at chosen
      cases chosen
      exact ⟨decoder, List.mem_cons_self .., if_pos same⟩
    · rw [if_neg same] at chosen
      obtain ⟨decoder, member, runs⟩ := ih chosen
      exact ⟨decoder, List.mem_cons_of_mem _ member, (if_neg same).trans runs⟩

theorem dispatch_unselected (unchosen : selected w request (table.map Prod.fst) = none) :
    dispatch w request otherwise table = otherwise := by
  induction table with
  | nil => rfl
  | cons entry rest ih =>
    rw [List.map_cons, selected_cons] at unchosen
    by_cases same : ioctlCase w request = ioctlCase w entry.1
    · rw [if_pos same] at unchosen
      cases unchosen
    · rw [if_neg same] at unchosen
      exact (if_neg same).trans (ih unchosen)

/-- The decoder that a table has for a selected command. -/
theorem dispatch_entry (table : List (BitVec 32 × α)) {otherwise : α} {command : BitVec 32} {decoder : α}
    (nodup : (table.map Prod.fst).Nodup) (chosen : selected w request (table.map Prod.fst) = some command)
    (entry : (command, decoder) ∈ table) : dispatch w request otherwise table = decoder := by
  obtain ⟨other, member, runs⟩ := dispatch_selected chosen
  rw [runs]
  exact congrArg Prod.snd (List.inj_on_of_nodup_map nodup member entry rfl)

end Selected

section Tables

variable (env : Env w) (cfg : Config) (fuel : Nat) (ptr : BitVec w)

def preDecoders : List (BitVec 32 × Decode w Unit) := [
  (maliIoctlMemAlloc, ioctlDecodePreMemAlloc ptr),
  (maliIoctlMemImport, ioctlDecodePreMemImport ptr),
  (maliIoctlMemCommit, ioctlDecodePreMemCommit ptr),
  (maliIoctlMemQuery, ioctlDecodePreMemQuery ptr),
  (maliIoctlMemFree, ioctlDecodePreMemFree ptr),
  (maliIoctlMemFlagsChange, ioctlDecodePreMemFlagsChange ptr),
  (maliIoctlMemAlias, ioctlDecodePreMemAlias ptr),
  (maliIoctlSync, ioctlDecodePreSync env ptr),
  (maliIoctlSetFlags, ioctlDecodePreSetFlags ptr),
  (maliIoctlStreamCreate, ioctlDecodePreStreamCreate ptr),
  (maliIoctlJobSubmit, ioctlDecodePreJobSubmit env fuel ptr)]

def postDecoders : List (BitVec 32 × Wrap w Unit) := [
  (maliIoctlMemAlloc, ioctlDecodePostMemAlloc cfg ptr),
  (maliIoctlMemCommit, ioctlDecodePostMemCommit cfg ptr),
  (maliIoctlGetVersion, decode cfg fun _ => ioctlDecodePostGetVersion ptr),
  (maliIoctlGetVersionNew, decode cfg fun _ => ioctlDecodePostGetVersion ptr),
  (maliIoctlMemImport, decode cfg fun _ => ioctlDecodePostMemImport ptr),
  (maliIoctlMemQuery, decode cfg fun _ => ioctlDecodePostMemQuery ptr),
  (maliIoctlMemAlias, decode cfg fun _ => ioctlDecodePostMemAlias ptr),
  (maliIoctlSync, decode cfg fun _ => ioctlDecodePostSync ptr),
  (maliIoctlGpuPropsRegDump, decode cfg fun _ => ioctlDecodePostGpuPropsRegDump ptr),
  (maliIoctlStreamCreate, decode cfg fun _ => ioctlDecodePostStreamCreate ptr),
  (maliIoctlGetContextId, decode cfg fun _ => ioctlDecodePostGetContextId ptr)]

def preCommands : List (BitVec 32) := [
  maliIoctlMemAlloc, maliIoctlMemImport, maliIoctlMemCommit, maliIoctlMemQuery, maliIoctlMemFree,
  maliIoctlMemFlagsChange, maliIoctlMemAlias, maliIoctlSync, maliIoctlSetFlags, maliIoctlStreamCreate,
  maliIoctlJobSubmit]

def postCommands : List (BitVec 32) := [
  maliIoctlMemAlloc, maliIoctlMemCommit, maliIoctlGetVersion, maliIoctlGetVersionNew, maliIoctlMemImport,
  maliIoctlMemQuery, maliIoctlMemAlias, maliIoctlSync, maliIoctlGpuPropsRegDump, maliIoctlStreamCreate,
  maliIoctlGetContextId]

theorem preCommands_nodup : preCommands.Nodup := by decide

theorem postCommands_nodup : postCommands.Nodup := by decide

theorem ioctlDecodePre_eq (request : BitVec w) :
    ioctlDecodePre env fuel request ptr = dispatch w request (pure ()) (preDecoders env fuel ptr) := rfl

theorem decode_ite {c : Prop} [Decidable c] {p q : Decode w Unit} :
    decode cfg (fun _ => if c then p else q) = if c then decode cfg (fun _ => p) else decode cfg fun _ => q := by
  split <;> rfl

theorem ioctlDecodePost_eq (request : BitVec w) :
    ioctlDecodePost cfg ptr request =
      dispatch w request (decode cfg fun _ => pure ()) (postDecoders cfg ptr) := by
  unfold ioctlDecodePost ioctlReportPost
  simp only [decode_ite]
  rfl

variable {request : BitVec w} {command : BitVec 32}

/-- `ioctl_decode_pre` runs the decoder of the command that it selects. -/
theorem ioctlDecodePre_selected (chosen : selected w request preCommands = some command) :
    ∃ decoder, (command, decoder) ∈ preDecoders env fuel ptr ∧ ioctlDecodePre env fuel request ptr = decoder :=
  dispatch_selected chosen

theorem ioctlDecodePre_entry {decoder : Decode w Unit} (chosen : selected w request preCommands = some command)
    (entry : (command, decoder) ∈ preDecoders env fuel ptr) : ioctlDecodePre env fuel request ptr = decoder :=
  dispatch_entry (preDecoders env fuel ptr) preCommands_nodup chosen entry

theorem ioctlDecodePre_unselected (unchosen : selected w request preCommands = none) :
    ioctlDecodePre env fuel request ptr = pure () := by
  rw [ioctlDecodePre_eq]
  exact dispatch_unselected unchosen

theorem ioctlDecodePost_selected (chosen : selected w request postCommands = some command) :
    ∃ decoder, (command, decoder) ∈ postDecoders cfg ptr ∧ ioctlDecodePost cfg ptr request = decoder := by
  rw [ioctlDecodePost_eq]
  exact dispatch_selected chosen

theorem ioctlDecodePost_entry {decoder : Wrap w Unit} (chosen : selected w request postCommands = some command)
    (entry : (command, decoder) ∈ postDecoders cfg ptr) : ioctlDecodePost cfg ptr request = decoder := by
  rw [ioctlDecodePost_eq]
  exact dispatch_entry (postDecoders cfg ptr) postCommands_nodup chosen entry

theorem ioctlDecodePost_unselected (unchosen : selected w request postCommands = none) :
    ioctlDecodePost cfg ptr request = decode cfg fun _ => pure () := by
  rw [ioctlDecodePost_eq]
  exact dispatch_unselected unchosen

end Tables

section Sizes

variable {request : BitVec v} {command : BitVec 32} {commands : List (BitVec 32)}

/-- Type, number and size of the argument are those of the command. -/
def SameRequest (request : BitVec v) (command : BitVec 32) : Prop :=
  iocType request = iocType command ∧ iocNr request = iocNr command ∧ iocSize request = iocSize command

instance (request : BitVec v) (command : BitVec 32) : Decidable (SameRequest request command) :=
  inferInstanceAs (Decidable (_ ∧ _ ∧ _))

/-- No two commands of the list have one case. -/
def Apart (w : Nat) (commands : List (BitVec 32)) : Prop :=
  ∀ first ∈ commands, ∀ second ∈ commands, ioctlCase w first = ioctlCase w second → first = second

theorem selected_iff (apart : Apart w commands) (member : command ∈ commands) :
    selected w request commands = some command ↔ ioctlCase w request = ioctlCase w command := by
  constructor
  · exact fun chosen => (selected_mem chosen).2
  · intro same
    cases chosen : selected w request commands with
    | some other =>
      obtain ⟨present, case⟩ := selected_mem chosen
      rw [apart other present command member (case.symm.trans same)]
    | none =>
      exfalso
      clear apart
      induction commands with
      | nil => cases member
      | cons first rest ih =>
        rw [selected_cons] at chosen
        by_cases here : ioctlCase w request = ioctlCase w first
        · rw [if_pos here] at chosen
          cases chosen
        · rw [if_neg here] at chosen
          rcases List.mem_cons.mp member with rfl | later
          · exact here same
          · exact ih later chosen

theorem apart_of_nodup (nodup : (commands.map fun command => (iocType command, iocNr command)).Nodup) : Apart w commands := by
  intro first member second present same
  obtain ⟨types, numbers⟩ := ioctlCase_eq_iff.mp same
  exact List.inj_on_of_nodup_map nodup member present (Prod.ext types numbers)

theorem preCommands_apart : Apart w preCommands := apart_of_nodup (by decide)

theorem postCommands_apart : Apart w postCommands := apart_of_nodup (by decide)

theorem selected_same_iff (apart : Apart w commands) (member : command ∈ commands) :
    (selected w request commands = some command ↔ SameRequest request command) ↔
      (iocType request = iocType command → iocNr request = iocNr command → iocSize request = iocSize command) := by
  rw [selected_iff apart member, ioctlCase_eq_iff, SameRequest]
  tauto

theorem same_of_selected (sizes : ∀ command ∈ commands,
      iocType request = iocType command → iocNr request = iocNr command → iocSize request = iocSize command)
    (chosen : selected w request commands = some command) : SameRequest request command := by
  obtain ⟨member, case⟩ := selected_mem chosen
  obtain ⟨types, numbers⟩ := ioctlCase_eq_iff.mp case
  exact ⟨types, numbers, sizes command member types numbers⟩

end Sizes

end Panwrap
