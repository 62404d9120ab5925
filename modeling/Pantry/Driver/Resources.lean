import Pantry.Decoder.Section
import Pantry.Driver.Synthesise
import Pantry.Panwrap.Ioctl

namespace Driver

open Machine Panwrap Decoder Program

section Lines

def continues : Out → Bool
  | .logCont .. => true
  | _ => false

def loggedValue : Out → Option Nat
  | .logCont format [.nat value] => if format = "0x%PRIx64" then some value else none
  | _ => none

def loggedName : Out → Option String
  | .logCont format [.str name] => if format = "%s" then some name else none
  | _ => none

/-- The lines on external resources, each for what is logged after its indentation. -/
def resourceLines : List Out → List (List Out)
  | [] => []
  | item :: rest =>
    if item = .log "\t\t\t" [] then rest.takeWhile continues :: resourceLines rest else resourceLines rest

def resourceLine (word : BitVec 64) : List Out :=
  panwrapLogDecodedFlags externalResourcesAccessFlagInfo word ++ [.logCont "\n" []]

def resourceText (words : List (BitVec 64)) : List Out :=
  words.flatMap fun word => .log "\t\t\t" [] :: resourceLine word

def otherFlags (others : List Nat) : List Out := others.map fun value => .logCont " | 0x%PRIx64" [.nat value]

theorem exclusiveLoop_eq (flags : BitVec 64) : ∃ others : List Nat,
    logDecodedFlagsLoop true flags [⟨1#64, "MALI_EXT_RES_ACCESS_EXCLUSIVE"⟩] =
      (if flags &&& 1#64 = 1#64 then [.logCont " | " [], .logCont "%s" [.str "MALI_EXT_RES_ACCESS_EXCLUSIVE"]] else []) ++
        otherFlags others ++ [.logCont ")" []] := by
  have last (flags : BitVec 64) : ∃ others : List Nat,
      logDecodedFlagsLoop true flags [] = otherFlags others ++ [.logCont ")" []] := by
    by_cases none : flags = 0#64
    · exact ⟨[], by simp [logDecodedFlagsLoop, otherFlags, none]⟩
    · exact ⟨[flags.toNat], by simp [logDecodedFlagsLoop, otherFlags, none]⟩
  by_cases exclusive : flags &&& 1#64 = 1#64
  · obtain ⟨others, rest⟩ := last (flags &&& ~~~1#64)
    exact ⟨others, by rw [logDecodedFlagsLoop, if_neg (not_not.mpr exclusive), rest, if_pos exclusive]; rfl⟩
  · obtain ⟨others, rest⟩ := last flags
    exact ⟨others, by rw [logDecodedFlagsLoop, if_pos exclusive, rest, if_neg exclusive]; rfl⟩

/-- `MALI_EXT_RES_ACCESS_SHARED` has no bits, so every word has it. -/
theorem resourceLine_eq (word : BitVec 64) : ∃ others : List Nat,
    resourceLine word = [.logCont "0x%PRIx64" [.nat word.toNat], .logCont " (" [],
        .logCont "%s" [.str "MALI_EXT_RES_ACCESS_SHARED"]] ++
      ((if word &&& 1#64 = 1#64 then [.logCont " | " [], .logCont "%s" [.str "MALI_EXT_RES_ACCESS_EXCLUSIVE"]] else []) ++
        otherFlags others ++ [.logCont ")" []]) ++ [.logCont "\n" []] := by
  have shared : ¬ word &&& 0#64 ≠ 0#64 := not_not.mpr BitVec.and_zero
  have kept : word &&& ~~~0#64 = word := by rw [BitVec.not_zero, BitVec.and_allOnes]
  obtain ⟨others, rest⟩ := exclusiveLoop_eq word
  refine ⟨others, ?_⟩
  rw [resourceLine, panwrapLogDecodedFlags, externalResourcesAccessFlagInfo, logDecodedFlagsLoop, if_neg shared, kept,
    rest]
  rfl

theorem otherFlags_filterMap {α : Type} {f : Out → Option α} (none : ∀ value, f (.logCont " | 0x%PRIx64" [.nat value]) = none)
    (others : List Nat) : (otherFlags others).filterMap f = [] := by
  rw [List.filterMap_eq_nil_iff]
  intro item member
  obtain ⟨value, -, rfl⟩ := List.mem_map.mp member
  exact none value

theorem resourceLine_continues (word : BitVec 64) : ∀ item ∈ resourceLine word, continues item = true := by
  obtain ⟨others, line⟩ := resourceLine_eq word
  have all : (resourceLine word).all continues = true := by
    rw [line]
    split <;> simp [continues, otherFlags]
  exact List.all_eq_true.mp all

theorem resourceLine_values (word : BitVec 64) : (resourceLine word).filterMap loggedValue = [word.toNat] := by
  obtain ⟨others, line⟩ := resourceLine_eq word
  have none := otherFlags_filterMap (f := loggedValue) (fun _ => rfl) others
  simp only [line, List.filterMap_append, none]
  split <;> rfl

theorem resourceLine_names (word : BitVec 64) : (resourceLine word).filterMap loggedName =
    "MALI_EXT_RES_ACCESS_SHARED" :: if word &&& 1#64 = 1#64 then ["MALI_EXT_RES_ACCESS_EXCLUSIVE"] else [] := by
  obtain ⟨others, line⟩ := resourceLine_eq word
  have none := otherFlags_filterMap (f := loggedName) (fun _ => rfl) others
  simp only [line, List.filterMap_append, none]
  split <;> rfl

theorem resourceLines_skip {line : List Out} (all : ∀ item ∈ line, continues item = true) (rest : List Out) :
    resourceLines (line ++ rest) = resourceLines rest := by
  induction line with
  | nil => rfl
  | cons item line ih =>
    have other : item ≠ .log "\t\t\t" [] := by
      intro same
      have continued := all item (List.mem_cons_self ..)
      rw [same] at continued
      exact absurd continued Bool.false_ne_true
    rw [List.cons_append, resourceLines, if_neg other]
    exact ih fun item member => all item (List.mem_cons_of_mem _ member)

theorem resourceLines_text (words : List (BitVec 64)) : resourceLines (resourceText words) = words.map resourceLine := by
  induction words with
  | nil => rfl
  | cons word words ih =>
    have stops : (resourceText words).takeWhile continues = [] := by
      cases words <;> rfl
    have all := resourceLine_continues word
    have whole : resourceText (word :: words) = .log "\t\t\t" [] :: (resourceLine word ++ resourceText words) := rfl
    rw [whole, resourceLines, if_pos rfl, List.takeWhile_append_of_pos all, stops, List.append_nil,
      resourceLines_skip all, ih, List.map_cons]

end Lines

section Decoding

variable {w : Nat}

def resourceWords (m : Memory w) (list : BitVec w) (n : Nat) : List (BitVec 64) :=
  (List.range n).map fun j => m.read 64 list (8 * j)

def accessMode (word : BitVec 64) : String :=
  if word &&& maliExtResAccessExclusive ≠ 0#64 then "MALI_EXT_RES_ACCESS_EXCLUSIVE" else "MALI_EXT_RES_ACCESS_SHARED"

def loggedResources (out : List Out) : List (List Nat × List String) :=
  (resourceLines out).map fun line => (line.filterMap loggedValue, line.filterMap loggedName)

/-- The section on the external resources of an atom: its lines show each word and name its one mode, and
    it reads nothing but the words. -/
structure ResourcesDecoded (s : Proc w) (atom : MaliJdAtomV2 w) : Prop where
  logged : loggedResources (logExtResources atom s).out =
    (resourceWords s.mem atom.extResList atom.nrExtRes.toNat).map fun word => ([word.toNat], [accessMode word])
  inside : ReadsOnly (region atom.extResList (8 * atom.nrExtRes.toNat)) (logExtResources atom) s

/-- The words that are read: the second of each pair. -/
def pairedWords (m : Memory w) (list : BitVec w) (n : Nat) : List (BitVec 64) :=
  (List.range n).map fun j => m.read 64 list (16 * j + 8)

def resourceSection (m : Memory w) (list : BitVec w) (n : Nat) : List Out :=
  .log "\t\text_res_list.count = %PRId64\n" [.int (m.read 64 list 0).toInt] ::
    .log "\t\tExternal resources:\n" [] :: resourceText (pairedWords m list n)

theorem prints_logExtResources {atom : MaliJdAtomV2 w} (listed : atom.extResList ≠ 0#w) (m : Memory w) :
    Prints (logExtResources atom) m (resourceSection m atom.extResList atom.nrExtRes.toNat) := by
  rw [logExtResources, if_pos listed, resourceSection, resourceText, pairedWords, List.flatMap_map]
  apply prints_deref_bind listed
  apply (prints_put _).bind
  apply (prints_put _).bind
  apply prints_forEach
  intro j
  apply (prints_put _).bind
  apply prints_deref_bind listed
  rw [Memory.read_part]
  exact (prints_put _).bind (prints_put _)

theorem prints_noResources {atom : MaliJdAtomV2 w} (none : atom.extResList = 0#w) (m : Memory w) :
    Prints (logExtResources atom) m [.log "\t\t<no external resources>\n" []] := by
  rw [logExtResources, if_neg (not_not.mpr none)]
  exact prints_put _

theorem loggedResources_section (m : Memory w) (list : BitVec w) (n : Nat) :
    loggedResources (resourceSection m list n) = (pairedWords m list n).map fun word => ([word.toNat],
      "MALI_EXT_RES_ACCESS_SHARED" :: if word &&& 1#64 = 1#64 then ["MALI_EXT_RES_ACCESS_EXCLUSIVE"] else []) := by
  have lines : resourceLines (resourceSection m list n) = (pairedWords m list n).map resourceLine :=
    resourceLines_text _
  simp only [loggedResources, lines, List.map_map, Function.comp_def, resourceLine_values, resourceLine_names]

/-- A word that is not among the resources is shown: the count where there are none, else the last word read. -/
theorem shows_outside (width : 32 ≤ w) (list : BitVec w) (n : Nat) (small : n < 2 ^ 16) : ∃ off : Nat,
    Disjoint (region (list + BitVec.ofNat w off) (64 / 8)) (region list (8 * n)) ∧
      ∀ m m' : Memory w, resourceSection m list n = resourceSection m' list n →
        m.read 64 list off = m'.read 64 list off := by
  have power : 2 ^ 32 ≤ 2 ^ w := Nat.pow_le_pow_right (by decide) width
  cases n with
  | zero =>
    refine ⟨0, Set.disjoint_right.mpr fun a member => absurd (mem_region.mp member) (Nat.not_lt_zero _), ?_⟩
    intro m m' same
    have counts := List.head_eq_of_cons_eq same
    simp only [Out.log.injEq, List.cons.injEq, Arg.int.injEq, and_true, true_and] at counts
    exact BitVec.eq_of_toInt_eq counts
  | succ last =>
    have start : list = list + BitVec.ofNat w 0 := (BitVec.add_zero list).symm
    refine ⟨16 * last + 8, ?_, ?_⟩
    · conv => enter [2]; rw [start]
      exact Memory.region_parts_disjoint (by omega) (by omega) (by omega)
    · intro m m' same
      have lines := congrArg loggedResources same
      simp only [loggedResources_section, pairedWords, List.map_map, Function.comp_def] at lines
      have words := List.map_inj_left.mp lines last (List.mem_range.mpr (Nat.lt_succ_self last))
      exact BitVec.eq_of_toNat_eq (List.head_eq_of_cons_eq (congrArg Prod.fst words))

theorem reads_outside {atom : MaliJdAtomV2 w} (width : 32 ≤ w) (listed : atom.extResList ≠ 0#w) (s : Proc w) :
    ¬ ReadsOnly (region atom.extResList (8 * atom.nrExtRes.toNat)) (logExtResources atom) s := by
  have eight : 64 / 8 ≤ 2 ^ w := le_trans (by decide) (Nat.pow_le_pow_right (by decide) width)
  obtain ⟨off, outside, shows⟩ := shows_outside width atom.extResList atom.nrExtRes.toNat atom.nrExtRes.isLt
  exact not_readsOnly (prints_logExtResources listed) (by decide) (by decide) eight outside fun m => shows m s.mem

/-- External resources are decoded as the driver encodes them only where there are none. Otherwise each line
    shows the second word of a pair, shared whatever it is. -/
theorem resources_decoded_iff (build : Build) (s : Proc build.bits) (atom : MaliJdAtomV2 build.bits) :
    (ResourcesDecoded s atom ↔ atom.extResList = 0#(build.bits) ∧ atom.nrExtRes = 0#16) ∧
      (atom.extResList ≠ 0#(build.bits) → loggedResources (logExtResources atom s).out =
        (pairedWords s.mem atom.extResList atom.nrExtRes.toNat).map fun word => ([word.toNat],
          "MALI_EXT_RES_ACCESS_SHARED" :: if word &&& 1#64 = 1#64 then ["MALI_EXT_RES_ACCESS_EXCLUSIVE"] else [])) := by
  have width : 32 ≤ build.bits := by cases build <;> decide
  refine ⟨⟨?_, ?_⟩, ?_⟩
  · intro decoded
    have none : atom.extResList = 0#(build.bits) := by
      by_contra listed
      exact reads_outside width listed s decoded.inside
    have logged := decoded.logged
    rw [(prints_noResources none s.mem).out_eq] at logged
    have empty : atom.nrExtRes.toNat = 0 := by simpa [loggedResources, resourceLines, resourceWords] using logged
    exact ⟨none, BitVec.eq_of_toNat_eq empty⟩
  · rintro ⟨none, empty⟩
    refine ⟨?_, ?_⟩
    · rw [(prints_noResources none s.mem).out_eq, empty]
      rfl
    · exact (readsOnly_iff (prints_noResources none)).mpr fun _ _ => rfl
  · intro listed
    rw [(prints_logExtResources listed s.mem).out_eq]
    exact loggedResources_section s.mem atom.extResList atom.nrExtRes.toNat

def fragmentAtom : MaliJdAtomV2 32 :=
  dependentAtom 0x20000#64 0x9000#32 (maliJdReqExternalResources ||| maliJdReqFs) maliJdPrioMedium 1#8 2#8

def fragmentMemory : Memory 32 := fun a =>
  if a = 0x9000#32 then 0x01#8 else if a = 0x9001#32 then 0x20#8 else if a = 0x9002#32 then 0x01#8 else 0#8

theorem framebuffer_misread :
    resourceWords fragmentMemory fragmentAtom.extResList fragmentAtom.nrExtRes.toNat =
        [0x12000#64 ||| maliExtResAccessExclusive] ∧
      ¬ ResourcesDecoded ⟨fragmentMemory, 0⟩ fragmentAtom := by
  refine ⟨by decide, fun decoded => ?_⟩
  exact absurd decoded.logged (by decide)

end Decoding

end Driver
