import Pantry.Machine.Cover
import Pantry.Panwrap.Log

namespace Panwrap

open Machine

def Out.flagName : Out → Option String
  | .logCont "%s" [.str name] => some name
  | _ => none

def Out.leftover : Out → Option Nat
  | .logCont " | 0x%PRIx64" [.nat value] => some value
  | _ => none

/-- The names of flags that are printed, in order. -/
def flagNames (out : List Out) : List String := out.filterMap Out.flagName

/-- The values that are printed for the flags without a name. -/
def leftovers (out : List Out) : List Nat := out.filterMap Out.leftover

section Loop

variable {found : Bool} {flags : BitVec 64} {info : FlagInfo} {table : List FlagInfo}

theorem logDecodedFlagsLoop_passed (other : ¬ Among info.flag flags) :
    logDecodedFlagsLoop found flags (info :: table) = logDecodedFlagsLoop found flags table := if_pos other

theorem logDecodedFlagsLoop_among (contained : Among info.flag flags) :
    logDecodedFlagsLoop found flags (info :: table) =
      [.logCont (if found then " | " else " (") [], .logCont "%s" [.str info.name]] ++
        logDecodedFlagsLoop true (flags &&& ~~~info.flag) table := if_neg (not_not.mpr contained)

theorem flagNames_loop :
    flagNames (logDecodedFlagsLoop found flags table) = (taken FlagInfo.flag flags table).map FlagInfo.name := by
  induction table generalizing found flags with
  | nil =>
    unfold logDecodedFlagsLoop
    split
    · split <;> rfl
    · rfl
  | cons info rest ih =>
    by_cases contained : Among info.flag flags
    · have separator : Out.flagName (.logCont (if found then " | " else " (") []) = none := by cases found <;> rfl
      have name : Out.flagName (.logCont "%s" [.str info.name]) = some info.name := rfl
      rw [logDecodedFlagsLoop_among contained, taken_among contained, flagNames, List.cons_append, List.filterMap_cons_none separator,
        List.cons_append, List.filterMap_cons_some name, List.map_cons]
      exact congrArg _ ih
    · rw [logDecodedFlagsLoop_passed contained, taken_passed contained, ih]

theorem leftovers_loop :
    leftovers (logDecodedFlagsLoop found flags table) =
      if (found = true ∨ taken FlagInfo.flag flags table ≠ []) ∧ residue FlagInfo.flag flags table ≠ 0#64 then
        [(residue FlagInfo.flag flags table).toNat] else [] := by
  induction table generalizing found flags with
  | nil =>
    have none : taken FlagInfo.flag flags [] = [] := rfl
    rw [residue_nil, none, logDecodedFlagsLoop]
    cases found with
    | false => rfl
    | true => by_cases zero : flags = 0#64 <;> simp [zero, leftovers, Out.leftover]
  | cons info rest ih =>
    by_cases contained : Among info.flag flags
    · have separator : Out.leftover (.logCont (if found then " | " else " (") []) = none := by cases found <;> rfl
      have name : Out.leftover (.logCont "%s" [.str info.name]) = none := rfl
      rw [logDecodedFlagsLoop_among contained, taken_among contained, residue_among contained, leftovers, List.cons_append,
        List.filterMap_cons_none separator, List.cons_append, List.filterMap_cons_none name, List.nil_append]
      refine ih.trans ?_
      simp only [true_or, true_and, ne_eq, reduceCtorEq, not_false_eq_true, or_true]
    · rw [logDecodedFlagsLoop_passed contained, taken_passed contained, residue_passed contained, ih]

end Loop

section Accounted

variable {value : BitVec 64} {table other : List FlagInfo}

theorem flagNames_decoded :
    flagNames (panwrapLogDecodedFlags table value) = (taken FlagInfo.flag value table).map FlagInfo.name := flagNames_loop

theorem leftovers_decoded :
    leftovers (panwrapLogDecodedFlags table value) =
      if taken FlagInfo.flag value table ≠ [] ∧ residue FlagInfo.flag value table ≠ 0#64 then
        [(residue FlagInfo.flag value table).toNat] else [] := by
  refine leftovers_loop.trans ?_
  simp only [Bool.false_eq_true, false_or]

/-- What is printed of `value` accounts for each of its bits once. -/
structure Accounted (table : List FlagInfo) (value : BitVec 64) : Prop where
  /-- The entry behind `before` is printed if what the entries printed of `before` leave contains its mask. -/
  rule : ∀ before info after, table = before ++ info :: after → ∃ later : List FlagInfo, later.Sublist after ∧
    taken FlagInfo.flag value table = taken FlagInfo.flag value before ++
      (if Among info.flag (value &&& ~~~union FlagInfo.flag (taken FlagInfo.flag value before)) then [info] else []) ++ later
  names : flagNames (panwrapLogDecodedFlags table value) = (taken FlagInfo.flag value table).map FlagInfo.name
  leftover : leftovers (panwrapLogDecodedFlags table value) =
    if taken FlagInfo.flag value table ≠ [] ∧ residue FlagInfo.flag value table ≠ 0#64 then
      [(residue FlagInfo.flag value table).toNat] else []
  cover : union FlagInfo.flag (taken FlagInfo.flag value table) ||| residue FlagInfo.flag value table = value
  apart : ∀ info ∈ taken FlagInfo.flag value table, residue FlagInfo.flag value table &&& info.flag = 0#64
  disjoint : (taken FlagInfo.flag value table).Pairwise fun first second => first.flag &&& second.flag = 0#64

theorem accounted : Accounted table value where
  rule := by
    intro before info after split
    rw [split]
    exact taken_at
  names := flagNames_decoded
  leftover := leftovers_decoded
  cover := union_residue
  apart := residue_disjoint
  disjoint := taken_pairwise

/-- Flag decoding accounts for every bit exactly once, and for masks that are pairwise disjoint the order of
    the table does not matter. -/
theorem flags_accounted (table : List FlagInfo) (value : BitVec 64) :
    Accounted table value ∧ ∀ other : List FlagInfo, table.Perm other →
      table.Pairwise (fun first second => first.flag &&& second.flag = 0#64) →
      (flagNames (panwrapLogDecodedFlags table value)).Perm (flagNames (panwrapLogDecodedFlags other value)) ∧
        residue FlagInfo.flag value table = residue FlagInfo.flag value other ∧
        leftovers (panwrapLogDecodedFlags table value) = leftovers (panwrapLogDecodedFlags other value) := by
  refine ⟨accounted, ?_⟩
  intro other perm disjoint
  have printed := taken_perm (v := value) disjoint perm
  have rest := residue_perm (v := value) disjoint perm
  refine ⟨?_, rest, ?_⟩
  · rw [flagNames_decoded, flagNames_decoded]
    exact printed.map _
  · have none : taken FlagInfo.flag value table ≠ [] ↔ taken FlagInfo.flag value other ≠ [] := by
      rw [ne_eq, ne_eq, ← List.length_eq_zero_iff, ← List.length_eq_zero_iff, printed.length_eq]
    rw [leftovers_decoded, leftovers_decoded, rest]
    simp only [none]

end Accounted

end Panwrap
