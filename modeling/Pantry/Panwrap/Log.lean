import Mathlib.Data.List.Basic
import Mathlib.Tactic.Common

namespace Panwrap

inductive Arg where
  | nat (value : Nat)
  | int (value : Int)
  | str (text : String)
  | chr (char : Char)
  | float (bits : BitVec 32)
  | half (bits : BitVec 16)
  /-- Two to the power of `exponent`, divided by `divisor`. -/
  | pow2 (exponent divisor : Nat)
  /-- The bytes of a C string, its terminator left out. -/
  | text (content : List (BitVec 8))
  /-- A variable that was never assigned. -/
  | unset
  deriving DecidableEq, Repr

/-- What the decoder has recognised. A mark accompanies the log lines about it and prints
    nothing itself. -/
inductive Mark where
  | atom (index : Nat)
  | descriptor (addr : BitVec 64) (jobType : Nat)
  | setValue (out : BitVec 64)
  | shader (addr : BitVec 64)
  | attribute (number : BitVec 64)
  | framebuffer (addr : BitVec 64)
  deriving DecidableEq, Repr

/-- What a call puts out: log lines with their format strings, text for stdout, files. -/
inductive Out where
  | log (format : String) (args : List Arg)
  | logCont (format : String) (args : List Arg)
  | print (format : String) (args : List Arg)
  | file (name : String) (content : List (BitVec 8))
  | mark (found : Mark)
  deriving DecidableEq, Repr

def Out.found : Out → Option Mark
  | .mark found => some found
  | _ => none

/-- `struct panwrap_flag_info`; a table is a list without its terminator. -/
structure FlagInfo where
  flag : BitVec 64
  name : String
  deriving DecidableEq, Repr

def logDecodedFlagsLoop (found : Bool) (flags : BitVec 64) : List FlagInfo → List Out
  | [] =>
    if found then
      (if flags ≠ 0 then [.logCont " | 0x%PRIx64" [.nat flags.toNat]] else []) ++ [.logCont ")" []]
    else []
  | info :: rest =>
    if flags &&& info.flag ≠ info.flag then logDecodedFlagsLoop found flags rest
    else
      [.logCont (if found then " | " else " (") [], .logCont "%s" [.str info.name]] ++
        logDecodedFlagsLoop true (flags &&& ~~~info.flag) rest

def panwrapLogDecodedFlags (flagInfo : List FlagInfo) (flags : BitVec 64) : List Out :=
  .logCont "0x%PRIx64" [.nat flags.toNat] :: logDecodedFlagsLoop false flags flagInfo

def hexdumpColLen : Nat := 4
def hexdumpRowLen : Nat := 16

def hexdumpChar (byte : BitVec 8) : Char :=
  if 0x20 ≤ byte.toNat ∧ byte.toNat ≤ 0x7e then Char.ofNat byte.toNat else '.'

def setAlpha (alpha : Nat → Char) (i : Nat) (char : Char) : Nat → Char :=
  fun j => if j = i then char else alpha j

def alphaText (alpha : Nat → Char) : String :=
  String.ofList ((List.range hexdumpRowLen).map alpha)

def hexdumpPad : Nat → Nat → (Nat → Char) → List Out
  | 0, _, _ => []
  | left + 1, i, alpha =>
    .logCont "   " [] ::
      ((if i = hexdumpRowLen - 1 then [.logCont "\t|%s|\n" [.str (alphaText (setAlpha alpha i '.'))]]
        else []) ++
      hexdumpPad left (i + 1) (setAlpha alpha i '.'))

/-- The main loop at byte `i`. The branch for a pointer that wrapped is left out: an object
    of C does not reach around the address space. -/
def hexdumpLoop (indent : String) : Nat → (Nat → Char) → List (BitVec 8) → List Out
  | i, alpha, [] =>
    if i % hexdumpRowLen ≠ 0 then hexdumpPad (hexdumpRowLen - i % hexdumpRowLen) (i % hexdumpRowLen) alpha
    else []
  | i, alpha, byte :: rest =>
    let alpha' := setAlpha alpha (i % hexdumpRowLen) (hexdumpChar byte)
    (if i % hexdumpRowLen = 0 then [.log "%s%08X" [.str indent, .nat i]] else []) ++
    (if i % hexdumpColLen = 0 then [.logCont " " []] else []) ++
    [.logCont " %02x" [.nat byte.toNat]] ++
    (if i % hexdumpRowLen = hexdumpRowLen - 1 then [.logCont "\t|%s|\n" [.str (alphaText alpha')]]
      else []) ++
    hexdumpLoop indent (i + 1) alpha' rest

def panwrapLogHexdump (data : Option (List (BitVec 8))) (indent : String) : List Out :=
  match data with
  | none => [.log "NULL pointer dereference(hexdump)\n" []]
  | some content => hexdumpLoop indent 0 (fun _ => '.') content

/-- The backward scan for the last byte, among the first `n`, that is not 0. -/
def trimScan (content : List (BitVec 8)) : Nat → Int
  | 0 => -1
  | n + 1 => if content.getD n 0 ≠ 0 then n else trimScan content n

def panwrapLogHexdumpTrimmed (enableHexdumpTrimming : Bool) (data : Option (List (BitVec 8)))
    (indent : String) : List Out :=
  if !enableHexdumpTrimming then panwrapLogHexdump data indent
  else match data with
    | none => [.log "NULL pointer dereference(hexdump)\n" []]
    | some content =>
      let trimOffset := trimScan content content.length
      if trimOffset < 0 then panwrapLogHexdump (some content) indent
      else
        let trimSize := trimOffset.toNat + 1
        panwrapLogHexdump (some (content.take trimSize)) indent ++
          [.log "%s<0 repeating %zu times>\n" [.str indent, .nat (content.length - trimSize)]]

section NoMarks

theorem logDecodedFlagsLoop_unmarked (found : Bool) (flags : BitVec 64) (table : List FlagInfo) :
    (logDecodedFlagsLoop found flags table).filterMap Out.found = [] := by
  induction table generalizing found flags with
  | nil => unfold logDecodedFlagsLoop; split <;> [split; skip] <;> rfl
  | cons info rest ih =>
    unfold logDecodedFlagsLoop
    split
    · exact ih _ _
    · rw [List.filterMap_append, ih, List.append_nil]
      rfl

theorem hexdumpPad_unmarked (left i : Nat) (alpha : Nat → Char) :
    (hexdumpPad left i alpha).filterMap Out.found = [] := by
  induction left generalizing i alpha with
  | zero => rfl
  | succ left ih =>
    unfold hexdumpPad
    split <;> simp only [List.filterMap_cons, Out.found, List.filterMap_append, ih, List.filterMap_nil,
      List.append_nil]

theorem hexdumpLoop_unmarked (indent : String) (i : Nat) (alpha : Nat → Char)
    (content : List (BitVec 8)) : (hexdumpLoop indent i alpha content).filterMap Out.found = [] := by
  induction content generalizing i alpha with
  | nil => unfold hexdumpLoop; split <;> [exact hexdumpPad_unmarked _ _ _; rfl]
  | cons byte rest ih =>
    simp only [hexdumpLoop, List.filterMap_append, ih]
    split <;> split <;> split <;> rfl

theorem panwrapLogHexdump_unmarked (data : Option (List (BitVec 8))) (indent : String) :
    (panwrapLogHexdump data indent).filterMap Out.found = [] := by
  cases data with
  | none => rfl
  | some content => exact hexdumpLoop_unmarked _ _ _ _

theorem panwrapLogHexdumpTrimmed_unmarked (trim : Bool) (data : Option (List (BitVec 8)))
    (indent : String) : (panwrapLogHexdumpTrimmed trim data indent).filterMap Out.found = [] := by
  unfold panwrapLogHexdumpTrimmed
  split
  · exact panwrapLogHexdump_unmarked _ _
  · cases data with
    | none => rfl
    | some content =>
      dsimp only
      split
      · exact panwrapLogHexdump_unmarked _ _
      · rw [List.filterMap_append, panwrapLogHexdump_unmarked]
        rfl

end NoMarks

end Panwrap
