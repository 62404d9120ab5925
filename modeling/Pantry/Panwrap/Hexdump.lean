import Pantry.Panwrap.Log
import Mathlib.Data.List.Range
import Mathlib.Algebra.GroupWithZero.Nat

namespace Panwrap

/-! What a hex dump shows, byte by byte and row by row. -/

section Rows

variable (indent : String) (content : List (BitVec 8))

/-- The character of byte `i`; the padding behind the last byte has dots. -/
def charAt (i : Nat) : Char :=
  match content[i]? with
  | some byte => hexdumpChar byte
  | none => '.'

def rowText (k : Nat) : String := String.ofList ((List.range hexdumpRowLen).map fun j => charAt content (hexdumpRowLen * k + j))

/-- What the dump puts out at byte `i`, or in its place. -/
def hexCell (i : Nat) : List Out :=
  match content[i]? with
  | some byte => (if i % hexdumpColLen = 0 then [.logCont " " []] else []) ++ [.logCont " %02x" [.nat byte.toNat]]
  | none => [.logCont "   " []]

def hexRow (k : Nat) : List Out :=
  .log "%s%08X" [.str indent, .nat (hexdumpRowLen * k)] ::
    ((List.range hexdumpRowLen).flatMap (fun j => hexCell content (hexdumpRowLen * k + j)) ++
      [.logCont "\t|%s|\n" [.str (rowText content k)]])

def rowCount : Nat := (content.length + 15) / hexdumpRowLen

/-- The rows from row `q` on. -/
def rowsFrom (q : Nat) : List Out := (List.range' q (rowCount content - q)).flatMap (hexRow indent content)

/-- What row `q` has left at its place `i`. -/
def rowRest (q i : Nat) : List Out :=
  (List.range' i (hexdumpRowLen - i)).flatMap (fun j => hexCell content (hexdumpRowLen * q + j)) ++
    [.logCont "\t|%s|\n" [.str (rowText content q)]]

end Rows

section Loop

variable {indent : String} {content : List (BitVec 8)} {q i : Nat} {alpha : Nat → Char}

theorem hexRow_eq : hexRow indent content q = .log "%s%08X" [.str indent, .nat (hexdumpRowLen * q)] :: rowRest content q 0 := by
  rw [hexRow, rowRest, Nat.sub_zero, List.range_eq_range']

theorem rowRest_cons (before : i + 1 < hexdumpRowLen) :
    rowRest content q i = hexCell content (hexdumpRowLen * q + i) ++ rowRest content q (i + 1) := by
  have count : hexdumpRowLen - i = hexdumpRowLen - (i + 1) + 1 := by omega
  rw [rowRest, count, List.range'_succ, List.flatMap_cons, List.append_assoc]
  rfl

theorem rowRest_last (last : i + 1 = hexdumpRowLen) :
    rowRest content q i = hexCell content (hexdumpRowLen * q + i) ++ [.logCont "\t|%s|\n" [.str (rowText content q)]] := by
  have count : hexdumpRowLen - i = 1 := by omega
  rw [rowRest, count, List.range'_one, List.flatMap_singleton]

theorem rowsFrom_cons (before : q < rowCount content) :
    rowsFrom indent content q = hexRow indent content q ++ rowsFrom indent content (q + 1) := by
  have count : rowCount content - q = rowCount content - (q + 1) + 1 := by omega
  rw [rowsFrom, count, List.range'_succ, List.flatMap_cons]
  rfl

theorem rowsFrom_end (past : rowCount content ≤ q) : rowsFrom indent content q = [] := by
  rw [rowsFrom, Nat.sub_eq_zero_of_le past]
  rfl

/-- The first `i` characters of row `q` are in `alpha`. -/
def Filled (content : List (BitVec 8)) (q i : Nat) (alpha : Nat → Char) : Prop :=
  ∀ j < i, alpha j = charAt content (hexdumpRowLen * q + j)

theorem Filled.next (filled : Filled content q i alpha) :
    Filled content q (i + 1) (setAlpha alpha i (charAt content (hexdumpRowLen * q + i))) := by
  intro j before
  unfold setAlpha
  split
  · rename_i here
    rw [here]
  · exact filled j (by omega)

theorem Filled.text (filled : Filled content q hexdumpRowLen alpha) : alphaText alpha = rowText content q := by
  unfold alphaText rowText
  congr 1
  apply List.map_congr_left
  intro j member
  exact filled j (List.mem_range.mp member)

theorem charAt_padding (behind : content.length ≤ i) : charAt content i = '.' := by
  rw [charAt, List.getElem?_eq_none behind]

theorem hexCell_padding (behind : content.length ≤ i) : hexCell content i = [.logCont "   " []] := by
  rw [hexCell, List.getElem?_eq_none behind]

theorem hexdumpPad_row (left : Nat) (row : i + (left + 1) = hexdumpRowLen) (filled : Filled content q i alpha)
    (behind : content.length ≤ hexdumpRowLen * q + i) : hexdumpPad (left + 1) i alpha = rowRest content q i := by
  induction left generalizing i alpha with
  | zero =>
    have next := filled.next
    rw [charAt_padding behind, row] at next
    have here : i = hexdumpRowLen - 1 := by omega
    rw [rowRest_last row, hexCell_padding behind, hexdumpPad, if_pos here, next.text]
    rfl
  | succ left ih =>
    have next := filled.next
    rw [charAt_padding behind] at next
    have here : i ≠ hexdumpRowLen - 1 := by omega
    rw [rowRest_cons (by omega), hexCell_padding behind, hexdumpPad, if_neg here, ih (by omega) next (by omega)]
    rfl

theorem row_place (inside : i < hexdumpRowLen) : (hexdumpRowLen * q + i) % hexdumpRowLen = i := by
  rw [Nat.mul_add_mod, Nat.mod_eq_of_lt inside]

theorem hexdumpLoop_rows {todo : List (BitVec 8)} (inside : i < hexdumpRowLen) (filled : Filled content q i alpha)
    (left : content.drop (hexdumpRowLen * q + i) = todo) (reached : hexdumpRowLen * q + i ≤ content.length) :
    hexdumpLoop indent (hexdumpRowLen * q + i) alpha todo =
      if i = 0 then rowsFrom indent content q else rowRest content q i ++ rowsFrom indent content (q + 1) := by
  have rows : rowCount content = (content.length + 15) / 16 := rfl
  have sixteen : hexdumpRowLen = 16 := rfl
  induction todo generalizing q i alpha with
  | nil =>
    have product : hexdumpRowLen * q = 16 * q := rfl
    have length := congrArg List.length left
    rw [List.length_drop, List.length_nil] at length
    rw [hexdumpLoop, row_place inside]
    by_cases start : i = 0
    · rw [if_pos start, if_neg (not_not.mpr start), rowsFrom_end (by omega)]
    · have count : hexdumpRowLen - i = hexdumpRowLen - i - 1 + 1 := by omega
      rw [if_neg start, if_pos start, rowsFrom_end (by omega), List.append_nil, count]
      exact hexdumpPad_row _ (by omega) filled (by omega)
  | cons byte rest ih =>
    have product : hexdumpRowLen * q = 16 * q := rfl
    have length := congrArg List.length left
    rw [List.length_drop, List.length_cons] at length
    have here : content[hexdumpRowLen * q + i]? = some byte := by
      rw [← List.head?_drop, left]
      rfl
    have tail : content.drop (hexdumpRowLen * q + i + 1) = rest := by
      rw [← List.tail_drop, left]
      rfl
    have char : charAt content (hexdumpRowLen * q + i) = hexdumpChar byte := by rw [charAt, here]
    have cell : hexCell content (hexdumpRowLen * q + i) =
        (if (hexdumpRowLen * q + i) % hexdumpColLen = 0 then [.logCont " " []] else []) ++ [.logCont " %02x" [.nat byte.toNat]] := by
      rw [hexCell, here]
    have next := filled.next
    rw [char] at next
    rw [hexdumpLoop, row_place inside]
    by_cases last : i + 1 = hexdumpRowLen
    · have after : hexdumpRowLen * q + i + 1 = hexdumpRowLen * (q + 1) + 0 := by
        rw [Nat.add_assoc, last]
        rfl
      have start : ¬ i = 0 := by omega
      have final : i = hexdumpRowLen - 1 := by omega
      have empty : Filled content (q + 1) 0 (setAlpha alpha i (hexdumpChar byte)) := fun j none => absurd none (Nat.not_lt_zero j)
      have reached' : hexdumpRowLen * (q + 1) + 0 ≤ content.length := by
        rw [← after]
        omega
      have later := ih (by decide) empty (by rw [← after]; exact tail) reached'
      rw [if_pos rfl, ← after] at later
      rw [last] at next
      rw [if_neg start, if_neg start, if_pos final, later, rowRest_last last, cell, next.text, List.nil_append, List.append_assoc]
    · have short : i + 1 < hexdumpRowLen := by omega
      have inner : ¬ i = hexdumpRowLen - 1 := by omega
      have later := ih short next tail (by omega)
      rw [if_neg (Nat.succ_ne_zero i), ← Nat.add_assoc] at later
      rw [if_neg inner, later, List.append_nil]
      by_cases start : i = 0
      · have more : q < rowCount content := by omega
        rw [if_pos start, if_pos start, rowsFrom_cons more, hexRow_eq]
        subst start
        rw [rowRest_cons short, cell]
        simp only [Nat.add_zero, List.cons_append, List.nil_append, List.append_assoc]
      · rw [if_neg start, if_neg start, rowRest_cons short, cell]
        simp only [List.nil_append, List.append_assoc]

end Loop

/-- A hex dump is its rows. -/
theorem panwrapLogHexdump_rows (content : List (BitVec 8)) (indent : String) :
    panwrapLogHexdump (some content) indent = (List.range (rowCount content)).flatMap (hexRow indent content) := by
  have start : Filled content 0 0 (fun _ => '.') := fun j none => absurd none (Nat.not_lt_zero j)
  have whole : hexdumpLoop indent (hexdumpRowLen * 0 + 0) (fun _ => '.') content = rowsFrom indent content 0 :=
    hexdumpLoop_rows (by decide) start rfl (Nat.zero_le _)
  rw [List.range_eq_range']
  exact whole

section Shown

def hexByte : Out → Option (BitVec 8)
  | .logCont " %02x" [.nat byte] => some (BitVec.ofNat 8 byte)
  | _ => none

/-- The bytes that are printed in hex, in order. -/
def hexBytes (out : List Out) : List (BitVec 8) := out.filterMap hexByte

def repeating : Out → Option Nat
  | .log "%s<0 repeating %zu times>\n" [.str _, .nat count] => some count
  | _ => none

/-- The counts of the lines about trailing zeros. -/
def repeats (out : List Out) : List Nat := out.filterMap repeating

variable {indent : String} {content : List (BitVec 8)} {k i : Nat}

theorem hexBytes_append (first second : List Out) : hexBytes (first ++ second) = hexBytes first ++ hexBytes second :=
  List.filterMap_append ..

theorem hexBytes_cell : hexBytes (hexCell content i) = content[i]?.toList := by
  unfold hexCell
  cases content[i]? with
  | none => rfl
  | some byte =>
    have value : hexByte (.logCont " %02x" [.nat byte.toNat]) = some byte := by
      rw [hexByte, BitVec.ofNat_toNat, BitVec.setWidth_eq]
    have shown : hexBytes [.logCont " %02x" [.nat byte.toNat]] = [byte] := by
      rw [hexBytes, List.filterMap_cons_some value, List.filterMap_nil]
    have gap : hexBytes (if i % hexdumpColLen = 0 then [.logCont " " []] else []) = [] := by split <;> rfl
    dsimp only
    rw [hexBytes_append, gap, shown]
    rfl

theorem repeats_cell : repeats (hexCell content i) = [] := by
  unfold hexCell
  cases content[i]? with
  | none => rfl
  | some byte =>
    dsimp only
    split <;> rfl

theorem range_flatMap_getElem? {α : Type} (l : List α) (n : Nat) :
    (List.range n).flatMap (fun j => l[j]?.toList) = l.take n := by
  induction n with
  | zero => rfl
  | succ n ih => rw [List.range_succ, List.flatMap_append, ih, List.flatMap_singleton, List.take_add_one]

theorem range_flatMap_chunks {α : Type} (l : List α) (n m : Nat) :
    (List.range m).flatMap (fun k => (l.drop (n * k)).take n) = l.take (n * m) := by
  induction m with
  | zero => rfl
  | succ m ih => rw [List.range_succ, List.flatMap_append, ih, List.flatMap_singleton, Nat.mul_succ, List.take_add]

theorem hexBytes_row : hexBytes (hexRow indent content k) = (content.drop (hexdumpRowLen * k)).take hexdumpRowLen := by
  have cells : hexBytes ((List.range hexdumpRowLen).flatMap fun j => hexCell content (hexdumpRowLen * k + j)) =
      (content.drop (hexdumpRowLen * k)).take hexdumpRowLen := by
    rw [hexBytes, List.filterMap_flatMap, ← range_flatMap_getElem?]
    congr 1
    funext j
    rw [List.getElem?_drop]
    exact hexBytes_cell
  have head : hexByte (.log "%s%08X" [.str indent, .nat (hexdumpRowLen * k)]) = none := rfl
  have text : hexBytes [.logCont "\t|%s|\n" [.str (rowText content k)]] = [] := rfl
  rw [hexRow, hexBytes, List.filterMap_cons_none head]
  change hexBytes (_ ++ _) = _
  rw [hexBytes_append, cells, text, List.append_nil]

theorem repeats_row : repeats (hexRow indent content k) = [] := by
  have cells : repeats ((List.range hexdumpRowLen).flatMap fun j => hexCell content (hexdumpRowLen * k + j)) = [] := by
    rw [repeats, List.filterMap_flatMap, List.flatMap_eq_nil_iff]
    exact fun j _ => repeats_cell
  have head : repeating (.log "%s%08X" [.str indent, .nat (hexdumpRowLen * k)]) = none := rfl
  have text : repeats [.logCont "\t|%s|\n" [.str (rowText content k)]] = [] := rfl
  rw [hexRow, repeats, List.filterMap_cons_none head, List.filterMap_append]
  change repeats _ ++ repeats _ = _
  rw [cells, text]
  rfl

theorem hexBytes_hexdump (content : List (BitVec 8)) (indent : String) :
    hexBytes (panwrapLogHexdump (some content) indent) = content := by
  have enough : content.length ≤ hexdumpRowLen * rowCount content := by
    unfold rowCount hexdumpRowLen
    omega
  rw [panwrapLogHexdump_rows, hexBytes, List.filterMap_flatMap]
  change (List.range (rowCount content)).flatMap (fun k => hexBytes (hexRow indent content k)) = content
  simp only [hexBytes_row]
  rw [range_flatMap_chunks, List.take_of_length_le enough]

theorem repeats_hexdump (content : List (BitVec 8)) (indent : String) :
    repeats (panwrapLogHexdump (some content) indent) = [] := by
  rw [panwrapLogHexdump_rows, repeats, List.filterMap_flatMap, List.flatMap_eq_nil_iff]
  exact fun k _ => repeats_row

end Shown

section Trim

variable {content : List (BitVec 8)} {n : Nat}

/-- The scan finds the last byte that is not 0, if there is one. -/
theorem trimScan_cases (content : List (BitVec 8)) (n : Nat) :
    (trimScan content n = -1 ∧ ∀ j < n, content.getD j 0 = 0) ∨
      ∃ last < n, trimScan content n = last ∧ content.getD last 0 ≠ 0 ∧ ∀ j, last < j → j < n → content.getD j 0 = 0 := by
  induction n with
  | zero => exact .inl ⟨rfl, fun j none => absurd none (Nat.not_lt_zero j)⟩
  | succ n ih =>
    rw [trimScan]
    by_cases zero : content.getD n 0 = 0
    · rw [if_neg (not_not.mpr zero)]
      rcases ih with ⟨scan, all⟩ | ⟨last, before, scan, found, behind⟩
      · refine .inl ⟨scan, ?_⟩
        intro j inside
        rcases Nat.lt_succ_iff_lt_or_eq.mp inside with earlier | rfl
        · exact all j earlier
        · exact zero
      · refine .inr ⟨last, Nat.lt_succ_of_lt before, scan, found, ?_⟩
        intro j later inside
        rcases Nat.lt_succ_iff_lt_or_eq.mp inside with earlier | rfl
        · exact behind j later earlier
        · exact zero
    · rw [if_pos zero]
      exact .inr ⟨n, Nat.lt_succ_self n, rfl, zero, fun j later inside => by omega⟩

theorem drop_zeros {last : Nat} (behind : ∀ j, last < j → j < content.length → content.getD j 0 = 0) :
    content.drop (last + 1) = List.replicate (content.length - (last + 1)) 0#8 := by
  rw [List.eq_replicate_iff, List.length_drop]
  refine ⟨rfl, ?_⟩
  intro byte member
  obtain ⟨j, found⟩ := List.getElem?_of_mem member
  rw [List.getElem?_drop] at found
  have inside : last + 1 + j < content.length := (List.getElem?_eq_some_iff.mp found).1
  have zero := behind (last + 1 + j) (by omega) inside
  rw [List.getD_eq_getElem?_getD, found] at zero
  exact zero

theorem getLast?_take {last : Nat} (before : last < content.length) :
    (content.take (last + 1)).getLast? = some (content.getD last 0) := by
  have length : (content.take (last + 1)).length = last + 1 := List.length_take_of_le before
  rw [List.getLast?_eq_getElem?, length, Nat.add_sub_cancel, List.getElem?_take_of_lt (Nat.lt_succ_self last),
    List.getD_eq_getElem?_getD, List.getElem?_eq_getElem before]
  rfl

end Trim

/-- The line about the zeros that a trimmed dump leaves out. -/
def repeatingLine (indent : String) (count : Nat) : Out :=
  .log "%s<0 repeating %zu times>\n" [.str indent, .nat count]

/-- A trimmed dump is the rows of what it shows, and at most one line that counts the zeros behind. -/
structure Dumps (indent : String) (content : List (BitVec 8)) (out : List Out) : Prop where
  rows : out = (List.range (rowCount (hexBytes out))).flatMap (hexRow indent (hexBytes out)) ++
    (repeats out).map (repeatingLine indent)
  once : (repeats out).length ≤ 1
  bytes : hexBytes out ++ List.replicate (repeats out).sum 0#8 = content
  last : repeats out ≠ [] → ∃ byte ≠ 0#8, (hexBytes out).getLast? = some byte

theorem dumps_whole (content : List (BitVec 8)) (indent : String) :
    Dumps indent content (panwrapLogHexdump (some content) indent) := by
  have none := repeats_hexdump content indent
  have all := hexBytes_hexdump content indent
  constructor
  · rw [none, all, List.map_nil, List.append_nil, panwrapLogHexdump_rows]
  · rw [none]
    exact Nat.zero_le 1
  · rw [none, all]
    exact List.append_nil content
  · exact fun some => absurd none some

theorem dumps_trimmed (content : List (BitVec 8)) (indent : String) :
    Dumps indent content (panwrapLogHexdumpTrimmed true (some content) indent) := by
  rcases trimScan_cases content content.length with ⟨scan, -⟩ | ⟨last, before, scan, found, behind⟩
  · have out : panwrapLogHexdumpTrimmed true (some content) indent = panwrapLogHexdump (some content) indent := by
      simp [panwrapLogHexdumpTrimmed, scan]
    rw [out]
    exact dumps_whole content indent
  · have out : panwrapLogHexdumpTrimmed true (some content) indent =
        panwrapLogHexdump (some (content.take (last + 1))) indent ++ [repeatingLine indent (content.length - (last + 1))] := by
      simp [panwrapLogHexdumpTrimmed, scan, repeatingLine]
    have shown : hexBytes (panwrapLogHexdumpTrimmed true (some content) indent) = content.take (last + 1) := by
      rw [out, hexBytes_append, hexBytes_hexdump]
      exact List.append_nil _
    have counts : repeats (panwrapLogHexdumpTrimmed true (some content) indent) = [content.length - (last + 1)] := by
      rw [out, repeats, List.filterMap_append]
      change repeats _ ++ [content.length - (last + 1)] = _
      rw [repeats_hexdump]
      rfl
    constructor
    · rw [counts, shown, out, panwrapLogHexdump_rows]
      rfl
    · rw [counts]
      exact Nat.le_refl 1
    · rw [counts, shown, List.sum_singleton, ← drop_zeros behind, List.take_append_drop]
    · intro _
      rw [shown]
      exact ⟨_, found, getLast?_take before⟩

/-- Row `k` of a dump of `content`, with `text` between its bars. -/
structure RowShows (indent : String) (content : List (BitVec 8)) (k : Nat) (row : List Out) (text : String) : Prop where
  offset : row.head? = some (.log "%s%08X" [.str indent, .nat (16 * k)])
  bytes : hexBytes row = (content.drop (16 * k)).take 16
  bars : row.getLast? = some (.logCont "\t|%s|\n" [.str text])
  width : text.length = 16
  chars : ∀ j < 16, text.toList[j]? = some (match content[16 * k + j]? with
    | some byte => if 0x20 ≤ byte.toNat ∧ byte.toNat ≤ 0x7e then Char.ofNat byte.toNat else '.'
    | none => '.')

theorem hexRow_shows (indent : String) (content : List (BitVec 8)) (k : Nat) :
    RowShows indent content k (hexRow indent content k) (rowText content k) where
  offset := rfl
  bytes := hexBytes_row
  bars := by rw [hexRow, ← List.cons_append, List.getLast?_concat]
  width := by rw [rowText, String.length_ofList, List.length_map, List.length_range, hexdumpRowLen]
  chars := by
    intro j inside
    rw [rowText, String.toList_ofList, List.getElem?_map, List.getElem?_range (show j < hexdumpRowLen from inside)]
    rfl

/-- A trimmed dump loses nothing: it shows its rows, and with the zeros that it counts they are the buffer. -/
theorem hexdump_loses_nothing (content : List (BitVec 8)) (indent : String) :
    ∃ out shown, panwrapLogHexdumpTrimmed true (some content) indent = out ∧ hexBytes out = shown ∧
      Dumps indent content out ∧
      (∀ k < rowCount shown, RowShows indent shown k (hexRow indent shown k) (rowText shown k)) ∧
      ∀ other, panwrapLogHexdumpTrimmed true (some other) indent = out → other = content := by
  have dumps := dumps_trimmed content indent
  refine ⟨_, _, rfl, rfl, dumps, fun k _ => hexRow_shows indent _ k, ?_⟩
  intro other same
  have others := dumps_trimmed other indent
  rw [same] at others
  exact others.bytes.symm.trans dumps.bytes

end Panwrap
