import Conformance.Proofs.Gathering
import Conformance.Proofs.Text.Search
import Mathlib.Data.List.DropRight
/-!
# Lines, by the table and by reading

The table of a text that is cut in two is the table of the front with the later starts of the back
behind it (`lineStarts_append`).  So the starts that are not past a cut are those of the text in
front of it, and the search of the table comes to the last of them (`splits_starts`): the line that
the table gives for a cut is the one that counting line feeds gives, and both count the characters
from there (`position_of_cut`, `positionScan_of_cut`).

For an offset that is no cut the table still gives a line that it holds (`lineIndex_lt`).
-/
namespace Conformance.Text

/-! ## Counting from one -/

theorem toNat_toUInt32_add_one_mod (n : Nat) :
    (n.toUInt32 + 1).toNat = (n % UInt32.size + 1) % UInt32.size := by
  rw [UInt32.toNat_add, Nat.toUInt32, UInt32.toNat_ofNat', UInt32.toNat_one]

theorem toNat_toUInt32_add_one {n : Nat} (h : n + 1 < UInt32.size) :
    (n.toUInt32 + 1).toNat = n + 1 := by
  rw [toNat_toUInt32_add_one_mod, UInt32.size]
  rw [UInt32.size] at h
  omega

theorem next_eq (n : Nat) : next n =
    if n % UInt32.size + 1 = UInt32.size then .error {} else .ok (n.toUInt32 + 1) := by
  have hzero : n.toUInt32 + 1 = 0 ↔ n % UInt32.size + 1 = UInt32.size := by
    rw [← UInt32.toNat_inj, toNat_toUInt32_add_one_mod, UInt32.toNat_zero, UInt32.size]
    omega
  simp only [next, hzero]

theorem next_of_lt {n : Nat} (h : n + 1 < UInt32.size) : next n = .ok (n.toUInt32 + 1) := by
  rw [next_eq, Nat.mod_eq_of_lt (by omega), if_neg (by omega)]

theorem toNat_of_next {n : Nat} {w : UInt32} (h : next n = .ok w) :
    w.toNat = n % UInt32.size + 1 := by
  rw [next_eq] at h
  split at h
  · cases h
  · rename_i hmax
    cases h
    rw [toNat_toUInt32_add_one_mod]
    rw [UInt32.size] at hmax ⊢
    omega

theorem exists_next_eq_error {n : Nat} :
    (∃ e, next n = .error e) ↔ n % UInt32.size + 1 = UInt32.size := by
  rw [next_eq]
  split
  · rename_i hmax
    exact ⟨fun _ => hmax, fun _ => ⟨_, rfl⟩⟩
  · rename_i hmax
    exact ⟨fun ⟨_, h⟩ => (by cases h), fun h => absurd h hmax⟩

/-! ## Cuts -/

theorem takeBytes?_append (front back : List Char) :
    takeBytes? (front ++ back) (byteLength front) = some front := by
  induction front with
  | nil => cases back <;> rfl
  | cons c front ih =>
    obtain ⟨n, hn⟩ := Nat.exists_eq_succ_of_ne_zero (Nat.ne_of_gt
      (Nat.lt_of_lt_of_le c.utf8Size_pos (Nat.le_add_right _ (byteLength front))))
    rw [List.cons_append, byteLength_cons, hn, takeBytes?, if_pos (by omega),
      show n + 1 - c.utf8Size = byteLength front by omega, ih]
    rfl

theorem dropBytes?_append (front back : List Char) :
    dropBytes? (front ++ back) (byteLength front) = some back := by
  obtain ⟨back', hdrop, hsame⟩ := takeBytes?_append_dropBytes? _ _ (takeBytes?_append front back)
  rw [hdrop, List.append_cancel_left hsame]

/-- **A text is cut where a character ends**, and nowhere else. -/
theorem takeBytes?_eq_some {text front : List Char} {n : Nat} :
    takeBytes? text n = some front ↔ ∃ back, text = front ++ back ∧ byteLength front = n := by
  constructor
  · intro h
    obtain ⟨back, -, htext⟩ := takeBytes?_append_dropBytes? text n h
    exact ⟨back, htext, byteLength_of_takeBytes? text n h⟩
  · rintro ⟨back, rfl, rfl⟩
    exact takeBytes?_append front back

theorem slice?_append (before middle after : List Char) :
    slice? (before ++ middle ++ after) (byteLength before) (byteLength (before ++ middle)) =
      some middle := by
  rw [slice?, if_pos (by rw [byteLength_append]; omega), List.append_assoc, dropBytes?_append,
    byteLength_append, Nat.add_sub_cancel_left]
  exact takeBytes?_append middle after

theorem slice?_zero (text : List Char) (stop : Nat) :
    slice? text 0 stop = takeBytes? text stop := by
  rw [slice?, if_pos (Nat.zero_le stop), Nat.sub_zero]
  cases text <;> rfl

theorem length_le_byteLength (text : List Char) : text.length ≤ byteLength text := by
  induction text with
  | nil => exact Nat.le_refl 0
  | cons c text ih =>
    have hpos := c.utf8Size_pos
    rw [List.length_cons, byteLength_cons]
    omega

theorem byteLength_eq_length {text : List Char} :
    byteLength text = text.length ↔ ∀ c ∈ text, c.utf8Size = 1 := by
  induction text with
  | nil => simp
  | cons c text ih =>
    have hpos := c.utf8Size_pos
    have hle := length_le_byteLength text
    rw [byteLength_cons, List.length_cons, List.forall_mem_cons, ← ih]
    omega

/-! ## Whole lines -/

/-- A text of whole lines is empty or ends in a line feed. -/
def WholeLines (text : List Char) : Prop := text = [] ∨ text.getLast? = some '\n'

theorem WholeLines.mem {text : List Char} (h : WholeLines text) (hne : text ≠ []) : '\n' ∈ text :=
  List.mem_of_getLast? (h.resolve_left hne)

theorem WholeLines.tail {c : Char} {text : List Char} (h : WholeLines (c :: text)) :
    WholeLines text := by
  by_cases hnil : text = []
  · exact .inl hnil
  · have hlast := h.resolve_left (List.cons_ne_nil c text)
    rw [List.getLast?_cons_of_ne_nil hnil] at hlast
    exact .inr hlast

theorem exists_wholeLines (text : List Char) : ∃ above line, text = above ++ line ∧
    WholeLines above ∧ '\n' ∉ line := by
  refine ⟨text.rdropWhile (· ≠ '\n'), text.rtakeWhile (· ≠ '\n'),
    List.rdropWhile_append_rtakeWhile.symm, ?_, fun hmem => ?_⟩
  · by_cases hnil : text.rdropWhile (· ≠ '\n') = []
    · exact .inl hnil
    · have hlast := List.rdropWhile_last_not _ _ hnil
      rw [WholeLines, List.getLast?_eq_some_getLast hnil]
      exact .inr (by simpa using hlast)
  · simpa using List.mem_rtakeWhile_imp hmem

section

variable {above line : List Char} (habove : WholeLines above) (hline : '\n' ∉ line)

include habove hline

theorem rtakeWhile_wholeLines : (above ++ line).rtakeWhile (· ≠ '\n') = line := by
  induction line using List.reverseRecOn with
  | nil =>
    rw [List.append_nil, List.rtakeWhile_eq_nil_iff]
    intro hne
    have hlast := habove.resolve_left hne
    rw [List.getLast?_eq_some_getLast hne, Option.some_inj] at hlast
    simp [hlast]
  | append_singleton line c ih =>
    rw [List.mem_append, List.mem_singleton, not_or] at hline
    have hc : c ≠ '\n' := Ne.symm hline.2
    rw [← List.append_assoc, List.rtakeWhile_concat_pos _ _ _ (by simpa using hc), ih hline.1]

theorem lastLine_wholeLines : lastLine (above ++ line) = line := by
  induction above with
  | nil =>
    cases line with
    | nil => rfl
    | cons c line => rw [List.nil_append, lastLine, if_neg hline]
  | cons c above ih =>
    have hmem : '\n' ∈ c :: (above ++ line) :=
      List.mem_append_left line (habove.mem (List.cons_ne_nil c above))
    rw [List.cons_append, lastLine, if_pos hmem, ih habove.tail]

end

/-! ## The table of a text -/

def lineStarts (text : List Char) : List Nat := 0 :: laterLineStarts 0 text

theorem laterLineStarts_append (n : Nat) (front back : List Char) :
    laterLineStarts n (front ++ back) =
      laterLineStarts n front ++ laterLineStarts (n + byteLength front) back := by
  induction front generalizing n with
  | nil => rfl
  | cons c front ih =>
    simp only [List.cons_append, laterLineStarts, byteLength_cons]
    rw [ih, Nat.add_assoc]
    split <;> rfl

theorem lineStarts_append (front back : List Char) :
    lineStarts (front ++ back) = lineStarts front ++ laterLineStarts (byteLength front) back := by
  rw [lineStarts, laterLineStarts_append, Nat.zero_add]
  rfl

theorem bounds_of_mem_laterLineStarts {n m : Nat} {text : List Char}
    (h : m ∈ laterLineStarts n text) : n < m ∧ m ≤ n + byteLength text := by
  induction text generalizing n with
  | nil => cases h
  | cons c text ih =>
    have hpos := c.utf8Size_pos
    rw [laterLineStarts] at h
    rw [byteLength_cons]
    split at h
    · rcases List.mem_cons.1 h with rfl | h
      · omega
      · have := ih h
        omega
    · have := ih h
      omega

theorem le_of_mem_lineStarts {m : Nat} {text : List Char} (h : m ∈ lineStarts text) :
    m ≤ byteLength text := by
  rcases List.mem_cons.1 h with rfl | h
  · exact Nat.zero_le _
  · simpa using (bounds_of_mem_laterLineStarts h).2

theorem length_laterLineStarts (n : Nat) (text : List Char) :
    (laterLineStarts n text).length = text.count '\n' := by
  induction text generalizing n with
  | nil => rfl
  | cons c text ih =>
    rw [laterLineStarts]
    by_cases hc : c = '\n'
    · subst hc
      rw [if_pos rfl, List.length_cons, ih, List.count_cons_self]
    · rw [if_neg hc, ih, List.count_cons_of_ne hc]

theorem length_lineStarts (text : List Char) : (lineStarts text).length = text.count '\n' + 1 := by
  rw [lineStarts, List.length_cons, length_laterLineStarts]

/-- Behind whole lines a line starts, and its start stands behind those of the lines above. -/
theorem lineStarts_of_wholeLines {above : List Char} (h : WholeLines above) (rest : List Char) :
    (lineStarts (above ++ rest))[above.count '\n']? = some (byteLength above) := by
  rw [lineStarts_append, List.getElem?_append_left (by rw [length_lineStarts]; omega)]
  rcases List.eq_nil_or_concat above with rfl | ⟨front, c, rfl⟩
  · rfl
  · -- the last line feed is the one that the line starts behind
    have hc : c = '\n' := by
      simpa using h.resolve_left (by simp)
    subst hc
    rw [List.concat_eq_append, List.count_append, List.count_singleton_self, lineStarts_append,
      List.getElem?_append_right (by rw [length_lineStarts]), length_lineStarts, Nat.sub_self,
      byteLength_append]
    rfl

/-! ## Looking an offset up -/

namespace LineMap

/-- **A table holds the starts of the lines**, as far as words can hold them. -/
theorem starts_eq {text : List Char} {m : LineMap} (h : ofText text = .ok m) :
    m.starts = ((lineStarts text).map Nat.toUInt32).toArray := by
  obtain ⟨later, hlater, hm⟩ := bind_eq_ok.1 h
  cases hm
  have hwords : later = (laterLineStarts 0 text).map Nat.toUInt32 := by
    refine eq_map_of_mapM hlater fun start hstart w hw => ?_
    have hpos := (bounds_of_mem_laterLineStarts hstart).1
    have hlt := w.toNat_lt_size
    have hword := toNat_of_next hw
    rw [← UInt32.toNat_inj, Nat.toUInt32, UInt32.toNat_ofNat']
    rw [UInt32.size] at hword hlt
    omega
  rw [hwords]
  rfl

/-- A text has no table exactly if the start of a line comes to zero in a word. -/
theorem exists_ofText_eq_error {text : List Char} : (∃ e, ofText text = .error e) ↔
    ∃ start ∈ laterLineStarts 0 text, start % UInt32.size = 0 := by
  have hofText : (∃ e, ofText text = .error e) ↔
      ∃ e, (laterLineStarts 0 text).mapM (fun start => next (start - 1)) = .error e := by
    rw [ofText]
    cases (laterLineStarts 0 text).mapM fun start => next (start - 1) <;>
      simp [bind, Except.bind, pure, Except.pure]
  rw [hofText, exists_mapM_eq_error]
  refine exists_congr fun start => and_congr_right fun hstart => ?_
  have hpos := (bounds_of_mem_laterLineStarts hstart).1
  rw [exists_next_eq_error, UInt32.size]
  omega

section

variable {text : List Char} {m : LineMap} (htable : ofText text = .ok m)

include htable

theorem size_starts : m.starts.size = text.count '\n' + 1 := by
  simp [starts_eq htable, length_lineStarts]

theorem getD_starts {i n : Nat} (h : (lineStarts text)[i]? = some n) :
    m.starts.getD i 0 = n.toUInt32 := by
  simp [starts_eq htable, h]

theorem lineIndex_lt (offset : UInt32) : m.lineIndex offset < m.starts.size := by
  have hsize : 0 < m.starts.size := by
    rw [size_starts htable]
    omega
  rcases search_bounds m.starts offset hsize with ⟨i, hi, hfound⟩ | ⟨i, hi, hfound⟩
  · rw [lineIndex, hfound]
    exact hi
  · rw [lineIndex, hfound]
    show i - 1 < _
    omega

end

section

variable {front back : List Char} {m : LineMap} {offset : UInt32}
  (htable : ofText (front ++ back) = .ok m) (hsize : byteLength (front ++ back) < UInt32.size)

theorem toNat_of_mem_lineStarts {text : List Char} (hsize : byteLength text < UInt32.size) {n : Nat}
    (hn : n ∈ lineStarts text) : n.toUInt32.toNat = n :=
  UInt32.toNat_ofNat_of_lt' (Nat.lt_of_le_of_lt (le_of_mem_lineStarts hn) hsize)

include htable hsize

/-- **The starts that are not past an offset are those of the text in front of it**, also where the
offset lies behind the end of the text. -/
theorem splits_starts (hfront : byteLength front ≤ offset.toNat)
    (hback : ∀ n ∈ laterLineStarts (byteLength front) back, offset.toNat < n) :
    Splits m.starts offset (front.count '\n' + 1) := by
  have happend := lineStarts_append front back
  refine ⟨?_, fun i hi => ?_⟩
  · rw [size_starts htable, List.count_append]
    omega
  · rw [size_starts htable, ← length_lineStarts] at hi
    rw [getD_starts htable (List.getElem?_eq_getElem hi), UInt32.le_iff_toNat_le,
      toNat_of_mem_lineStarts hsize (List.getElem_mem hi), ← length_lineStarts]
    simp only [happend] at hi ⊢
    by_cases hlt : i < (lineStarts front).length
    · have hle := le_of_mem_lineStarts (List.getElem_mem hlt)
      rw [List.getElem_append_left hlt]
      omega
    · rw [List.length_append] at hi
      have hmem : i - (lineStarts front).length <
          (laterLineStarts (byteLength front) back).length := by
        omega
      have hgt := hback _ (List.getElem_mem hmem)
      rw [List.getElem_append_right (Nat.not_lt.1 hlt)]
      omega

theorem lineIndex_of_front (hfront : byteLength front ≤ offset.toNat)
    (hback : ∀ n ∈ laterLineStarts (byteLength front) back, offset.toNat < n) :
    m.lineIndex offset = front.count '\n' := by
  have hsplit := splits_starts htable hsize hfront hback
  rcases search_of_splits hsplit (Nat.succ_pos _) with hfound | hfound <;>
    rw [lineIndex, hfound] <;> rfl

end

section

variable {above line back : List Char} {offset : UInt32} (habove : WholeLines above)
  (hline : '\n' ∉ line)

include habove hline

theorem lineStart_of_front {m : LineMap} (htable : ofText (above ++ line ++ back) = .ok m)
    (hsize : byteLength (above ++ line ++ back) < UInt32.size)
    (hfront : byteLength (above ++ line) ≤ offset.toNat)
    (hback : ∀ n ∈ laterLineStarts (byteLength (above ++ line)) back, offset.toNat < n) :
    (m.lineStart offset).toNat = byteLength above := by
  have hstart : (lineStarts (above ++ line ++ back))[above.count '\n']? =
      some (byteLength above) := by
    rw [List.append_assoc]
    exact lineStarts_of_wholeLines habove (line ++ back)
  rw [lineStart, lineIndex_of_front htable hsize hfront hback, List.count_append,
    List.count_eq_zero.2 hline, Nat.add_zero, getD_starts htable hstart]
  exact toNat_of_mem_lineStarts hsize (List.mem_of_getElem? hstart)

end

theorem exists_ofText {text : List Char} (hsize : byteLength text < UInt32.size) :
    ∃ m, ofText text = .ok m := by
  cases htable : ofText text with
  | ok m => exact ⟨m, rfl⟩
  | error e =>
    obtain ⟨start, hstart, hzero⟩ := exists_ofText_eq_error.1 ⟨e, htable⟩
    have hbounds := bounds_of_mem_laterLineStarts hstart
    rw [Nat.mod_eq_of_lt (by omega)] at hzero
    omega

end LineMap

/-- **The table gives a cut the line and column that stand in front of it.** -/
theorem position_of_cut {above line back : List Char} {offset : UInt32}
    (habove : WholeLines above) (hline : '\n' ∉ line)
    (hsize : byteLength (above ++ line ++ back) + 1 < UInt32.size)
    (hoffset : offset.toNat = byteLength (above ++ line)) :
    position (above ++ line ++ back) offset =
      .ok ⟨(above.count '\n').toUInt32 + 1, line.length.toUInt32 + 1⟩ := by
  have hback : ∀ n ∈ laterLineStarts (byteLength (above ++ line)) back, offset.toNat < n := by
    intro n hn
    have hlater := (bounds_of_mem_laterLineStarts hn).1
    omega
  have htable : ∃ m, LineMap.ofText (above ++ line ++ back) = .ok m :=
    LineMap.exists_ofText (by omega)
  obtain ⟨m, htable⟩ := htable
  have hindex := LineMap.lineIndex_of_front htable (by omega) hoffset.ge hback
  have hstart := LineMap.lineStart_of_front habove hline htable (by omega) hoffset.ge hback
  rw [List.count_append, List.count_eq_zero.2 hline, Nat.add_zero] at hindex
  have hbefore : m.before (above ++ line ++ back) offset = line.length := by
    rw [LineMap.before, hstart, hoffset, slice?_append]
  -- lines and columns are no more than bytes
  have hcount : above.count '\n' ≤ above.length := List.count_le_length
  have habove' := length_le_byteLength above
  have hline' := length_le_byteLength line
  simp only [byteLength_append] at hsize
  rw [position, htable]
  show m.position _ offset = _
  rw [LineMap.position, hindex, hbefore, next_of_lt (by omega), next_of_lt (by omega)]
  rfl

/-! ## Reading in front of an offset -/

theorem positionScan_of_cut {above line back : List Char} {offset : UInt32}
    (habove : WholeLines above) (hline : '\n' ∉ line)
    (hoffset : offset.toNat = byteLength (above ++ line)) :
    positionScan (above ++ line ++ back) offset =
      ⟨(above.count '\n').toUInt32 + 1, line.length.toUInt32 + 1⟩ := by
  rw [positionScan, hoffset, takeBytes?_append, Option.getD_some, List.count_append,
    List.count_eq_zero.2 hline, Nat.add_zero, lastLine_wholeLines habove hline]

end Conformance.Text
