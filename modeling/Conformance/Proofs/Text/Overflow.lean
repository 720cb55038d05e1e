import Conformance.Proofs.Text.Lines
import Conformance.Tree.Document
/-!
# Offsets that documents carry

A document may give any word for an offset.  Looking it up never leaves the table of lines, and a
line and column that come out are the ones that are counted, from one (`IsExact`).  But not every
offset has them, since counting from one needs one word more than there is.  The largest word as an
offset into a text whose first line reaches that far has 2³² - 1 bytes of its line in front of it,
and the column behind them has outgrown a word.  In a text of fewer bytes there is no other way
(`position_isExact`).
-/
namespace Conformance

namespace Text

namespace LineMap

/-- A line and a column of an offset are the ones that are counted, from one, and the line is one of
the table. Lines are counted in words too: in a text of 2³² lines the count starts over. -/
structure IsExact (m : LineMap) (text : List Char) (offset : UInt32) (p : Position) : Prop where
  inTable : m.lineIndex offset < m.starts.size
  line : p.line.toNat = m.lineIndex offset % UInt32.size + 1
  col : p.col.toNat = m.before text offset + 1

theorem IsExact.positive {m : LineMap} {text : List Char} {offset : UInt32} {p : Position}
    (h : m.IsExact text offset p) : 1 ≤ p.line ∧ 1 ≤ p.col := by
  have hline := h.line
  have hcol := h.col
  simp only [UInt32.le_iff_toNat_le, UInt32.toNat_one]
  omega

theorem before_le (m : LineMap) (text : List Char) (offset : UInt32) :
    m.before text offset ≤ offset.toNat - (m.lineStart offset).toNat := by
  rw [before]
  split
  · rename_i cs hslice
    rw [slice?] at hslice
    split at hslice
    · obtain ⟨rest, -, htake⟩ := Option.bind_eq_some_iff.1 hslice
      rw [← byteLength_of_takeBytes? _ _ htake]
      exact length_le_byteLength cs
    · cases hslice
  · exact Nat.le_refl _

theorem before_mod_size (m : LineMap) (text : List Char) (offset : UInt32) :
    m.before text offset % UInt32.size = m.before text offset := by
  have hle := m.before_le text offset
  have hlt := offset.toNat_lt_size
  exact Nat.mod_eq_of_lt (by omega)

/-- All that is counted in front of the largest word has outgrown a word exactly if the line starts
with the text and holds no character of more than one byte up to there. -/
theorem before_eq_max {m : LineMap} {text : List Char} {offset : UInt32} :
    m.before text offset + 1 = UInt32.size ↔ offset.toNat + 1 = UInt32.size ∧
      m.lineStart offset = 0 ∧
      ∀ front, takeBytes? text offset.toNat = some front → front.length = offset.toNat := by
  have hle := m.before_le text offset
  have hlt := offset.toNat_lt_size
  constructor
  · intro hmax
    have hsize : 1 < UInt32.size := by decide
    have hoffset : offset.toNat + 1 = UInt32.size := by omega
    have hzero : m.lineStart offset = 0 := by
      rw [← UInt32.toNat_inj, UInt32.toNat_zero]
      omega
    refine ⟨hoffset, hzero, fun front hfront => ?_⟩
    rw [before, hzero, UInt32.toNat_zero, slice?_zero, hfront] at hmax
    simp only at hmax
    omega
  · rintro ⟨hoffset, hzero, hfronts⟩
    rw [before, hzero, UInt32.toNat_zero, slice?_zero]
    split
    · rename_i front hfront
      rw [hfronts front hfront]
      exact hoffset
    · exact hoffset

theorem isExact_of_position {text : List Char} {m : LineMap} (htable : ofText text = .ok m)
    {offset : UInt32} {p : Position} (h : m.position text offset = .ok p) :
    m.IsExact text offset p := by
  obtain ⟨line, hline, h⟩ := bind_eq_ok.1 h
  obtain ⟨col, hcol, h⟩ := bind_eq_ok.1 h
  cases h
  refine ⟨lineIndex_lt htable offset, toNat_of_next hline, ?_⟩
  have hcol := toNat_of_next hcol
  rwa [before_mod_size] at hcol

/-- **Nothing comes out exactly if the line or the column has outgrown a word.** -/
theorem exists_position_eq_error {m : LineMap} {text : List Char} {offset : UInt32} :
    (∃ e, m.position text offset = .error e) ↔
      m.lineIndex offset % UInt32.size + 1 = UInt32.size ∨
      m.before text offset + 1 = UInt32.size := by
  have hposition : (∃ e, m.position text offset = .error e) ↔
      (∃ e, next (m.lineIndex offset) = .error e) ∨
      ∃ e, next (m.before text offset) = .error e := by
    rw [position]
    cases next (m.lineIndex offset) <;> cases next (m.before text offset) <;>
      simp [bind, Except.bind, pure, Except.pure]
  rw [hposition, exists_next_eq_error, exists_next_eq_error, before_mod_size]

/-- Behind the end of a text its last line is counted on, which starts with the text exactly if no
line feed ends one before. -/
theorem lineStart_eq_zero_iff {text : List Char} {m : LineMap} (htable : ofText text = .ok m)
    {offset : UInt32} (hend : byteLength text ≤ offset.toNat) :
    m.lineStart offset = 0 ↔ '\n' ∉ text := by
  obtain ⟨above, line, rfl, habove, hline⟩ := exists_wholeLines text
  have hlt := offset.toNat_lt_size
  have hsize : byteLength (above ++ line ++ []) < UInt32.size := by
    rw [List.append_nil]
    omega
  rw [← List.append_nil (above ++ line)] at htable
  have hstart := lineStart_of_front habove hline htable hsize hend (fun n hn => by cases hn)
  rw [← UInt32.toNat_inj, hstart, UInt32.toNat_zero, List.mem_append, not_or]
  constructor
  · intro hzero
    have hnil : above = [] := by
      have := length_le_byteLength above
      exact List.length_eq_zero_iff.1 (by omega)
    exact ⟨by simp [hnil], hline⟩
  · rintro ⟨hnone, -⟩
    by_cases hnil : above = []
    · rw [hnil]
      rfl
    · exact absurd (habove.mem hnil) hnone

end LineMap

theorem exists_position_eq_error {text : List Char} {m : LineMap} (htable : LineMap.ofText text = .ok m)
    {offset : UInt32} : (∃ e, position text offset = .error e) ↔
      m.lineIndex offset % UInt32.size + 1 = UInt32.size ∨
      m.before text offset + 1 = UInt32.size := by
  rw [← LineMap.exists_position_eq_error, position, htable]
  rfl

end Text

namespace SourceFile

open Text

/-- **The line and column of an offset are exact and positive, and all offsets but the largest word
have them.** Of a file with any text and any word for an offset:
- the line is one of the table;
- a line and column that come out are exact and positive;
- in a text with a table and fewer than 2³² - 1 line feeds, none come out exactly if the offset is
  the largest word, its line starts with the text, and no character up to there takes more than one
  byte;
- in a text of fewer than 2³² - 1 bytes, none come out exactly if the offset is the largest word and
  the text has no line feed. -/
theorem position_isExact (f : SourceFile) (offset : UInt32) :
    (∀ lines, f.lineMap = .ok lines → lines.lineIndex offset < lines.starts.size) ∧
    (∀ p, f.position offset = .ok p → 1 ≤ p.line ∧ 1 ≤ p.col ∧
      ∃ lines, f.lineMap = .ok lines ∧ lines.IsExact f.text.toList offset p) ∧
    (∀ lines, f.lineMap = .ok lines → f.text.toList.count '\n' + 1 < UInt32.size →
      ((∃ e, f.position offset = .error e) ↔ offset.toNat + 1 = UInt32.size ∧
        lines.lineStart offset = 0 ∧
        ∀ front, takeBytes? f.text.toList offset.toNat = some front →
          front.length = offset.toNat)) ∧
    (byteLength f.text.toList + 1 < UInt32.size →
      ((∃ e, f.position offset = .error e) ↔
        offset.toNat + 1 = UInt32.size ∧ '\n' ∉ f.text.toList)) := by
  have hcolumn : ∀ lines, f.lineMap = .ok lines → f.text.toList.count '\n' + 1 < UInt32.size →
      ((∃ e, f.position offset = .error e) ↔ offset.toNat + 1 = UInt32.size ∧
        lines.lineStart offset = 0 ∧
        ∀ front, takeBytes? f.text.toList offset.toNat = some front →
          front.length = offset.toNat) := by
    intro lines htable hlines
    have hindex := LineMap.lineIndex_lt htable offset
    rw [LineMap.size_starts htable] at hindex
    rw [position, exists_position_eq_error htable, LineMap.before_eq_max,
      Nat.mod_eq_of_lt (by omega)]
    exact or_iff_right (by omega)
  refine ⟨fun lines htable => LineMap.lineIndex_lt htable offset, fun p hp => ?_, hcolumn,
    fun hbytes => ?_⟩
  · obtain ⟨lines, htable, hp⟩ := bind_eq_ok.1 hp
    have hexact := LineMap.isExact_of_position htable hp
    exact ⟨hexact.positive.1, hexact.positive.2, lines, htable, hexact⟩
  · have htable : ∃ lines, f.lineMap = .ok lines := LineMap.exists_ofText (by omega)
    obtain ⟨lines, htable⟩ := htable
    have hcount : f.text.toList.count '\n' ≤ f.text.toList.length := List.count_le_length
    have hlength := length_le_byteLength f.text.toList
    rw [hcolumn lines htable (by omega)]
    refine and_congr_right fun hoffset => ?_
    -- the text ends in front of the offset, so there is nothing up to there to be cut
    rw [LineMap.lineStart_eq_zero_iff htable (by omega)]
    refine and_iff_left fun front hfront => ?_
    obtain ⟨back, htext, hfront⟩ := takeBytes?_eq_some.1 hfront
    have := byteLength_append front back
    rw [htext] at hbytes
    omega

/-! A message at the largest word: in a file of two lines it has a place, in a file of one line it
has none. -/

def farMessage : CheckerMessage := ⟨.error, 2322, "m", some 4294967295, none⟩

def twoLines : SourceFile := ⟨"a.ts", false, "a\nb", [farMessage], none, []⟩

def oneLine : SourceFile := ⟨"a.ts", false, "a", [farMessage], none, []⟩

def oneLineDocument : String :=
  "\x7b\"fileName\":\"a.ts\",\"text\":\"a\",\"diagnostics\":" ++
    "[\x7b\"category\":\"error\",\"code\":2322,\"message\":\"m\",\"start\":4294967295\x7d]\x7d"

theorem position_isExact_twoLines :
    byteLength twoLines.text.toList + 1 < UInt32.size ∧
    twoLines.text.toList.count '\n' + 1 < UInt32.size ∧
    ∃ lines p, twoLines.lineMap = .ok lines ∧ twoLines.position 4294967295 = .ok p ∧
      1 ≤ p.line ∧ 1 ≤ p.col ∧ lines.IsExact twoLines.text.toList 4294967295 p := by
  obtain ⟨-, hexact, -, hbytes⟩ := position_isExact twoLines 4294967295
  cases hposition : twoLines.position 4294967295 with
  | error e =>
    have hfeed := ((hbytes (by decide)).1 ⟨e, hposition⟩).2
    exact absurd (show '\n' ∈ twoLines.text.toList by decide) hfeed
  | ok p =>
    obtain ⟨hline, hcol, lines, htable, hexact⟩ := hexact p hposition
    exact ⟨by decide, by decide, lines, p, htable, rfl, hline, hcol, hexact⟩

set_option maxRecDepth 4000 in
/-- A document with a message at the largest word, in a file of one line, has no diagnostics: the
column of the message has outgrown a word. -/
theorem not_positive_oneLine :
    SourceFile.parse oneLineDocument = .ok oneLine ∧
    oneLine.compilerDiagnostics = .error {} ∧
    ¬∀ (f : SourceFile) (offset : UInt32), ∃ p, f.position offset = .ok p ∧
      1 ≤ p.line ∧ 1 ≤ p.col := by
  have hposition : oneLine.position 4294967295 = .error {} := by decide +kernel
  refine ⟨by rfl, by decide +kernel, fun h => ?_⟩
  obtain ⟨p, hp, -⟩ := h oneLine 4294967295
  cases hposition.symm.trans hp

end SourceFile

end Conformance
