import Conformance.Proofs.Exemption.Loading
import Conformance.Proofs.Json.Place
/-!
# Where the faults of an exemption file are

A fault is at a byte offset, and the line and column that go with it are read off the text in
front of it. Every offset that a fault gets is one where a character of the file ends
(`exists_cut_of_mem_parse`), so it has a line and column, and the table of lines gives the same
ones (`positions_of_cut`).

A file that is no object has its fault where reading stopped. The reader counts columns in bytes,
and the offset is found by taking that many characters, less one, off the line: so it is the
offset where reading stopped exactly if those characters take one byte each
(`locatesFailure_iff`).
-/
namespace Conformance.ExemptionFile

open Text (byteLength WholeLines byteLength_append)

/-! ## Offsets of faults -/

theorem skipLines_wholeLines {above : List Char} (h : WholeLines above) (rest : List Char) :
    skipLines (above.count '\n') (above ++ rest) = (byteLength above, rest) := by
  induction above with
  | nil => cases rest <;> rfl
  | cons c above ih =>
    have hpos : 0 < (c :: above).count '\n' :=
      List.count_pos_iff.2 (h.mem (List.cons_ne_nil c above))
    obtain ⟨n, hn⟩ := Nat.exists_eq_succ_of_ne_zero hpos.ne'
    have hrest : (if c = '\n' then n else n + 1) = above.count '\n' := by
      by_cases hc : c = '\n'
      · rw [hc, List.count_cons_self] at hn
        rw [if_pos hc]
        omega
      · rw [List.count_cons_of_ne hc] at hn
        rw [if_neg hc, hn]
    rw [hn, List.cons_append, skipLines, hrest, ih h.tail]
    rfl

/-- **The offset of a line and column** is behind the lines above and as many characters as the
column says, less one. -/
theorem offsetOf_wholeLines {above : List Char} (h : WholeLines above) (rest : List Char)
    (column : Nat) : offsetOf (above ++ rest) (above.count '\n' + 1) column =
      byteLength (above ++ rest.take (column - 1)) := by
  rw [offsetOf, Nat.add_sub_cancel, skipLines_wholeLines h, byteLength_append]

theorem exists_cut_of_findKey {name cs : List Char} {before : Option Char} {offset skip n : Nat}
    (h : findKey name before offset skip cs = some n) :
    ∃ front back, cs = front ++ back ∧ n = offset + byteLength front := by
  induction cs generalizing before offset skip with
  | nil => cases skip <;> cases h
  | cons c cs ih =>
    have hnext : ∀ {skip}, findKey name (some c) (offset + c.utf8Size) skip cs = some n →
        ∃ front back, c :: cs = front ++ back ∧ n = offset + byteLength front := by
      intro skip hskip
      obtain ⟨front, back, rfl, rfl⟩ := ih hskip
      exact ⟨c :: front, back, rfl, Nat.add_assoc _ _ _⟩
    cases skip with
    | succ skip => exact hnext h
    | zero =>
      rw [findKey] at h
      split at h
      · split at h
        · cases h
          exact ⟨[], c :: cs, rfl, rfl⟩
        · exact hnext h
      · exact hnext h

theorem parse_of_failure (file : ProjectPath) {text : String} {f : Json.Failure}
    (h : Json.readDocument Json.readMembers text.toList = .error f) :
    parse file text = { diagnostics := [diagnosticAt file text.toList
      (offsetOf text.toList f.line f.column).toUInt32
      ("Failed to parse exemption config: " ++ f.message)] } := by
  simp only [parse, h]

theorem exists_isPlace_of_failure {text : List Char} {f : Json.Failure}
    (h : Json.readDocument Json.readMembers text = .error f) :
    ∃ above rest taken, taken ≤ byteLength text ∧
      Json.IsPlace text above rest taken f.line f.column := by
  unfold Json.readDocument at h
  split at h
  · cases h
  · rename_i s _
    cases h
    obtain ⟨above, rest, hplace⟩ := Json.exists_isPlace_locate text s
    exact ⟨above, rest, _, Nat.sub_le _ _, hplace⟩

/-- **Every location in an exemption file is at an offset where a character ends.** -/
theorem exists_cut_of_mem_parse {file : ProjectPath} {text : String} {d : Diagnostic} {l : Location}
    (hd : d ∈ (parse file text).diagnostics) (hl : d.location = some l) :
    ∃ front back, text.toList = front ++ back ∧ l.start = (byteLength front).toUInt32 ∧
      l.position = Text.positionScan text.toList l.start := by
  cases hread : Json.readDocument Json.readMembers text.toList with
  | error f =>
    obtain ⟨above, rest, taken, -, hplace⟩ := exists_isPlace_of_failure hread
    rw [parse_of_failure file hread, List.mem_singleton] at hd
    subst hd
    cases hl
    refine ⟨above ++ rest.take (f.column - 1), rest.drop (f.column - 1), ?_, ?_, rfl⟩
    · rw [List.append_assoc, List.take_append_drop, hplace.text_eq]
    · rw [hplace.text_eq, hplace.line_eq, offsetOf_wholeLines hplace.whole]
  | ok members =>
    rw [parse_eq hread] at hd
    simp only [faults, hread] at hd
    obtain ⟨⟨key, d'⟩, hx, rfl⟩ := List.mem_map.1 hd
    obtain ⟨m, -, hm⟩ := List.mem_flatMap.1 hx
    rw [Option.mem_toList, fault?] at hm
    split at hm
    · cases hm
    · cases hm
      dsimp only at hl
      unfold keyDiagnostic at hl
      split at hl
      · rename_i n hn
        cases hl
        obtain ⟨front, back, htext, hoffset⟩ := exists_cut_of_findKey hn
        rw [Nat.zero_add] at hoffset
        exact ⟨front, back, htext, by rw [hoffset], rfl⟩
      · cases hl

/-! ## Lines and columns -/

/-- **The table and the reading agree on lines and columns.** In a text of fewer than 2³² - 1
bytes, an offset where a character ends has the line and column that stand in front of it, both by
the table of lines, where neither outgrows a word, and by reading: one more than the line feeds, and one more than the characters
behind the last of them. Every location in an exemption file with that text is at such an offset,
with its line and column. -/
theorem positions_of_cut (text : String) (hsize : byteLength text.toList + 1 < UInt32.size) :
    (∀ (front back : List Char) (offset : UInt32), text.toList = front ++ back →
      offset.toNat = byteLength front →
      Text.position text.toList offset = .ok (Text.positionScan text.toList offset) ∧
      (Text.positionScan text.toList offset).line.toNat = 1 + front.count '\n' ∧
      (Text.positionScan text.toList offset).col.toNat =
        1 + (front.rtakeWhile (· ≠ '\n')).length) ∧
    (∀ (file : ProjectPath), ∀ d ∈ (parse file text).diagnostics, ∀ l, d.location = some l →
      ∃ front back, text.toList = front ++ back ∧ l.start.toNat = byteLength front ∧
        Text.position text.toList l.start = .ok l.position) := by
  have hagree : ∀ (front back : List Char) (offset : UInt32), text.toList = front ++ back →
      offset.toNat = byteLength front →
      Text.position text.toList offset = .ok (Text.positionScan text.toList offset) ∧
      (Text.positionScan text.toList offset).line.toNat = 1 + front.count '\n' ∧
      (Text.positionScan text.toList offset).col.toNat =
        1 + (front.rtakeWhile (· ≠ '\n')).length := by
    intro front back offset htext hoffset
    obtain ⟨above, line, rfl, habove, hline⟩ := Text.exists_wholeLines front
    rw [htext] at hsize ⊢
    have hfront := byteLength_append (above ++ line) back
    have hbytes := byteLength_append above line
    have hlines : above.count '\n' ≤ above.length := List.count_le_length
    have habove' := Text.length_le_byteLength above
    have hline' := Text.length_le_byteLength line
    rw [Text.position_of_cut habove hline hsize hoffset,
      Text.positionScan_of_cut habove hline hoffset, Text.rtakeWhile_wholeLines habove hline,
      List.count_append, List.count_eq_zero.2 hline]
    refine ⟨rfl, ?_, ?_⟩
    · rw [Text.toNat_toUInt32_add_one (by omega)]
      omega
    · rw [Text.toNat_toUInt32_add_one (by omega)]
      omega
  refine ⟨hagree, fun file d hd l hl => ?_⟩
  obtain ⟨front, back, htext, hstart, hposition⟩ := exists_cut_of_mem_parse hd hl
  have hlength : l.start.toNat = byteLength front := by
    have := byteLength_append front back
    rw [htext] at hsize
    rw [hstart]
    exact UInt32.toNat_ofNat_of_lt' (by omega)
  exact ⟨front, back, htext, hlength, by rw [(hagree front back _ htext hlength).1, hposition]⟩

/-! A file of two lines that ends inside its object: the fault is behind a wide character of the
second line. -/

def torn : String := "\x7b\"equals-nan\":\n\"日\""

theorem positions_of_cut_torn :
    byteLength torn.toList + 1 < UInt32.size ∧
    Text.position torn.toList 19 = .ok (Text.positionScan torn.toList 19) ∧
    (Text.positionScan torn.toList 19).line.toNat = 2 ∧
    (Text.positionScan torn.toList 19).col.toNat = 3 ∧
    (∃ l, (parse .here torn).diagnostics.map (·.location) = [some l] ∧ l.start = 20 ∧
      Text.position torn.toList 20 = .ok l.position) := by
  have hsize : byteLength torn.toList + 1 < UInt32.size := by decide
  obtain ⟨hcuts, hlocations⟩ := positions_of_cut torn hsize
  obtain ⟨hagree, hline, hcol⟩ :=
    hcuts ("\x7b\"equals-nan\":\n\"日".toList) ['"'] 19 rfl (by decide)
  have hread : Json.readDocument Json.readMembers torn.toList = .error ⟨.eofObject, 2, 5⟩ := by rfl
  have hparse := parse_of_failure .here hread
  obtain ⟨_, _, _, _, hposition⟩ :=
    hlocations .here _ (by rw [hparse]; exact List.mem_singleton_self _)
    _ rfl
  exact ⟨hsize, hagree, hline, hcol, _, by rw [hparse]; rfl, by decide, hposition⟩

/-! ## Files that are no object -/

/-- What is said about a text is one thing, on the line that reading stopped on, at the offset at
which this line starts and as many bytes behind it as the column says, less one. -/
def LocatesFailure (file : ProjectPath) (text : String) (f : Json.Failure) : Prop :=
  ∃ d l start, (parse file text).diagnostics = [d] ∧ d.location = some l ∧
    (Text.lineStarts text.toList)[f.line - 1]? = some start ∧
    l.position.line.toNat = f.line ∧ l.start.toNat = start + (f.column - 1)

theorem byteLength_take_eq {rest : List Char} {n : Nat} (h : n < byteLength rest) :
    byteLength (rest.take n) = n ↔ ∀ c ∈ rest.take n, c.utf8Size = 1 := by
  have hlength := List.length_take (i := n) (l := rest)
  by_cases hall : n ≤ rest.length
  · rw [← Text.byteLength_eq_length, hlength, Nat.min_eq_left hall]
  · -- the whole text is taken, which has characters of more than one byte
    rw [List.take_of_length_le (by omega), ← Text.byteLength_eq_length]
    omega

section

variable {text : List Char} {above rest : List Char} {taken line column : Nat}
  (hplace : Json.IsPlace text above rest taken line column)

include hplace

/-- The characters of a line that take the place of its bytes end no line, if they take one byte
each. -/
theorem not_mem_take_of_isPlace (hnarrow : ∀ c ∈ rest.take (column - 1), c.utf8Size = 1) :
    '\n' ∉ rest.take (column - 1) := by
  intro hmem
  obtain ⟨front, back, htake⟩ := List.append_of_mem hmem
  have hrest : rest = front ++ '\n' :: (back ++ rest.drop (column - 1)) := by
    rw [← List.cons_append, ← List.append_assoc, ← htake, List.take_append_drop]
  have hle := hplace.no_feed _ _ hrest
  have hfront : byteLength front = front.length :=
    Text.byteLength_eq_length.2 fun c hc =>
      hnarrow c (by rw [htake]; exact List.mem_append_left _ hc)
  have hlength := congrArg List.length htake
  rw [List.length_take, List.length_append, List.length_cons] at hlength
  omega

theorem lineStarts_of_isPlace :
    (Text.lineStarts text)[line - 1]? = some (byteLength above) := by
  rw [hplace.text_eq, hplace.line_eq, Nat.add_sub_cancel]
  exact Text.lineStarts_of_wholeLines hplace.whole rest

end

/-- **A file that is no object is reported where reading stopped, wide characters apart.** Where
reading a text of fewer than 2³² - 1 bytes stopped at a line and column, `above` being what stands
in front of the line and `rest` the text from there on, the text is reported with one diagnostic
on that line and at that byte exactly if the characters of the line whose number is the column,
less one, take one byte each. -/
theorem locatesFailure_iff (file : ProjectPath) (text : String) (f : Json.Failure)
    (hread : Json.readDocument Json.readMembers text.toList = .error f)
    (hsize : byteLength text.toList + 1 < UInt32.size) :
    ∃ above rest, text.toList = above ++ rest ∧
      (Text.lineStarts text.toList)[f.line - 1]? = some (byteLength above) ∧
      (LocatesFailure file text f ↔ ∀ c ∈ rest.take (f.column - 1), c.utf8Size = 1) := by
  obtain ⟨above, rest, taken, htaken, hplace⟩ := exists_isPlace_of_failure hread
  have hstart := lineStarts_of_isPlace hplace
  have hbytes := byteLength_append above rest
  rw [hplace.taken_eq, hplace.text_eq, hbytes] at htaken
  have hnarrow : byteLength (rest.take (f.column - 1)) = f.column - 1 ↔
      ∀ c ∈ rest.take (f.column - 1), c.utf8Size = 1 := by
    by_cases hzero : f.column - 1 = 0
    · rw [hzero]
      simp
    · exact byteLength_take_eq (by omega)
  have hfront := byteLength_append above (rest.take (f.column - 1))
  have hback := byteLength_append (rest.take (f.column - 1)) (rest.drop (f.column - 1))
  rw [List.take_append_drop] at hback
  rw [hplace.text_eq] at hsize
  have hoffset : (offsetOf text.toList f.line f.column).toUInt32.toNat =
      byteLength (above ++ rest.take (f.column - 1)) := by
    rw [hplace.text_eq, hplace.line_eq, offsetOf_wholeLines hplace.whole]
    exact UInt32.toNat_ofNat_of_lt' (by omega)
  refine ⟨above, rest, hplace.text_eq, hstart, ?_⟩
  rw [LocatesFailure, parse_of_failure file hread, ← hnarrow]
  constructor
  · rintro ⟨d, l, start, hd, hl, hline, -, hat⟩
    cases List.singleton_inj.1 hd
    cases hl
    cases hstart.symm.trans hline
    rw [hoffset] at hat
    omega
  · intro hlength
    have hline := not_mem_take_of_isPlace hplace (hnarrow.1 hlength)
    have hcut : text.toList = above ++ rest.take (f.column - 1) ++ rest.drop (f.column - 1) := by
      rw [List.append_assoc, List.take_append_drop, hplace.text_eq]
    refine ⟨_, _, _, rfl, rfl, hstart, ?_, ?_⟩
    · have hlines : above.count '\n' ≤ above.length := List.count_le_length
      have habove := Text.length_le_byteLength above
      dsimp only
      rw [hcut] at hoffset ⊢
      rw [Text.positionScan_of_cut hplace.whole hline hoffset,
        Text.toNat_toUInt32_add_one (by omega), hplace.line_eq]
    · dsimp only
      omega

/-! A colon is missing, on a line of narrow characters below one with a wide one, and behind a wide
character. -/

def lowerFault : String := "\x7b\"é\": [],\n\"b\" 1\x7d"

def wideFault : String := "\x7b\"é\" 1\x7d"

theorem readDocument_lowerFault :
    Json.readDocument Json.readMembers lowerFault.toList = .error ⟨.expectedColon, 2, 5⟩ := by rfl

theorem readDocument_wideFault :
    Json.readDocument Json.readMembers wideFault.toList = .error ⟨.expectedColon, 1, 7⟩ := by rfl

theorem locatesFailure_iff_lowerFault :
    Json.readDocument Json.readMembers lowerFault.toList = .error ⟨.expectedColon, 2, 5⟩ ∧
    byteLength lowerFault.toList + 1 < UInt32.size ∧
    LocatesFailure .here lowerFault ⟨.expectedColon, 2, 5⟩ := by
  have hsize : byteLength lowerFault.toList + 1 < UInt32.size := by decide
  obtain ⟨above, rest, htext, hstart, hlocates⟩ :=
    locatesFailure_iff .here lowerFault _ readDocument_lowerFault hsize
  have hlines : (Text.lineStarts lowerFault.toList)[1]? = some 11 := by decide
  have habove : byteLength above = 11 := Option.some.inj (hstart.symm.trans hlines)
  have hdrop := Text.dropBytes?_append above rest
  rw [← htext, habove] at hdrop
  have hrest : Text.dropBytes? lowerFault.toList 11 = some "\"b\" 1\x7d".toList := by decide
  cases hrest.symm.trans hdrop
  exact ⟨readDocument_lowerFault, hsize, hlocates.2 (Text.byteLength_eq_length.1 (by decide))⟩

/-- Behind a wide character the offset is one more than that of the last byte taken. -/
theorem not_locatesFailure_wideFault :
    Json.readDocument Json.readMembers wideFault.toList = .error ⟨.expectedColon, 1, 7⟩ ∧
    (parse .here wideFault).diagnostics.map (fun d => d.location.map (·.start)) = [some 7] ∧
    ¬LocatesFailure .here wideFault ⟨.expectedColon, 1, 7⟩ := by
  have hparse := parse_of_failure .here readDocument_wideFault
  have hoffset : offsetOf wideFault.toList 1 7 = 7 := by decide
  dsimp only at hparse
  rw [hoffset] at hparse
  refine ⟨readDocument_wideFault, by rw [hparse]; rfl, ?_⟩
  rintro ⟨d, l, start, hd, hl, hstart, -, hat⟩
  rw [hparse] at hd
  cases List.singleton_inj.1 hd
  cases hl
  cases hstart
  exact absurd hat (by decide)

end Conformance.ExemptionFile
