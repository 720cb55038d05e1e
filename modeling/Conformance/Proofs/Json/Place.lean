import Conformance.Json.Stop
import Conformance.Proofs.Text.Lines
/-!
# The place of a failure

A failure is placed by a line and by the bytes that were taken on it. Both are counted from the
text and the number of bytes taken alone: the lines above are whole lines of the text, they and
the bytes of the column make up what was taken, and no line feed starts among these
(`exists_isPlace_locate`).
-/
namespace Conformance.Json

open Text (byteLength WholeLines byteLength_append)

/-- A text stands at a line and column after so many bytes: `above` are the lines above, and the
column counts the bytes taken of `rest`, which starts with the line. -/
structure IsPlace (text above rest : List Char) (taken line column : Nat) : Prop where
  text_eq : text = above ++ rest
  whole : WholeLines above
  line_eq : line = above.count '\n' + 1
  taken_eq : taken = byteLength above + column
  no_feed : ∀ front back, rest = front ++ '\n' :: back → column ≤ byteLength front

theorem byteLength_le_of_feed {begun cs front back : List Char} (hbegun : '\n' ∉ begun)
    (h : begun ++ cs = front ++ '\n' :: back) : byteLength begun ≤ byteLength front := by
  rcases List.append_eq_append_iff.1 h with ⟨more, rfl, -⟩ | ⟨more, rfl, hfeed⟩
  · rw [byteLength_append]
    omega
  · cases more with
    | nil => rw [List.append_nil]
    | cons c more =>
      rw [List.cons_append, List.cons.injEq] at hfeed
      exact absurd (List.mem_append_right _ (List.mem_cons.2 (.inl hfeed.1))) hbegun

theorem exists_isPlace_walkLines {cs : List Char} {taken : Nat} (h : taken ≤ byteLength cs)
    {above begun : List Char} (habove : WholeLines above) (hbegun : '\n' ∉ begun) :
    ∃ above' rest, IsPlace (above ++ (begun ++ cs)) above' rest
      (byteLength above + byteLength begun + taken)
      (walkLines cs taken (above.count '\n' + 1) (byteLength begun)).1
      (walkLines cs taken (above.count '\n' + 1) (byteLength begun)).2 := by
  induction cs generalizing taken above begun with
  | nil =>
    have hnone : taken = 0 := Nat.le_zero.1 h
    subst hnone
    exact ⟨above, begun ++ [], rfl, habove, rfl, rfl, fun _ _ => byteLength_le_of_feed hbegun⟩
  | cons c cs ih =>
    rw [Text.byteLength_cons] at h
    rw [walkLines]
    by_cases hnone : taken = 0
    · rw [if_pos hnone, hnone]
      exact ⟨above, begun ++ c :: cs, rfl, habove, rfl, rfl,
        fun _ _ => byteLength_le_of_feed hbegun⟩
    · rw [if_neg hnone]
      by_cases hc : c = '\n'
      · -- the line that was begun ends
        subst hc
        have hone : Char.utf8Size '\n' = 1 := rfl
        have hlines : WholeLines (above ++ begun ++ ['\n']) := .inr List.getLast?_concat
        have hcount : (above ++ begun ++ ['\n']).count '\n' = above.count '\n' + 1 := by
          rw [List.count_append, List.count_append, List.count_eq_zero.2 hbegun,
            List.count_singleton_self]
        have hle : taken - 1 ≤ byteLength cs := by omega
        obtain ⟨above', rest, hplace⟩ := ih hle hlines List.not_mem_nil
        have htext : above ++ (begun ++ '\n' :: cs) = above ++ begun ++ ['\n'] ++ ([] ++ cs) := by
          simp
        have htaken : byteLength above + byteLength begun + taken =
            byteLength (above ++ begun ++ ['\n']) + byteLength [] + (taken - 1) := by
          simp only [byteLength_append, Text.byteLength_cons, Text.byteLength_nil]
          omega
        rw [hcount] at hplace
        rw [if_pos rfl, htext, htaken]
        exact ⟨above', rest, hplace⟩
      · rw [if_neg hc]
        have hbegun' : '\n' ∉ begun ++ [c] := by
          rw [List.mem_append, List.mem_singleton, not_or]
          exact ⟨hbegun, Ne.symm hc⟩
        have hlength : byteLength (begun ++ [c]) = byteLength begun + c.utf8Size := by
          rw [byteLength_append]
          rfl
        by_cases hall : c.utf8Size ≤ taken
        · have hle : taken - c.utf8Size ≤ byteLength cs := by omega
          obtain ⟨above', rest, hplace⟩ := ih hle habove hbegun'
          have htaken : byteLength above + byteLength begun + taken =
              byteLength above + (byteLength begun + c.utf8Size) + (taken - c.utf8Size) := by
            omega
          rw [hlength, List.append_assoc, List.singleton_append] at hplace
          rw [Nat.min_eq_right hall, htaken]
          exact ⟨above', rest, hplace⟩
        · -- the walk ends inside the character
          have hend : taken - c.utf8Size = 0 := by omega
          refine ⟨above, begun ++ c :: cs, ?_⟩
          rw [hend, Nat.min_eq_left (by omega)]
          have hwalk : walkLines cs 0 (above.count '\n' + 1) (byteLength begun + taken) =
              (above.count '\n' + 1, byteLength begun + taken) := by
            cases cs <;> rfl
          rw [hwalk]
          refine ⟨rfl, habove, rfl, Nat.add_assoc _ _ _, fun front back hfeed => ?_⟩
          rw [← List.singleton_append, ← List.append_assoc] at hfeed
          have hle := byteLength_le_of_feed hbegun' hfeed
          omega

/-- **A failure is placed at the line that was begun last and at the bytes taken of it.** -/
theorem exists_isPlace_locate (text : List Char) (s : Stop) : ∃ above rest,
    IsPlace text above rest (byteLength text - s.left) (s.locate text).line
      (s.locate text).column := by
  obtain ⟨above, rest, hplace⟩ := exists_isPlace_walkLines (Nat.sub_le (byteLength text) s.left)
    (.inl rfl) List.not_mem_nil
  rw [Text.byteLength_nil, Nat.add_zero, Nat.zero_add] at hplace
  exact ⟨above, rest, hplace⟩

end Conformance.Json
