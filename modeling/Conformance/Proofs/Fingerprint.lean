import Conformance.Proofs.Isolation
import Conformance.Proofs.Text.Field
/-!
# What fingerprints tell apart

A finding is to be told by its rule, path, line, column and message, and its fingerprint is taken of
these five, written one behind the other with bars between them.  Bars are not escaped, and paths
and messages may hold some.  So the path of one finding can go on where that of another has ended,
over the numbers behind it and into its message (`RunsInto`): then two findings have one
fingerprint.  There is no other way (`text_eq_text_iff`), and none between paths that hold as many
bars (`separates_iff`).
-/
namespace Conformance

/-- What the fingerprint of a finding is to tell it by. -/
structure Identity where
  rule : Rule
  path : String
  line : UInt32
  col : UInt32
  message : String
  deriving DecidableEq, Repr

namespace Identity

def text (i : Identity) : String := fingerprintText i.rule.name i.path i.line i.col i.message

def digits (n : UInt32) : String := toString n.toNat

def barred (fields : List String) : String := "|".intercalate fields

/-- The path of the second goes on where that of the first has ended: over its line, over its line
and column, or over these and a piece of its message. -/
inductive RunsInto : Identity → Identity → Prop where
  | line {rule path line col col' message} :
    RunsInto ⟨rule, path, line, col, barred [digits col', message]⟩
      ⟨rule, barred [path, digits line], col, col', message⟩
  | column {rule path line col line' col' message} :
    RunsInto ⟨rule, path, line, col, barred [digits line', digits col', message]⟩
      ⟨rule, barred [path, digits line, digits col], line', col', message⟩
  | message {rule path line col piece line' col' message} :
    RunsInto ⟨rule, path, line, col, barred [piece, digits line', digits col', message]⟩
      ⟨rule, barred [path, digits line, digits col, piece], line', col', message⟩

def bars (s : String) : Nat := s.toList.count '|'

/-! ## Fields -/

@[simp] theorem toList_barred_singleton (s : String) : (barred [s]).toList = s.toList := by
  rw [barred, String.intercalate_singleton]

@[simp] theorem toList_barred_cons (s t : String) (fields : List String) :
    (barred (s :: t :: fields)).toList = s.toList ++ '|' :: (barred (t :: fields)).toList := by
  rw [barred, String.intercalate_cons_cons]
  simp [barred]

theorem text_eq (i : Identity) :
    i.text = barred [i.rule.name, i.path, digits i.line, digits i.col, i.message] := rfl

theorem bar_notMem_digits (n : UInt32) : '|' ∉ (digits n).toList :=
  Text.notMem_digits (by decide) n.toNat

theorem digits_inj {m n : UInt32} (h : (digits m).toList = (digits n).toList) : m = n := by
  have hread := congrArg (Nat.ofDigitChars 10 · 0) h
  simp only [digits, Text.ofDigitChars_digits] at hread
  exact UInt32.toNat_inj.1 hread

theorem bar_notMem_name (r : Rule) : '|' ∉ r.name.toList := by
  rcases r with (_ | _ | _) | _ | _ | _ <;> decide

def rest (i : Identity) : List Char :=
  (digits i.line).toList ++ '|' :: ((digits i.col).toList ++ '|' :: i.message.toList)

theorem toList_text (i : Identity) :
    i.text.toList = i.rule.name.toList ++ '|' :: (i.path.toList ++ '|' :: i.rest) := by
  simp [text_eq, rest]

/-! ## Readings of one text -/

variable {a b : Identity}

theorem RunsInto.text_eq_text (h : RunsInto a b) : a.text = b.text := by
  apply String.toList_inj.1
  cases h <;> simp [text_eq]

theorem RunsInto.bars_lt (h : RunsInto a b) : bars a.path < bars b.path := by
  cases h <;> simp [bars]

theorem eq_of_rest (hrule : a.rule = b.rule) (hpath : a.path = b.path) (h : a.rest = b.rest) :
    a = b := by
  obtain ⟨rule, path, line, col, message⟩ := a
  obtain ⟨rule', path', line', col', message'⟩ := b
  obtain ⟨hline, h⟩ := Text.append_sep_inj (bar_notMem_digits line) (bar_notMem_digits line') h
  obtain ⟨hcol, hmessage⟩ := Text.append_sep_inj (bar_notMem_digits col) (bar_notMem_digits col') h
  cases hrule
  cases hpath
  cases digits_inj hline
  cases digits_inj hcol
  cases String.toList_inj.1 hmessage
  rfl

/-- A path that goes on where the other has ended takes the fields behind that one by one. -/
theorem runsInto_of_rest {more : List Char} (hrule : a.rule = b.rule)
    (hpath : b.path.toList = a.path.toList ++ '|' :: more)
    (h : a.rest = more ++ '|' :: b.rest) : RunsInto a b := by
  obtain ⟨rule, path, line, col, message⟩ := a
  obtain ⟨rule', path', line', col', message'⟩ := b
  cases hrule
  dsimp only at hpath
  rcases (Text.append_sep_eq_iff (bar_notMem_digits line)).1 h with
    ⟨rfl, hcol⟩ | ⟨more, rfl, hcol⟩
  · -- over the line: the column is the other's line, and the message begins with its column
    obtain ⟨hline', hmessage⟩ :=
      Text.append_sep_inj (bar_notMem_digits col) (bar_notMem_digits line') hcol
    cases digits_inj hline'
    have hp : path' = barred [path, digits line] := String.toList_inj.1 (by simp [hpath])
    have hm : message = barred [digits col', message'] := by
      apply String.toList_inj.1
      simpa using hmessage
    rw [hp, hm]
    exact .line
  · rcases (Text.append_sep_eq_iff (bar_notMem_digits col)).1 hcol with
      ⟨rfl, hmessage⟩ | ⟨piece, rfl, hmessage⟩
    · have hp : path' = barred [path, digits line, digits col] :=
        String.toList_inj.1 (by simp [hpath])
      have hm : message = barred [digits line', digits col', message'] := by
        apply String.toList_inj.1
        simpa [rest] using hmessage
      rw [hp, hm]
      exact .column
    · have hp : path' = barred [path, digits line, digits col, String.ofList piece] :=
        String.toList_inj.1 (by simp [hpath])
      have hm : message = barred [String.ofList piece, digits line', digits col', message'] := by
        apply String.toList_inj.1
        simpa [rest] using hmessage
      rw [hp, hm]
      exact .message

theorem rule_eq_of_text (h : a.text = b.text) : a.rule = b.rule ∧
    a.path.toList ++ '|' :: a.rest = b.path.toList ++ '|' :: b.rest := by
  have hchars := congrArg String.toList h
  rw [toList_text, toList_text] at hchars
  obtain ⟨hname, hbehind⟩ :=
    Text.append_sep_inj (bar_notMem_name a.rule) (bar_notMem_name b.rule) hchars
  exact ⟨Rule.name_injective (String.toList_inj.1 hname), hbehind⟩

/-- **One text has two readings only where one path runs into what is behind the other.** -/
theorem text_eq_text_iff : a.text = b.text ↔ a = b ∨ RunsInto a b ∨ RunsInto b a := by
  constructor
  · intro h
    obtain ⟨hrule, hbehind⟩ := rule_eq_of_text h
    rcases List.append_eq_append_iff.1 hbehind with ⟨tail, hpath, hrest⟩ | ⟨tail, hpath, hrest⟩
    · cases tail with
      | nil =>
        rw [List.append_nil] at hpath
        exact .inl (eq_of_rest hrule (String.toList_inj.1 hpath.symm) (List.cons.inj hrest).2)
      | cons c more =>
        obtain ⟨rfl, hmore⟩ := List.cons.inj hrest
        exact .inr (.inl (runsInto_of_rest hrule hpath hmore))
    · cases tail with
      | nil =>
        rw [List.append_nil] at hpath
        exact .inl (eq_of_rest hrule (String.toList_inj.1 hpath) (List.cons.inj hrest).2.symm)
      | cons c more =>
        obtain ⟨rfl, hmore⟩ := List.cons.inj hrest
        exact .inr (.inr (runsInto_of_rest hrule.symm hpath hmore))
  · rintro (rfl | h | h)
    · rfl
    · exact h.text_eq_text
    · exact h.text_eq_text.symm

def Separates (a b : Identity) : Prop := a.text = b.text → a = b

/-- **Fingerprints tell two findings apart unless the path of one runs into what is behind the path
of the other.** Rules they tell apart in any case, and findings whose paths hold as many bars. -/
theorem separates_iff (a b : Identity) :
    (Separates a b ↔ ¬RunsInto a b ∧ ¬RunsInto b a) ∧
    (a.text = b.text → a.rule = b.rule) ∧
    (bars a.path = bars b.path → Separates a b) := by
  refine ⟨⟨fun h => ⟨fun hrun => ?_, fun hrun => ?_⟩, ?_⟩, fun h => (rule_eq_of_text h).1, ?_⟩
  · have hlt := hrun.bars_lt
    rw [h hrun.text_eq_text] at hlt
    exact Nat.lt_irrefl _ hlt
  · have hlt := hrun.bars_lt
    rw [h hrun.text_eq_text.symm] at hlt
    exact Nat.lt_irrefl _ hlt
  · rintro ⟨hab, hba⟩ htext
    exact (text_eq_text_iff.1 htext).resolve_right (not_or.2 ⟨hab, hba⟩)
  · intro hbars htext
    rcases text_eq_text_iff.1 htext with heq | hrun | hrun
    · exact heq
    · exact absurd hrun.bars_lt (by omega)
    · exact absurd hrun.bars_lt (by omega)

/-! Two comparisons with NaN, one of them behind other operands, in files with and without bars. -/

def comparedText : String :=
  "x === NaN is always false; use isNaN(x) instead.\nSuggested fix:\n" ++
    "- Replace the full text from (line 1, col 1) to (line 1, col 19) with: isNaN(x)"

def behindOperands : Identity := ⟨.equalsNan, "a.ts", 1, 1, "b.ts|1|1|" ++ comparedText⟩

def inBarredFile : Identity := ⟨.equalsNan, "a.ts|1|1|b.ts", 1, 1, comparedText⟩

/-- Two findings in different files with different messages have one text, and so one
fingerprint. -/
theorem not_separates_operands : behindOperands.text = inBarredFile.text ∧
    behindOperands.path ≠ inBarredFile.path ∧ behindOperands.message ≠ inBarredFile.message ∧
    ¬Separates behindOperands inBarredFile := by
  have htext : behindOperands.text = inBarredFile.text := by decide +kernel
  have hpath : behindOperands.path ≠ inBarredFile.path := by decide
  refine ⟨htext, hpath, by decide +kernel, fun h => hpath ?_⟩
  rw [h htext]

end Identity
end Conformance
