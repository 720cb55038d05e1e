import Conformance.Json.Printer
import Conformance.Json.Token
/-!
# Where the blanks of a text go

The text of a value comes without blanks or in lines, and a reader sees the same tokens in both.
`Spacing.spell` is the text with the blanks left open, so that what is said about it is said about
either form: `compact` is the spelling without blanks, `prettyAt` the one in lines.
-/
namespace Conformance.Json

/-- The blanks of a text: those in front of the items and the end of a list or object at a level,
and those behind a colon. -/
structure Spacing where
  line : Nat → List Char
  gap : List Char
  isGap_line : ∀ level, ∀ c ∈ line level, isGap c = true
  isGap_gap : ∀ c ∈ gap, isGap c = true

namespace Spacing

def tight : Spacing := ⟨fun _ => [], [], by simp, by simp⟩

def lined : Spacing where
  line := newline
  gap := [' ']
  isGap_line := by
    intro level c hc
    rcases List.mem_cons.1 hc with rfl | hc
    · rfl
    · rw [(List.mem_replicate.1 hc).2]
      rfl
  isGap_gap := by
    intro c hc
    rw [List.mem_singleton.1 hc]
    rfl

mutual

def spell (s : Spacing) : Nat → Json → List Char
  | _, .null => ['n', 'u', 'l', 'l']
  | _, .bool true => ['t', 'r', 'u', 'e']
  | _, .bool false => ['f', 'a', 'l', 's', 'e']
  | _, .number n => numberText n
  | _, .string t => stringText t
  | _, .array [] => ['[', ']']
  | level, .array js => '[' :: s.spellItems level true js
  | _, .object [] => ['\x7b', '\x7d']
  | level, .object ms => '\x7b' :: s.spellMembers level true ms

def spellItems (s : Spacing) : Nat → Bool → List Json → List Char
  | level, _, [] => s.line level ++ [']']
  | level, first, j :: js =>
    (if first then [] else [',']) ++ s.line (level + 1) ++ s.spell (level + 1) j ++
      s.spellItems level false js

def spellMembers (s : Spacing) : Nat → Bool → List (String × Json) → List Char
  | level, _, [] => s.line level ++ ['\x7d']
  | level, first, (k, j) :: ms =>
    (if first then [] else [',']) ++ s.line (level + 1) ++ stringText k ++ ':' :: (s.gap ++
      s.spell (level + 1) j) ++ s.spellMembers level false ms

end

/-! ## The two forms -/

mutual

theorem spell_tight : ∀ (level : Nat) (j : Json), tight.spell level j = compact j
  | _, .null => rfl
  | _, .bool true => rfl
  | _, .bool false => rfl
  | _, .number _ => rfl
  | _, .string _ => rfl
  | _, .array [] => rfl
  | level, .array (j :: js) => by rw [spell, compact, spellItems_tight level true (j :: js)]; simp
  | _, .object [] => rfl
  | level, .object (m :: ms) => by
    rw [spell, compact, spellMembers_tight level true (m :: ms)]; simp

theorem spellItems_tight : ∀ (level : Nat) (first : Bool) (js : List Json),
    tight.spellItems level first js = compactItems first js
  | _, _, [] => rfl
  | level, first, j :: js => by
    rw [spellItems, compactItems, spell_tight (level + 1) j, spellItems_tight level false js]
    simp [tight]

theorem spellMembers_tight : ∀ (level : Nat) (first : Bool) (ms : List (String × Json)),
    tight.spellMembers level first ms = compactMembers first ms
  | _, _, [] => rfl
  | level, first, (k, j) :: ms => by
    rw [spellMembers, compactMembers, spell_tight (level + 1) j,
      spellMembers_tight level false ms]
    simp [tight]

end

mutual

theorem spell_lined : ∀ (level : Nat) (j : Json), lined.spell level j = prettyAt level j
  | _, .null => rfl
  | _, .bool true => rfl
  | _, .bool false => rfl
  | _, .number _ => rfl
  | _, .string _ => rfl
  | _, .array [] => rfl
  | level, .array (j :: js) => by
    rw [spell, prettyAt, spellItems_lined level true (j :: js)] <;> simp
  | _, .object [] => rfl
  | level, .object (m :: ms) => by
    rw [spell, prettyAt, spellMembers_lined level true (m :: ms)] <;> simp

theorem spellItems_lined : ∀ (level : Nat) (first : Bool) (js : List Json),
    lined.spellItems level first js = prettyItems level first js
  | _, _, [] => rfl
  | level, first, j :: js => by
    rw [spellItems, prettyItems, spell_lined (level + 1) j, spellItems_lined level false js]
    rfl

theorem spellMembers_lined : ∀ (level : Nat) (first : Bool) (ms : List (String × Json)),
    lined.spellMembers level first ms = prettyMembers level first ms
  | _, _, [] => rfl
  | level, first, (k, j) :: ms => by
    rw [spellMembers, prettyMembers, spell_lined (level + 1) j,
      spellMembers_lined level false ms]
    rfl

end

end Spacing

end Conformance.Json
