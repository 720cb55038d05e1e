/-!
# Text measured in bytes

Every offset this library stores or prints counts the bytes of a text's UTF-8
form, while every rule about text (lines, blanks, names) speaks of characters.
A text is therefore a list of characters, and this module says how many bytes a
run of it takes and how to cut it at a byte offset.

A cut succeeds only where a character ends: `dropBytes?` and `takeBytes?` refuse
an offset inside a character or past the end, so a slice never holds half a
character.  `takeBytes?_append_dropBytes?` is the statement that a cut loses
nothing.
-/
namespace Conformance.Text

def byteLength : List Char → Nat
  | [] => 0
  | c :: cs => c.utf8Size + byteLength cs

@[simp] theorem byteLength_nil : byteLength [] = 0 := rfl

@[simp] theorem byteLength_cons (c : Char) (cs : List Char) :
    byteLength (c :: cs) = c.utf8Size + byteLength cs := rfl

theorem byteLength_append (xs ys : List Char) :
    byteLength (xs ++ ys) = byteLength xs + byteLength ys := by
  induction xs with
  | nil => simp
  | cons c xs ih => simp [ih, Nat.add_assoc]

/-! ## Cutting at a byte offset -/

/-- The first `n` bytes of a text, when a character ends there. -/
def takeBytes? : List Char → Nat → Option (List Char)
  | _, 0 => some []
  | [], _ + 1 => none
  | c :: cs, n + 1 =>
    if c.utf8Size ≤ n + 1 then (takeBytes? cs (n + 1 - c.utf8Size)).map (c :: ·) else none

def dropBytes? : List Char → Nat → Option (List Char)
  | cs, 0 => some cs
  | [], _ + 1 => none
  | c :: cs, n + 1 => if c.utf8Size ≤ n + 1 then dropBytes? cs (n + 1 - c.utf8Size) else none

/-- The characters from byte `start` up to byte `stop`, when both are cuts in that order. -/
def slice? (cs : List Char) (start stop : Nat) : Option (List Char) :=
  if start ≤ stop then (dropBytes? cs start).bind (takeBytes? · (stop - start)) else none

/-- **A cut loses nothing**: the two sides of a cut make up the text. -/
theorem takeBytes?_append_dropBytes? (cs : List Char) (n : Nat) {front : List Char}
    (h : takeBytes? cs n = some front) :
    ∃ back, dropBytes? cs n = some back ∧ cs = front ++ back := by
  induction cs generalizing n front with
  | nil => cases n <;> simp_all [takeBytes?, dropBytes?]
  | cons c cs ih =>
    cases n with
    | zero => simp_all [takeBytes?, dropBytes?]
    | succ n =>
      rw [takeBytes?] at h
      rw [dropBytes?]
      split at h
      · rename_i hc
        obtain ⟨f, hf, rfl⟩ := Option.map_eq_some_iff.1 h
        obtain ⟨back, hb, rfl⟩ := ih _ hf
        exact ⟨back, by simp [hc, hb], rfl⟩
      · cases h

theorem byteLength_of_takeBytes? (cs : List Char) (n : Nat) {front : List Char}
    (h : takeBytes? cs n = some front) : byteLength front = n := by
  induction cs generalizing n front with
  | nil => cases n <;> simp_all [takeBytes?]
  | cons c cs ih =>
    cases n with
    | zero => simp_all [takeBytes?]
    | succ n =>
      rw [takeBytes?] at h
      split at h
      · obtain ⟨f, hf, rfl⟩ := Option.map_eq_some_iff.1 h
        have := ih _ hf
        simp only [byteLength_cons]
        omega
      · cases h

end Conformance.Text
