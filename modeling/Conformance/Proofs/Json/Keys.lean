import Conformance.Json.Free
import Conformance.Proofs.Json.Lexeme
/-!
# The keys of a document

A document is a row of strings with other characters between them. A string with a colon behind it
is a key, and the brackets that are open around it say whose: the keys of the document's own
object have one bracket around them. `keysOf` lists the keys of a text with their places, by
looking at nothing but strings, brackets and colons.

Each key that is listed stands where its place says (`standsIn_of_mem_keysFrom`), and the places
are in the order of the text (`pairwise_keysFrom`).
-/
namespace Conformance.Json

open Text (byteLength)

structure KeyPlace where
  /-- Byte offset of its opening quote. -/
  offset : Nat
  /-- The brackets that are open around it. -/
  depth : Nat
  /-- What stands between its quotes. -/
  written : List Char
  /-- What that stands for. -/
  name : String
  deriving DecidableEq, Repr

def depthBehind (depth : Nat) (c : Char) : Nat :=
  if c = '[' ∨ c = '\x7b' then depth + 1
  else if c = ']' ∨ c = '\x7d' then depth - 1
  else depth

def ColonNext (cs : List Char) : Prop := (skipGaps cs).head? = some ':'

instance (cs : List Char) : Decidable (ColonNext cs) := inferInstanceAs (Decidable (_ = _))

/-- The keys from a place of a document on, in the order of the text, with the characters of a
string that are still to be passed over. -/
def keysFrom (offset depth : Nat) : Nat → List Char → List KeyPlace
  | _, [] => []
  | skip + 1, c :: cs => keysFrom (offset + c.utf8Size) depth skip cs
  | 0, c :: cs =>
    if c = '"' then
      match readString cs with
      | .error _ => []
      | .ok (name, rest) =>
        let written := cs.take (cs.length - (rest.length + 1))
        let more := keysFrom (offset + c.utf8Size) depth (written.length + 1) cs
        if ColonNext rest then ⟨offset, depth, written, String.ofList name⟩ :: more else more
    else keysFrom (offset + c.utf8Size) (depthBehind depth c) 0 cs

def keysOf (text : List Char) : List KeyPlace := keysFrom 0 0 0 text

theorem keysFrom_skip (offset depth : Nat) (front back : List Char) :
    keysFrom offset depth front.length (front ++ back) =
      keysFrom (offset + byteLength front) depth 0 back := by
  induction front generalizing offset with
  | nil => rfl
  | cons c front ih =>
    rw [List.length_cons, List.cons_append, keysFrom, ih, Text.byteLength_cons, Nat.add_assoc]

theorem keysFrom_char (offset depth : Nat) {c : Char} (hc : c ≠ '"') (cs : List Char) :
    keysFrom offset depth 0 (c :: cs) =
      keysFrom (offset + c.utf8Size) (depthBehind depth c) 0 cs := by
  rw [keysFrom, if_neg hc]

theorem keysFrom_string (offset depth : Nat) {written name rest : List Char}
    (h : readString (written ++ '"' :: rest) = .ok (name, rest)) :
    keysFrom offset depth 0 ('"' :: (written ++ '"' :: rest)) =
      (if ColonNext rest then [⟨offset, depth, written, String.ofList name⟩] else []) ++
        keysFrom (offset + (1 + byteLength written + 1)) depth 0 rest := by
  have hwritten : (written ++ '"' :: rest).take
      ((written ++ '"' :: rest).length - (rest.length + 1)) = written := by
    rw [List.length_append, List.length_cons, Nat.add_sub_cancel, List.take_left]
  have hskip := keysFrom_skip (offset + 1) depth (written ++ ['"']) rest
  rw [List.length_append, List.append_assoc, List.singleton_append, Text.byteLength_append] at hskip
  have hquote : Char.utf8Size '"' = 1 := rfl
  simp only [keysFrom, if_pos, h, hwritten, hquote]
  rw [show [('"' : Char)].length = 1 from rfl] at hskip
  rw [hskip, show byteLength ['"'] = 1 from rfl, Nat.add_assoc offset, ← Nat.add_assoc 1]
  split <;> rfl

/-! ## Places -/

/-- A key stands where its place says, in a text that starts at an offset. -/
def KeyPlace.StandsIn (k : KeyPlace) (offset : Nat) (cs : List Char) : Prop :=
  ∃ front name back, cs = front ++ '"' :: (k.written ++ '"' :: back) ∧
    k.offset = offset + byteLength front ∧ ColonNext back ∧
    readString (k.written ++ '"' :: back) = .ok (name, back) ∧ k.name = String.ofList name

theorem KeyPlace.StandsIn.cons {k : KeyPlace} {offset : Nat} {cs : List Char} (c : Char)
    (h : k.StandsIn (offset + c.utf8Size) cs) : k.StandsIn offset (c :: cs) := by
  obtain ⟨front, name, back, rfl, hoffset, hkey⟩ := h
  exact ⟨c :: front, name, back, rfl, by rw [hoffset, Text.byteLength_cons, Nat.add_assoc], hkey⟩

/-- **Every key that is listed stands at its place.** -/
theorem standsIn_of_mem_keysFrom {offset depth skip : Nat} {cs : List Char} {k : KeyPlace}
    (h : k ∈ keysFrom offset depth skip cs) : k.StandsIn offset cs := by
  induction cs generalizing offset depth skip with
  | nil => cases skip <;> cases h
  | cons c cs ih =>
    cases skip with
    | succ skip => exact .cons c (ih h)
    | zero =>
      rw [keysFrom] at h
      split at h
      · rename_i hc
        split at h
        · cases h
        · rename_i name rest hread
          obtain ⟨written, rfl, -⟩ := readString_eq_ok hread
          dsimp only at h
          split at h
          · rename_i hcolon
            rcases List.mem_cons.1 h with rfl | h
            · have hwritten : (written ++ '"' :: rest).take
                  ((written ++ '"' :: rest).length - (rest.length + 1)) = written := by
                rw [List.length_append, List.length_cons, Nat.add_sub_cancel, List.take_left]
              refine ⟨[], name, rest, ?_, rfl, hcolon, ?_, rfl⟩ <;> dsimp only <;> rw [hwritten]
              · rw [hc]
                rfl
              · exact hread
            · exact .cons c (ih h)
          · exact .cons c (ih h)
      · exact .cons c (ih h)

theorem KeyPlace.StandsIn.name_eq {k : KeyPlace} {offset : Nat} {cs : List Char}
    (h : k.StandsIn offset cs) (hplain : '\\' ∉ k.written) : k.name = String.ofList k.written := by
  obtain ⟨front, name, back, -, -, -, hread, hname⟩ := h
  obtain ⟨written, hwritten, -, hsame⟩ := readString_eq_ok hread
  have heq : k.written = written := List.append_cancel_right hwritten
  rw [hname, hsame (heq ▸ hplain), heq]

theorem pairwise_keysFrom (offset depth skip : Nat) (cs : List Char) :
    (keysFrom offset depth skip cs).Pairwise (·.offset < ·.offset) := by
  induction cs generalizing offset depth skip with
  | nil => cases skip <;> exact .nil
  | cons c cs ih =>
    cases skip with
    | succ skip => exact ih _ _ _
    | zero =>
      rw [keysFrom]
      split
      · split
        · exact .nil
        · dsimp only
          split
          · refine List.pairwise_cons.2 ⟨fun k hk => ?_, ih _ _ _⟩
            obtain ⟨front, -, -, -, hoffset, -⟩ := standsIn_of_mem_keysFrom hk
            have hpos := c.utf8Size_pos
            dsimp only
            omega
          · exact ih _ _ _
      · exact ih _ _ _

end Conformance.Json
