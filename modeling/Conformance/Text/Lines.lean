import Conformance.Text.Bytes
/-!
# Lines and columns

Offsets are stored; people read lines and columns.  A `LineMap` holds the byte
offset at which each line of a text starts, and `LineMap.position` searches it for
an offset and turns that into a line and a column, both counted from one, the
column in characters.

Offsets come out of documents, so any 32-bit number may turn up: past the end of
the text, or inside a character.  There the column is counted in bytes from the
line's start, which needs no text.  Lines and columns are words like offsets, and
counting from one takes one word more than there is: where the largest word is all
that was counted there is no position (`Overflow`).

`positionScan` computes the same pair by reading the text before the offset; it is
what small documents use, and it needs no map.
-/
namespace Conformance.Text

structure Position where
  line : UInt32
  col : UInt32
  deriving DecidableEq, Repr, Inhabited

/-! ## Counting from one -/

/-- A number has outgrown a word. -/
structure Overflow where
  deriving DecidableEq, Repr

def Overflow.message (_ : Overflow) : String := "attempt to add with overflow"

/-- One more than a number that is kept in a word. -/
def next (n : Nat) : Except Overflow UInt32 :=
  if n.toUInt32 + 1 = 0 then .error {} else .ok (n.toUInt32 + 1)

/-! ## Binary search

A table whose entries are sorted is searched by halves.  Of a table that is not sorted the
search gives some index. -/

/-- Narrows the `size` entries from `base` on down to one. The entry in the middle takes the half
behind it away if it is past `key`, and else the half in front of it. -/
def narrow (table : Array UInt32) (key : UInt32) (base size : Nat) : Nat :=
  if size ≤ 1 then base
  else
    let middle := base + size / 2
    narrow table key (if key < table.getD middle 0 then base else middle) (size - size / 2)
termination_by size

/-- The index of `key` in a sorted table, or else the index at which it would have to stand. -/
def search (table : Array UInt32) (key : UInt32) : Except Nat Nat :=
  if table.isEmpty then .error 0
  else
    let i := narrow table key 0 table.size
    let entry := table.getD i 0
    if entry = key then .ok i
    else .error (if entry < key then i + 1 else i)

/-! ## The lines of a text -/

/-- The byte offsets at which the lines after the first start, in a text that begins at
byte `n`. -/
def laterLineStarts : Nat → List Char → List Nat
  | _, [] => []
  | n, c :: cs =>
    let next := n + c.utf8Size
    if c = '\n' then next :: laterLineStarts next cs else laterLineStarts next cs

/-- The byte offset at which each line of a text starts. -/
structure LineMap where
  starts : Array UInt32
  deriving DecidableEq, Repr

/-- The lines of a text. A line starts one behind the line feed of the line above, and the place of
the line feed is kept in a word: in a text of four gibibytes the count starts over. -/
def LineMap.ofText (text : List Char) : Except Overflow LineMap := do
  let later ← (laterLineStarts 0 text).mapM fun start => next (start - 1)
  return ⟨(0 :: later).toArray⟩

/-- The index of the line that holds an offset: the line that starts there, or else the one in front
of the first that starts later. -/
def LineMap.lineIndex (m : LineMap) (offset : UInt32) : Nat :=
  match search m.starts offset with
  | .ok i => i
  | .error i => i - 1

def LineMap.lineStart (m : LineMap) (offset : UInt32) : UInt32 :=
  m.starts.getD (m.lineIndex offset) 0

/-- How many characters of its line stand in front of an offset. Where the offset is no cut of the
text, bytes are counted instead. -/
def LineMap.before (m : LineMap) (text : List Char) (offset : UInt32) : Nat :=
  match slice? text (m.lineStart offset).toNat offset.toNat with
  | some cs => cs.length
  | none => offset.toNat - (m.lineStart offset).toNat

def LineMap.position (m : LineMap) (text : List Char) (offset : UInt32) :
    Except Overflow Position := do
  return ⟨← next (m.lineIndex offset), ← next (m.before text offset)⟩

def position (text : List Char) (offset : UInt32) : Except Overflow Position := do
  (← LineMap.ofText text).position text offset

/-! ## Reading in front of an offset -/

def lastLine : List Char → List Char
  | [] => []
  | c :: cs => if '\n' ∈ c :: cs then lastLine cs else c :: cs

/-- The line and column of a byte offset, by reading the text in front of it. An offset that
is no cut of the text stands for the end of the text. -/
def positionScan (text : List Char) (offset : UInt32) : Position :=
  let before := (takeBytes? text offset.toNat).getD text
  ⟨(before.count '\n').toUInt32 + 1, (lastLine before).length.toUInt32 + 1⟩

/-- A slice of a text by byte offsets, empty when either end is no cut. -/
def slice (text : List Char) (start stop : UInt32) : List Char :=
  (slice? text start.toNat stop.toNat).getD []

end Conformance.Text
