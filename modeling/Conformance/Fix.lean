import Conformance.Tree.SourceFile
/-!
# Suggested fixes

A finding may come with changes that would mend it.  Nothing is edited: the
changes are put into words and added to the message, since a reader of
diagnostics may know no other form.
-/
namespace Conformance

/-- A change of a text: the bytes from `start` up to `stop` become the replacement. -/
structure TextChange where
  start : UInt32
  stop : UInt32
  replacement : String
  deriving DecidableEq, Repr

structure Fix where
  changes : List TextChange
  deriving DecidableEq, Repr

namespace Fix

def replace (start stop : UInt32) (replacement : String) : Fix := ⟨[⟨start, stop, replacement⟩]⟩

def insert (at_ : UInt32) (text : String) : Fix := replace at_ at_ text

def positionText (p : Text.Position) : String :=
  s!"(line {p.line.toNat}, col {p.col.toNat})"

def changeText (position : UInt32 → Except Text.Overflow Text.Position) (c : TextChange) :
    Except Text.Overflow String := do
  let start ← position c.start
  if c.start = c.stop then
    return "\n- Insert at " ++ positionText start ++ ": " ++ c.replacement
  else
    let stop ← position c.stop
    return "\n- Replace the full text from " ++ positionText start ++ " to " ++
      positionText stop ++ " with: " ++ c.replacement

/-- Fixes in words; none when they change nothing. -/
def render (fixes : List Fix) (position : UInt32 → Except Text.Overflow Text.Position) :
    Except Text.Overflow (Option String) :=
  match fixes.flatMap (·.changes) with
  | [] => return none
  | changes => do
    let title := if 1 < fixes.length then "Suggested fixes:" else "Suggested fix:"
    return some (title ++ String.join (← changes.mapM (changeText position)))

end Fix

end Conformance
