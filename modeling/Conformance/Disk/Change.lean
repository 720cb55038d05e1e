import Conformance.Disk.Basic
/-!
# Changes

What has to be done to one disk to get another: the way a run on a copy is carried
over to the machine the copy was taken of.
-/
namespace Conformance

inductive Change where
  | makeDir (place : Place)
  | write (place : Place) (bytes : ByteArray)
  | remove (place : Place)

namespace Disk

/-- The files that are there before and not after. Directories stay. -/
def removals (before after : Disk) : List Change :=
  before.entries.filterMap fun x => match x.2 with
    | .dir => none
    | .file _ => if (after.find? x.1).isNone then some (.remove x.1) else none

/-- What is there after and was not there before, or was something else. Directories come before
what they hold, because entries are added in that order. -/
def additions (before after : Disk) : List Change :=
  after.entries.filterMap fun x =>
    if before.find? x.1 = some x.2 then none
    else match x.2 with
      | .dir => some (.makeDir x.1)
      | .file bytes => some (.write x.1 bytes)

def changes (before after : Disk) : List Change := removals before after ++ additions before after

/-- **A disk needs no change to become itself**, as long as no place has two entries. -/
theorem additions_self (d : Disk) (h : ∀ x ∈ d.entries, d.find? x.1 = some x.2) :
    additions d d = [] := by
  simp only [additions, List.filterMap_eq_nil_iff]
  intro x hx
  simp [h x hx]

end Disk

end Conformance
