import ClosedLoop.Device

/-!
# Scripted device

A device that plays prepared answers: the first read gets the first of them, the next read the next
one, and the last answer stands for all further reads; likewise for applies. It holds no state that
an apply could write.
-/

namespace ClosedLoop

/-- A device that plays prepared answers; each list holds at least the answer it starts with. -/
structure ScriptedDevice where
  name : String
  firstRead : Answer
  moreReads : List Answer
  firstApply : Answer
  moreApplies : List Answer
  readCalls : Nat := 0
  applyCalls : Nat := 0

namespace ScriptedDevice

/-- The answer to a call behind `calls` earlier ones. -/
def answerAt (first : Answer) : List Answer → (calls : Nat) → Answer
  | [], _ => first
  | _, 0 => first
  | next :: more, calls + 1 => answerAt next more calls

instance : Device ScriptedDevice where
  name d := d.name
  read _ d := ({ d with readCalls := d.readCalls + 1 }, answerAt d.firstRead d.moreReads d.readCalls)
  apply _ d _ :=
    ({ d with applyCalls := d.applyCalls + 1 }, answerAt d.firstApply d.moreApplies d.applyCalls)
  commit d _ := d

end ScriptedDevice

end ClosedLoop
