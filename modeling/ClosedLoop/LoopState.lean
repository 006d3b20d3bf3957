/-!
# State of a loop

What a loop keeps from one iteration to the next: the number of the iteration, the phase it is in
and how many applies in a row have failed.
-/

namespace ClosedLoop

/-- What a loop is doing. -/
inductive Phase where
  | notStarted
  | checking
  | applying
  | idle
  | waiting
  | stopped
  deriving DecidableEq, Repr

/-- The count at which failures in a row are no longer counted. -/
def maxFailures : Nat := UInt32.size - 1

/-- The state of a loop between two of its steps. -/
structure LoopState where
  /-- The number of the last iteration, zero before the first. -/
  iteration : Nat := 0
  phase : Phase := .notStarted
  /-- Failed applies since the last one that succeeded. -/
  consecutiveFailures : Nat := 0
  deriving DecidableEq, Repr

namespace LoopState

def beginIteration (s : LoopState) : LoopState :=
  { s with iteration := s.iteration + 1, phase := .checking }

def startApplying (s : LoopState) : LoopState :=
  { s with phase := .applying }

def finishIteration (s : LoopState) : LoopState :=
  { s with phase := .idle }

def startWaiting (s : LoopState) : LoopState :=
  { s with phase := .waiting }

def stop (s : LoopState) : LoopState :=
  { s with phase := .stopped }

/-- An apply succeeded: the count starts anew. -/
def recordSuccess (s : LoopState) : LoopState :=
  { s with consecutiveFailures := 0 }

/-- An apply failed: the count grows up to its limit. -/
def recordFailure (s : LoopState) : LoopState :=
  { s with consecutiveFailures := min (s.consecutiveFailures + 1) maxFailures }

end LoopState

end ClosedLoop
