import ClosedLoop.EnforcementError
import ClosedLoop.Tick

/-!
# Devices

A device is asked for its state, or is given an intent to run. Either call answers after some time;
an apply writes to the device only at its end, and only if it succeeds, so that one given up before
its end writes nothing.
-/

namespace ClosedLoop

/-- What a call of a device leads to, and after how long. -/
structure Answer where
  delay : Duration
  result : Except EnforcementError OperationalState

/-- A kind of device that a loop can drive, with values of type `δ` for what it holds. -/
class Device (δ : Type) where
  name : δ → String
  /-- A read begins. -/
  read : Tick → δ → δ × Answer
  /-- An apply begins. -/
  apply : Tick → δ → Intent → δ × Answer
  /-- An apply that succeeds ends. -/
  commit : δ → Intent → δ

namespace Device

variable {δ : Type} [Device δ]

/-- What a device holds when a call has come to its end, the time, and the result. -/
structure Reached (δ : Type) where
  device : δ
  now : Tick
  result : Except EnforcementError OperationalState

/-- A whole read. -/
def readThrough (now : Tick) (d : δ) : Reached δ :=
  let (d, answer) := read now d
  ⟨d, now.sleepEnd answer.delay, answer.result⟩

/-- A whole apply that nobody gives up. -/
def applyThrough (now : Tick) (d : δ) (intent : Intent) : Reached δ :=
  let (d, answer) := apply now d intent
  let d :=
    match answer.result with
    | .ok _ => commit d intent
    | .error _ => d
  ⟨d, now.sleepEnd answer.delay, answer.result⟩

end Device

end ClosedLoop
