import ClosedLoop.Device

/-!
# Device on the bench

A device for trying out a loop. It counts the calls it gets; from outside, its state can be changed
at any time, reads and applies can be made to fail for a number of calls, and applies to take a
while. What an apply meets is fixed when it begins.
-/

namespace ClosedLoop

/-- A device with counted calls and failures to order. -/
structure BenchDevice where
  name : String
  state : OperationalState
  readCalls : Nat := 0
  applyCalls : Nat := 0
  /-- Reads that still fail. -/
  failingReads : Nat := 0
  /-- Applies that still fail. -/
  failingApplies : Nat := 0
  /-- How long an apply takes that does not fail. -/
  applyDelay : Duration := .zero
  deriving DecidableEq, Repr

namespace BenchDevice

/-- A change from outside. -/
inductive Setting where
  | state (state : OperationalState)
  | failingReads (count : Nat)
  | failingApplies (count : Nat)
  | applyDelay (delay : Duration)
  deriving DecidableEq, Repr

def set (d : BenchDevice) : Setting → BenchDevice
  | .state state => { d with state }
  | .failingReads count => { d with failingReads := count }
  | .failingApplies count => { d with failingApplies := count }
  | .applyDelay delay => { d with applyDelay := delay }

/-- A read, which answers at once. -/
def read (d : BenchDevice) : BenchDevice × Answer :=
  let d := { d with readCalls := d.readCalls + 1 }
  match d.failingReads with
  | 0 => (d, ⟨.zero, .ok d.state⟩)
  | n + 1 => ({ d with failingReads := n }, ⟨.zero, .error (.stateRead "mock read failure")⟩)

/-- The beginning of an apply. -/
def startApply (d : BenchDevice) (intent : Intent) : BenchDevice × Answer :=
  let d := { d with applyCalls := d.applyCalls + 1 }
  match d.failingApplies with
  | 0 => (d, ⟨d.applyDelay, .ok intent.state⟩)
  | n + 1 => ({ d with failingApplies := n }, ⟨.zero, .error (.apply "mock apply failure")⟩)

@[simp] theorem state_read (d : BenchDevice) : d.read.1.state = d.state := by
  cases fails : d.failingReads <;> simp only [read, fails]

/-- A read that succeeds returns the state that the device is in when it begins. -/
theorem eq_of_read {d : BenchDevice} {state : OperationalState}
    (h : d.read.2.result = .ok state) : state = d.state := by
  cases fails : d.failingReads with
  | zero =>
    simp only [read, fails] at h
    exact (Except.ok.inj h).symm
  | succ left =>
    simp only [read, fails] at h
    cases h

/-- The beginning of an apply writes nothing. -/
@[simp] theorem state_startApply (d : BenchDevice) (intent : Intent) :
    (d.startApply intent).1.state = d.state := by
  cases fails : d.failingApplies <;> simp only [startApply, fails]

instance : Device BenchDevice where
  name d := d.name
  read _ d := d.read
  apply _ d intent := d.startApply intent
  commit d intent := { d with state := intent.state }

end BenchDevice

end ClosedLoop
