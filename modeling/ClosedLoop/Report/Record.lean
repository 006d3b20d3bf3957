import ClosedLoop.Event

/-!
# Records of events

Short texts for the events of a loop, such as `iteration:1` or `drift:1:port: 1 -> 2`, by which two
runs are compared. A drift has one record for each field.
-/

namespace ClosedLoop.Report

open Text

/-- The records of one event. -/
def records : Event → List String
  | .start device _ => ["start:" ++ device]
  | .iteration number => ["iteration:" ++ Decimal.text number]
  | .compliant number _ => ["compliant:" ++ Decimal.text number]
  | .drift number fields =>
    fields.map fun field => "drift:" ++ Decimal.text number ++ ":" ++ field.text
  | .applied number _ => ["applied:" ++ Decimal.text number]
  | .applyFailed number _ failures =>
    ["apply_failed:" ++ Decimal.text number ++ ":" ++ Decimal.text failures]
  | .readFailed number _ => ["read_failed:" ++ Decimal.text number]
  | .waiting delay => ["waiting:" ++ Decimal.text delay.millis]
  | .stopped summary => ["stopped:" ++ Decimal.text summary.iterations]

end ClosedLoop.Report
