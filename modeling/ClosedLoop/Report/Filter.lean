import ClosedLoop.Report.Log
import ClosedLoop.Report.Pattern
import ClosedLoop.Text.Blank

/-!
# Filters of the log

A filter says which entries of the log are shown. It is written as rules between commas. A rule is
a level for all entries, or says what entries it is for: a target with which theirs begins, and in
brackets a scope, or in braces in these the name of a field that they have. Behind it stands an
equals sign and the level; without a level all of these entries are shown.

An entry is subject to the most special of the rules for it: the one with the longest target, then
one with a field, then the one whose field comes last in the order of names, and of two rules for the
same entries the later one. Without a rule it is not shown. The program opens no scopes, and gives no
scope fields to compare, so that rules with a scope or with a value for a field are for no entry.

Blanks around a rule are not looked at where its parts are told apart; the parts are then cut out
of the rule with its blanks, as many bytes from its beginning as they are behind the blanks. A blank
thus never separates anything, and blanks in front spoil most rules.
-/

namespace ClosedLoop.Report

open Text

/-! ## Levels -/

/-- A number, with or without a plus sign in front. -/
def levelNumber? : List Char → Option Nat
  | '+' :: digits => Decimal.read? 10 digits
  | digits => Decimal.read? 10 digits

/-- The least serious level to be shown, as it is written; `none` within shows nothing. -/
def threshold? (cs : List Char) : Option (Option Level) :=
  match levelNumber? cs with
  | some n => [none, some .error, some .warn, some .info, some .debug, some .trace][n]?
  | none =>
    match String.ofList (cs.map Char.toLower) with
    | "off" => some none
    | "error" => some (some .error)
    | "warn" => some (some .warn)
    | "info" => some (some .info)
    | "debug" => some (some .debug)
    | "trace" => some (some .trace)
    | _ => none

/-- The level behind an equals sign. -/
def thresholdOrAll? (cs : List Char) : Option (Option Level) :=
  if cs.isEmpty then some (some .trace) else threshold? cs

/-! ## Fields -/

/-- The digits of a number, with a point among them and an exponent behind. -/
def isNumeral (cs : List Char) : Bool :=
  let whole := cs.takeWhile Char.isDigit
  let (fraction, behind) :=
    match cs.dropWhile Char.isDigit with
    | '.' :: rest => (rest.takeWhile Char.isDigit, rest.dropWhile Char.isDigit)
    | rest => ([], rest)
  let exponent? : Option (List Char) :=
    match behind with
    | [] => none
    | c :: '+' :: digits | c :: '-' :: digits | c :: digits =>
      some (if c == 'e' || c == 'E' then digits else [])
  !(whole.isEmpty && fraction.isEmpty) &&
    exponent?.all fun digits => !digits.isEmpty && digits.all Char.isDigit

/-- A number, infinite ones and the one that is none included. -/
def isNumber (cs : List Char) : Bool :=
  let unsigned :=
    match cs with
    | '+' :: rest | '-' :: rest => rest
    | _ => cs
  isNumeral unsigned ||
    ["inf", "infinity", "nan"].contains (String.ofList (unsigned.map Char.toLower))

/-- A field that entries have, and perhaps the value that it has. -/
structure FieldMatch where
  name : List Char
  value : Option (List Char) := none
  deriving DecidableEq, Repr

/--
Reads what stands in braces. A value stands behind an equals sign and ends before a second one; it is
a number or a pattern.
-/
def FieldMatch.read? (cs : List Char) : Option FieldMatch :=
  let name := cs.takeWhile (· != '=')
  match cs.dropWhile (· != '=') with
  | [] => if cs.isEmpty then none else some { name }
  | _ :: rest =>
    let value := rest.takeWhile (· != '=')
    if isNumber value || isPattern value then some { name, value := some value } else none

/-! ## Rules -/

/-- A rule of a filter. -/
structure FilterRule where
  target : Option (List Char) := none
  scope : Option (List Char) := none
  field : Option FieldMatch := none
  threshold : Option Level := some .trace
  deriving DecidableEq, Repr

/-- How many bytes some characters take. -/
def byteLength : List Char → Nat
  | [] => 0
  | c :: rest => c.utf8Size + byteLength rest

/-- What is left behind a number of bytes, if these are whole characters. -/
def dropBytes? : Nat → List Char → Option (List Char)
  | 0, cs => some cs
  | _ + 1, [] => none
  | n + 1, c :: rest => if c.utf8Size ≤ n + 1 then dropBytes? (n + 1 - c.utf8Size) rest else none

/-- The first bytes, if they are whole characters. -/
def takeBytes? : Nat → List Char → Option (List Char)
  | 0, _ => some []
  | _ + 1, [] => none
  | n + 1, c :: rest =>
    if c.utf8Size ≤ n + 1 then (takeBytes? (n + 1 - c.utf8Size) rest).map (c :: ·) else none

/-- The bytes from one place to another, if they are whole characters. -/
def cut? (cs : List Char) (start stop : Nat) : Option (List Char) :=
  (dropBytes? start cs).bind (takeBytes? (stop - start))

namespace FilterRule

/-- Reads the level behind the place `start`. -/
def readLevel? (whole : List Char) (start : Nat) (rule : FilterRule) : Option FilterRule :=
  ((dropBytes? start whole).bind thresholdOrAll?).map fun threshold => { rule with threshold }

/-- Reads on behind the brackets, at the place `start`. -/
def readBehind? (whole : List Char) (start : Nat) (rule : FilterRule) :
    List Char → Option FilterRule
  | [] => some rule
  | '=' :: _ => readLevel? whole (start + 1) rule
  | _ => none

/-- Reads on in the braces, at the place `start`. -/
def readField? (whole : List Char) (start : Nat) (rule : FilterRule) (cs : List Char) :
    Option FilterRule :=
  let stop := start + byteLength (cs.takeWhile (· != '\x7d'))
  match cs.dropWhile (· != '\x7d') with
  | _ :: ']' :: behind =>
    ((cut? whole start stop).bind FieldMatch.read?).bind fun field =>
      readBehind? whole (stop + 2) { rule with field := some field } behind
  | _ => none

/-- Reads on in the brackets, at the place `start`. -/
def readScope? (whole : List Char) (start : Nat) (rule : FilterRule) (cs : List Char) :
    Option FilterRule :=
  let isPlain c := c != ']' && c != '\x7b'
  let stop := start + byteLength (cs.takeWhile isPlain)
  (cut? whole start stop).bind fun scope =>
    match cs.dropWhile isPlain with
    | ']' :: behind => readBehind? whole (stop + 1) { rule with scope := some scope } behind
    | '\x7b' :: behind =>
      readField? whole (stop + 1) (if scope.isEmpty then rule else { rule with scope := some scope })
        behind
    | _ => none

/-- A rule begins with a letter, a digit or one of three marks, or with its brackets. -/
def mayBegin (c : Char) : Bool :=
  isAlphanumeric c || c == '-' || c == ':' || c == '_'

/-- Reads one rule. -/
def read? (whole : List Char) : Option FilterRule :=
  let isPlain c := c != '=' && c != '['
  match trimmed whole with
  | [] => none
  | '[' :: behind => readScope? whole 1 {} behind
  | c :: rest =>
    if !mayBegin c then none
    else
      let stop := byteLength ((c :: rest).takeWhile isPlain)
      match (c :: rest).dropWhile isPlain with
      | [] =>
        match threshold? whole with
        | some threshold => some { threshold }
        | none => some { target := some whole }
      | mark :: behind =>
        (cut? whole 0 stop).bind fun target =>
          if mark == '=' then readLevel? whole (stop + 1) { target := some target }
          else readScope? whole (stop + 1) { target := some target } behind

/-- The names of the fields of an entry. -/
def fieldNames (entry : LogEntry) : List String :=
  "message" :: entry.fields.map (·.1)

/-- The rule is for an entry. -/
def concerns (rule : FilterRule) (entry : LogEntry) : Bool :=
  rule.scope.isNone &&
  rule.target.all (·.isPrefixOf logTarget.toList) &&
  rule.field.all fun field =>
    field.value.isNone && (fieldNames entry).contains (String.ofList field.name)

/-- How special a rule is: the length of its target and the name of its field. -/
def isAsSpecial (rule other : FilterRule) : Bool :=
  let length (r : FilterRule) := (r.target.map fun target => target.length + 1).getD 0
  let name (r : FilterRule) := (r.field.map fun field => '\x00' :: field.name).getD []
  length other < length rule || (length other == length rule && !decide (name rule < name other))

/-- The rule lets an entry be shown that it is for. -/
def admits (rule : FilterRule) (entry : LogEntry) : Bool :=
  match rule.threshold with
  | some threshold => entry.level.rank ≤ threshold.rank
  | none => false

end FilterRule

/-! ## Filters -/

/-- A filter by its rules in the order in which they are written. -/
structure LogFilter where
  rules : List FilterRule
  deriving DecidableEq, Repr

namespace LogFilter

/-- Reads a filter; one wrong rule spoils it. -/
def read? (text : String) : Option LogFilter :=
  (((text.splitOn ",").filter (!·.isEmpty)).mapM fun rule => FilterRule.read? rule.toList).map
    LogFilter.mk

/-- The filter of those who do not ask for another. -/
def standard : LogFilter where
  rules := [{ threshold := some .info }]

/-- The filter that a setting asks for. -/
def ofSetting (setting : Option String) : LogFilter :=
  (setting.bind read?).getD standard

/-- The rule to which an entry is subject. -/
def ruleFor? (filter : LogFilter) (entry : LogEntry) : Option FilterRule :=
  (filter.rules.filter (·.concerns entry)).foldl
    (fun best rule =>
      match best with
      | some other => if rule.isAsSpecial other then some rule else best
      | none => some rule)
    none

/-- The filter lets an entry be shown. -/
def admits (filter : LogFilter) (entry : LogEntry) : Bool :=
  (filter.ruleFor? entry).any (·.admits entry)

/-- The lines that are shown for entries. -/
def lines (filter : LogFilter) (entries : List LogEntry) : List String :=
  (entries.filter filter.admits).map (·.line)

end LogFilter

end ClosedLoop.Report
