import ObjectDocument.Converter.Basic
import ObjectDocument.DateFormat
import ObjectDocument.Error
import ObjectDocument.Text.Quoted
import ObjectDocument.Text.Split

/-!
# Date converters

A date converter stores dates, date-times and instants in the formats of their field. It writes in
the first format and reads with each in turn until one succeeds. Values without an offset are taken
to be in UTC.
-/

namespace ObjectDocument

/-- One text form of dates. -/
inductive DateForm where
  | pattern (p : Pattern)
  /-- Written with the first pattern and read with any of them. -/
  | lenient (ps : List Pattern)
  | epochMillis
  | epochSecond
deriving DecidableEq, Repr

namespace DateForm

/-- The patterns of dates with an optional time, the one to write with first. -/
def optionalTimePatterns : List String :=
  ["uuuu-MM-dd'T'HH:mm:ss.SSSXXX",
    "uuuu-MM-dd'T'HH:mm:ss.SSSSSSXXX",
    "uuuu-MM-dd'T'HH:mm:ss.SSSSSSSSSXXX",
    "uuuu-MM-dd'T'HH:mm:ssXXX",
    "uuuu-MM-dd'T'HH:mm:ss.SSS",
    "uuuu-MM-dd'T'HH:mm:ss",
    "uuuu-MM-dd'T'HH:mm",
    "uuuu-MM-dd"]

def compile (source : String) : Except Error Pattern :=
  match Pattern.compile source with
  | .ok p => .ok p
  | .error fault => .error (.invalidPattern source fault)

/-- The text form of a named format, if it has one. -/
def ofFormat (format : DateFormat) : Except Error (Option DateForm) :=
  match format with
  | .epochMillis => .ok (some .epochMillis)
  | .epochSecond => .ok (some .epochSecond)
  | .dateOptionalTime => (optionalTimePatterns.mapM compile).map fun ps => some (.lenient ps)
  | format =>
    match format.pattern? with
    | some source => (compile source).map fun p => some (.pattern p)
    | none => .ok none

/-- The name of a form in messages. -/
def name : DateForm → String
  | pattern p => p.source
  | lenient [] => ""
  | lenient (p :: _) => p.source
  | epochMillis => "epoch_millis"
  | epochSecond => "epoch_second"

def valueAt? (t : DateTime) : Kind → Option Value
  | .localDate => some (.date t.date)
  | .localDateTime => some (.dateTime t)
  | .instant => some (.instant t)
  | _ => none

/-- The value of a kind that the fields of a text give. -/
def valueOf? (f : Calendar.Fields) (kind : Kind) : Option Value :=
  match kind with
  | .localDate => f.toDate?.map .date
  | kind => f.toDateTime?.bind fun t => valueAt? t kind

def readPattern? (s : String) (kind : Kind) (p : Pattern) : Option Value :=
  (p.read? s).bind fun f => valueOf? f kind

def write? (t : DateTime) : DateForm → Option String
  | pattern p => some (p.print t)
  | lenient ps => ps.head?.map fun p => p.print t
  | epochMillis => some (String.ofList (Text.signedDigits t.epochMillis))
  | epochSecond => some (String.ofList (Text.signedDigits t.epochSeconds))

def read? (s : String) (kind : Kind) : DateForm → Option Value
  | pattern p => readPattern? s kind p
  | lenient ps => ps.findSome? (readPattern? s kind)
  | epochMillis =>
    (Text.parseInt64? s).bind fun n =>
      (DateTime.ofEpochMillis? n.toInt).bind fun t => valueAt? t kind
  | epochSecond =>
    (Text.parseInt64? s).bind fun n =>
      (DateTime.ofEpoch? n.toInt 0).bind fun t => valueAt? t kind

end DateForm

/-- The formats of a date field, for values of one kind. -/
structure DateConverter where
  kind : Kind
  forms : List DateForm
deriving DecidableEq, Repr

namespace DateConverter

/-- The converter of formats followed by patterns; there is none if no format has a text form and
there is no pattern. -/
def build (kind : Kind) (formats : List DateFormat) (patterns : List String) :
    Except Error (Option DateConverter) := do
  let named ← formats.mapM DateForm.ofFormat
  let custom ← patterns.mapM DateForm.compile
  match named.filterMap id ++ custom.map .pattern with
  | [] => return none
  | forms => return some ⟨kind, forms⟩

def expectation (c : DateConverter) : Expectation :=
  match c.kind with
  | .localDate => .localDate
  | .localDateTime => .localDateTime
  | _ => .instant

/-- The date-time of a temporal value in UTC. -/
def utc? : Value → Option DateTime
  | .date d => some (.atMidnight d)
  | .dateTime t => some t
  | .instant t => some t
  | _ => none

/-- Write a value in the first form. -/
def write (c : DateConverter) (v : Value) : Except Mismatch String :=
  match utc? v with
  | none => .error (v.mismatch c.expectation)
  | some t =>
    match c.forms.head?.bind (DateForm.write? t) with
    | some s => .ok s
    | none => .error (v.mismatch .printableValue)

/-- Read a text with the first form that can. -/
def read (c : DateConverter) (s : String) : Except Mismatch Value :=
  match c.forms.findSome? (DateForm.read? s c.kind) with
  | some v => .ok v
  | none =>
    .error ⟨.dateText, Text.quoted s ++ " (tried " ++ Text.join ", " (c.forms.map DateForm.name) ++ ")"⟩

def toConverter (c : DateConverter) : Converter where
  write := c.write
  read := c.read

end DateConverter

end ObjectDocument
