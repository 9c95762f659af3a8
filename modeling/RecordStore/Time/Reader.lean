import RecordStore.Text.Blank
import RecordStore.Text.Digits
import RecordStore.Time.Instant

/-!
# Reading timestamps

A layout lists what a timestamp consists of; reading by a layout collects the numbers it names. A
stored timestamp is read by the first of six layouts that fits, from the strict interchange format to
a bare date. Timestamps in search documents have one layout of their own, with blanks allowed around
every number and the offset required.
-/

namespace RecordStore

open Text

/-! ## Layouts -/

/-- A number of a timestamp. -/
inductive TimeField where
  | year
  | month
  | day
  | hour
  | minute
  | second
  deriving DecidableEq, Repr

/-- How an offset from UTC is written. -/
structure OffsetLayout where
  /-- Whether blanks may come first. -/
  blanksBefore : Bool
  /-- Whether `Z` stands for a zero offset. -/
  zulu : Bool
  /-- Whether `UTC` stands for a zero offset. -/
  utc : Bool
  /-- Whether exactly one colon separates hours and minutes, instead of any run of colons and
  blanks. -/
  oneColon : Bool
  /-- Whether the minutes may be missing at the end of the text. -/
  minutesOptional : Bool

/-- A part of a timestamp layout. -/
inductive TimePart where
  /-- A number of exactly so many digits. -/
  | exact (field : TimeField) (width : Nat)
  /-- A number of at most so many digits, after any blanks. -/
  | upTo (field : TimeField) (width : Nat)
  /-- A year of at most four digits, or of any number of digits after a sign, after any blanks. -/
  | signedYear
  /-- One of the characters. -/
  | oneOf (characters : List Char)
  /-- Any number of blanks. -/
  | blanks
  /-- A point and the digits of a fraction of a second, or nothing. -/
  | fraction
  /-- An offset from UTC. -/
  | offset (layout : OffsetLayout)

/-- The numbers of a timestamp; what the text does not tell is zero. -/
structure TimeFields where
  date : CivilDate := ⟨0, 0, 0⟩
  time : ClockTime := ⟨0, 0, 0, 0⟩
  offset : Int := 0

namespace TimeFields

/-- The numbers with one of them set. -/
def set (fields : TimeFields) (field : TimeField) (value : Nat) : TimeFields :=
  match field with
  | .year => { fields with date.year := value }
  | .month => { fields with date.month := value }
  | .day => { fields with date.day := value }
  | .hour => { fields with time.hour := value }
  | .minute => { fields with time.minute := value }
  | .second => { fields with time.second := value }

/-- The instant that the numbers name, if there is one. -/
def instant? (fields : TimeFields) : Option Instant :=
  Instant.ofLocal? fields.date fields.time fields.offset

end TimeFields

/-! ## Parts -/

/-- Reads at least one and at most `width` digits. -/
def readDigits (width : Nat) (text : List Char) : Option (Nat × List Char) :=
  let run := (leadingDigits text).take width
  if run.isEmpty then none else some (ofDigits run, text.drop run.length)

/-- Reads a year that a sign may precede. -/
def readSignedYear (text : List Char) : Option (Int × List Char) :=
  match text with
  | '-' :: rest => (readDigits rest.length rest).map fun (year, rest) => (-(year : Int), rest)
  | '+' :: rest => (readDigits rest.length rest).map fun (year, rest) => ((year : Int), rest)
  | text => (readDigits 4 text).map fun (year, rest) => ((year : Int), rest)

/-- Reads a fraction of a second as nanoseconds; digits beyond the ninth are skipped. -/
def readFraction (text : List Char) : Option (Nat × List Char) :=
  match text with
  | '.' :: rest =>
    let run := (leadingDigits rest).take 9
    if run.isEmpty then none
    else some (ofDigits run * Nat.pow 10 (9 - run.length), afterDigits rest)
  | text => some (0, text)

/-- Reads two digits. -/
def readTwoDigits : List Char → Option (Nat × List Char)
  | a :: b :: rest => if a.isDigit && b.isDigit then some (ofDigits [a, b], rest) else none
  | _ => none

/-- Reads the sign of an offset; the typographic minus sign counts too. -/
def readSign : List Char → Option (Bool × List Char)
  | '+' :: rest => some (false, rest)
  | '-' :: rest => some (true, rest)
  | '\u2212' :: rest => some (true, rest)
  | _ => none

/-- Reads what separates the hours and minutes of an offset. -/
def readSeparator (oneColon : Bool) (text : List Char) : Option (List Char) :=
  if oneColon then
    match text with
    | ':' :: rest => some rest
    | _ => none
  else some (text.dropWhile fun c => c == ':' || isBlank c)

/-- Reads a sign, hours and minutes as seconds; offsets stay below one day. -/
def readNumericOffset (layout : OffsetLayout) (text : List Char) : Option (Int × List Char) := do
  let (negative, rest) ← readSign text
  let (hours, rest) ← readTwoDigits rest
  let rest ← readSeparator layout.oneColon rest
  let (minutes, rest) ←
    if layout.minutesOptional && rest.isEmpty then some (0, rest) else readTwoDigits rest
  if 23 < hours || 59 < minutes then none
  let seconds : Int := hours * 3600 + minutes * 60
  return (if negative then -seconds else seconds, rest)

/-- Reads an offset from UTC as seconds. -/
def readOffset (layout : OffsetLayout) (text : List Char) : Option (Int × List Char) :=
  let text := if layout.blanksBefore then trimStart text else text
  match text with
  | [] => none
  | c :: rest =>
    if layout.zulu && (c == 'Z' || c == 'z') then some (0, rest)
    else if layout.utc && String.ofList ((text.take 3).map Char.toLower) == "utc" then
      some (0, text.drop 3)
    else readNumericOffset layout text

/-- Reads one part of a layout into the numbers collected so far. -/
def readPart (fields : TimeFields) (part : TimePart) (text : List Char) :
    Option (TimeFields × List Char) :=
  match part with
  | .exact field width =>
    if (leadingDigits (text.take width)).length = width then
      some (fields.set field (ofDigits (text.take width)), text.drop width)
    else none
  | .upTo field width =>
    (readDigits width (trimStart text)).map fun (value, rest) => (fields.set field value, rest)
  | .signedYear =>
    (readSignedYear (trimStart text)).map fun (year, rest) =>
      ({ fields with date.year := year }, rest)
  | .oneOf characters =>
    match text with
    | c :: rest => if characters.contains c then some (fields, rest) else none
    | [] => none
  | .blanks => some (fields, trimStart text)
  | .fraction =>
    (readFraction text).map fun (nanos, rest) => ({ fields with time.nanos := nanos }, rest)
  | .offset layout =>
    (readOffset layout text).map fun (offset, rest) => ({ fields with offset }, rest)

/-- Reads the parts of a layout in order. -/
def readParts (fields : TimeFields) : List TimePart → List Char → Option (TimeFields × List Char)
  | [], text => some (fields, text)
  | part :: parts, text => do
    let (fields, rest) ← readPart fields part text
    readParts fields parts rest

/-- The instant that a whole text writes by a layout. -/
def readTimestamp (layout : List TimePart) (text : List Char) : Option Instant := do
  let (fields, rest) ← readParts {} layout text
  if rest.isEmpty then fields.instant? else none

/-! ## Stored timestamps -/

namespace TimestampLayout

/-- The interchange format: numbers of fixed width, and an offset. -/
def strict : List TimePart :=
  [.exact .year 4, .oneOf ['-'], .exact .month 2, .oneOf ['-'], .exact .day 2,
    .oneOf ['T', 't', ' '], .exact .hour 2, .oneOf [':'], .exact .minute 2, .oneOf [':'],
    .exact .second 2, .fraction, .offset ⟨false, true, false, true, false⟩]

/-- Year, month and day with dashes between them. -/
def date : List TimePart :=
  [.signedYear, .oneOf ['-'], .upTo .month 2, .oneOf ['-'], .upTo .day 2]

/-- Hour, minute and second with colons between them, and a fraction. -/
def clock : List TimePart :=
  [.upTo .hour 2, .oneOf [':'], .upTo .minute 2, .oneOf [':'], .upTo .second 2, .fraction]

/-- The layouts of stored timestamps, in the order in which they are tried. -/
def stored : List (List TimePart) :=
  [strict,
    date ++ [.blanks] ++ clock ++ [.offset ⟨true, false, false, false, false⟩],
    date ++ [.blanks] ++ clock ++ [.offset ⟨true, true, false, false, true⟩],
    date ++ [.oneOf ['T']] ++ clock,
    date ++ [.blanks] ++ clock,
    date]

/-- The layout of timestamps in search documents. -/
def document : List TimePart :=
  [.signedYear, .blanks, .oneOf ['-'], .upTo .month 2, .blanks, .oneOf ['-'], .upTo .day 2,
    .oneOf ['T', 't', ' '], .upTo .hour 2, .blanks, .oneOf [':'], .upTo .minute 2, .blanks,
    .oneOf [':'], .upTo .second 2, .fraction, .blanks,
    .offset ⟨true, true, true, false, false⟩, .blanks]

end TimestampLayout

namespace Instant

/-- Reads a stored timestamp, without the blanks at its ends, by the first layout that fits. -/
def ofStored? (text : String) : Option Instant :=
  TimestampLayout.stored.findSome? fun layout => readTimestamp layout (trim text.toList)

/-- Reads a timestamp of a search document. -/
def ofDocument? (text : String) : Option Instant :=
  readTimestamp TimestampLayout.document text.toList

end Instant

end RecordStore
