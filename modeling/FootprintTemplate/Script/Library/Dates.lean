import FootprintTemplate.Script.Library.Native

/-! Dates. Local time is that of Greenwich, and a date that is not given is the start of time. -/
namespace FootprintTemplate.Script.Library.Dates

open Number (Double)
open Run
open Text (Units units)

/-- The parts of a time. Months are counted from zero. -/
structure Parts where
  year : Int
  month : Int
  day : Int
  hour : Int
  minute : Int
  second : Int
  milli : Int

def dayLength : Int := 86400000

/-- The days from the start of 1970 to the start of a month. -/
def daysTo (year month : Int) : Int :=
  let year := year + month.fdiv 12
  let month := month.fmod 12
  let shifted := if month < 2 then year - 1 else year
  let era := shifted.fdiv 400
  let yearOfEra := shifted - era * 400
  let dayOfYear := (153 * ((month + 10) % 12) + 2) / 5
  era * 146097 + yearOfEra * 365 + yearOfEra / 4 - yearOfEra / 100 + dayOfYear - 719468

/-- The time of parts that may go over their bounds. -/
def Parts.time (parts : Parts) : Int :=
  (daysTo parts.year parts.month + parts.day - 1) * dayLength +
    parts.hour * 3600000 + parts.minute * 60000 + parts.second * 1000 + parts.milli

/-- The parts of a time in milliseconds. -/
def Parts.ofTime (time : Int) : Parts :=
  let days := time.fdiv dayLength
  let rest := time.fmod dayLength
  let shifted := days + 719468
  let era := shifted.fdiv 146097
  let dayOfEra := shifted - era * 146097
  let yearOfEra := (dayOfEra - dayOfEra / 1460 + dayOfEra / 36524 - dayOfEra / 146096) / 365
  let dayOfYear := dayOfEra - (365 * yearOfEra + yearOfEra / 4 - yearOfEra / 100)
  let shiftedMonth := (5 * dayOfYear + 2) / 153
  let month := (shiftedMonth + 2) % 12
  let year := yearOfEra + era * 400
  ⟨if month < 2 then year + 1 else year, month, dayOfYear - (153 * shiftedMonth + 2) / 5 + 1,
    rest / 3600000, rest / 60000 % 60, rest / 1000 % 60, rest % 1000⟩

def weekDay (time : Int) : Int :=
  (time.fdiv dayLength + 4).fmod 7

/-- A time that is not further off than times go. -/
def clipped (time : Int) : Double :=
  if time.natAbs > 8640000000000000 then .nan else .ofInt time

/-- The whole part of a finite number. -/
def whole? (n : Double) : Option Int :=
  n.toInt?

/-- Two-digit years are those of the twentieth century. -/
def fullYear (year : Int) : Int :=
  if 0 ≤ year && year ≤ 99 then 1900 + year else year

/-- The time that up to seven numbers give. -/
def timeOf (numbers : List Double) : Double :=
  match numbers.mapM whole? with
  | some [] | none => .nan
  | some (year :: rest) =>
    let part (i : Nat) (missing : Int) : Int := (rest[i]?).getD missing
    clipped (Parts.mk (fullYear year) (part 0 0) (part 1 1) (part 2 0) (part 3 0) (part 4 0)
      (part 5 0)).time

def names (all : List String) (i : Int) : String :=
  (all[i.toNat]?).getD ""

def dayName : Int → String :=
  names ["Sun", "Mon", "Tue", "Wed", "Thu", "Fri", "Sat"]

def monthNames : List String :=
  ["Jan", "Feb", "Mar", "Apr", "May", "Jun", "Jul", "Aug", "Sep", "Oct", "Nov", "Dec"]

/-- A natural number with leading zeros. -/
def padded (count : Nat) (n : Int) : String :=
  let digits := toString n.natAbs
  String.ofList (List.replicate (count - digits.length) '0') ++ digits

def yearText (year : Int) : String :=
  (if year < 0 then "-" else "") ++ padded (if year < 0 then 6 else 4) year

def dateText (time : Int) : String :=
  let parts := Parts.ofTime time
  dayName (weekDay time) ++ " " ++ names monthNames parts.month ++ " " ++ padded 2 parts.day ++
    " " ++ yearText parts.year

def clockText (parts : Parts) : String :=
  padded 2 parts.hour ++ ":" ++ padded 2 parts.minute ++ ":" ++ padded 2 parts.second

def timeText (time : Int) : String :=
  clockText (Parts.ofTime time) ++ " GMT+0000"

def universalText (time : Int) : String :=
  let parts := Parts.ofTime time
  dayName (weekDay time) ++ ", " ++ padded 2 parts.day ++ " " ++ names monthNames parts.month ++
    " " ++ yearText parts.year ++ " " ++ clockText parts ++ " GMT"

def exchangeText (time : Int) : String :=
  let parts := Parts.ofTime time
  let year :=
    if 0 ≤ parts.year && parts.year ≤ 9999 then padded 4 parts.year
    else (if parts.year < 0 then "-" else "+") ++ padded 6 parts.year
  year ++ "-" ++ padded 2 (parts.month + 1) ++ "-" ++ padded 2 parts.day ++ "T" ++
    clockText parts ++ "." ++ padded 3 parts.milli ++ "Z"

/-- So many digits at the start of a text. -/
def digits? (count : Nat) (text : List Char) : Option (Int × List Char) :=
  let digits := text.take count
  if digits.length == count && digits.all Char.isDigit then
    some ((Number.naturalOf digits : Nat), text.drop count)
  else none

/-- A sign and a number after it, if the sign is there. -/
def signed? (mark : Char) (missing : Int) (count : Nat) :
    List Char → Option (Int × List Char)
  | c :: rest => if c == mark then digits? count rest else some (missing, c :: rest)
  | [] => some (missing, [])

def year? (text : List Char) : Option (Int × List Char) :=
  match text with
  | '+' :: rest => digits? 6 rest
  | '-' :: rest => (digits? 6 rest).map fun (year, rest) => (-year, rest)
  | text => digits? 4 text

/-- How far local time is ahead, in minutes. -/
def zone? : List Char → Option Int
  | [] | ['Z'] => some 0
  | sign :: rest =>
    if sign == '+' || sign == '-' then do
      let (hours, rest) ← digits? 2 rest
      let (minutes, rest) ← signed? ':' 0 2 rest
      if rest.isEmpty then
        some (if sign == '-' then -(60 * hours + minutes) else 60 * hours + minutes)
      else none
    else none

/-- Reads a time in the form in which dates are exchanged. -/
def read? (text : List Char) : Option Int := do
  let (year, rest) ← year? text
  let (month, rest) ← signed? '-' 1 2 rest
  let (day, rest) ← signed? '-' 1 2 rest
  let (hour, minute, second, milli, rest) ← match rest with
    | 'T' :: rest => do
      let (hour, rest) ← digits? 2 rest
      let (minute, rest) ← signed? ':' 60 2 rest
      let (second, rest) ← signed? ':' 0 2 rest
      let (milli, rest) ← signed? '.' 0 3 rest
      pure (hour, minute, second, milli, rest)
    | rest => pure (0, 0, 0, 0, rest)
  let zone ← zone? rest
  let inBounds := 1 ≤ month && month ≤ 12 && 1 ≤ day && day ≤ 31 && minute < 60 && second < 60 &&
    (hour < 24 || (hour == 24 && minute == 0 && second == 0 && milli == 0))
  if inBounds then
    some ((Parts.mk year (month - 1) day hour minute second milli).time - zone * 60000)
  else none

def readTime (text : Units) : Double :=
  match read? (Text.ofUnits text).toList with
  | some time => clipped time
  | none => .nan

def maker (call : Call) : Run Value := do
  let m := call.machine
  if call.newTarget.isNone then
    return .ofString (dateText 0 ++ " " ++ timeText 0)
  let time ← match call.arguments with
    | [] => pure (.zero false)
    | [value] =>
      let inner? ← match value with
        | .object id =>
          match (← object id).kind with
          | .date time => pure (some time)
          | _ => pure none
        | _ => pure none
      match inner? with
      | some time => pure time
      | none =>
        match ← Coerce.toPlain m .default value with
        | .text text => pure (readTime text)
        | value =>
          let n ← Coerce.plainNumber value
          pure (((whole? n).map clipped).getD .nan)
    | values => pure (timeOf (← (values.take 7).mapM (Coerce.toNumber m)))
  call.make .date (.date time)

/-- `this` as a date and its time. -/
def subject (call : Call) : Run (Nat × Double) := do
  match call.this with
  | .object id =>
    match (← object id).kind with
    | .date time => return (id, time)
    | _ => failType "'this' is not a Date"
  | _ => failType "'this' is not a Date"

def part (name : String) (read : Int → Int) : List Native :=
  ["get" ++ name, "getUTC" ++ name].map fun name =>
    ⟨name, 0, fun call => do
      let (_, time) ← subject call
      return .number (((whole? time).map fun time => Double.ofInt (read time)).getD .nan)⟩

/-- Changes parts of a date to the arguments. -/
def change (name : String) (count : Nat) (put : Parts → List Int → Parts) : List Native :=
  ["set" ++ name, "setUTC" ++ name].map fun name =>
    ⟨name, count, fun call => do
      let (id, time) ← subject call
      let numbers ← (call.arguments.take count).mapM (Coerce.toNumber call.machine)
      let start := if name.endsWith "FullYear" && time.isNaN then some 0 else whole? time
      let changed := match start, numbers.mapM whole? with
        | some time, some (first :: rest) =>
          clipped (put (Parts.ofTime time) (first :: rest)).time
        | _, _ => .nan
      update id fun object => { object with kind := .date changed }
      return .number changed⟩

def text (name : String) (write : Int → String) : Native :=
  ⟨name, 0, fun call => do
    let (_, time) ← subject call
    return .ofString (((whole? time).map write).getD "Invalid Date")⟩

/-- A text that depends on a place, of which nothing is known. -/
def unavailable (name : String) : Native :=
  ⟨name, 0, fun _ => fail .error "Function Unimplemented"⟩

def toExchange (call : Call) : Run Value := do
  let (_, time) ← subject call
  match whole? time with
  | some time => return .ofString (exchangeText time)
  | none => fail .range "Invalid time value"

def toPlain (call : Call) : Run Value := do
  match call.this, call.argument 0 with
  | .object id, .text hint =>
    if hint == units "number" then
      Coerce.firstPlain call.machine id ["valueOf", "toString"]
    else if hint == units "string" || hint == units "default" then
      Coerce.firstPlain call.machine id ["toString", "valueOf"]
    else failType "invalid hint"
  | _, _ => failType "'this' is not an object"

def toExchangeOrNull (call : Call) : Run Value := do
  let id ← call.object
  match ← Coerce.toPlain call.machine .number (.object id) with
  | .number n => if !n.isFinite then return .null else go id
  | _ => go id
where
  go (id : Nat) : Run Value := do
    match ← Coerce.methodOf? call.machine (.object id) (.ofString "toISOString") with
    | some method => call.machine.call method (.object id) []
    | none => failType "not a callable function"

def setTime (call : Call) : Run Value := do
  let (id, _) ← subject call
  let time := ((whole? (← call.number 0)).map clipped).getD .nan
  update id fun object => { object with kind := .date time }
  return .number time

def valueOf (call : Call) : Run Value := do
  let (_, time) ← subject call
  return .number time

def partOr (list : List Int) (i : Nat) (missing : Int) : Int :=
  (list[i]?).getD missing

def changes : List Native :=
  change "FullYear" 3 (fun parts list =>
      { parts with year := partOr list 0 0, month := partOr list 1 parts.month,
                   day := partOr list 2 parts.day }) ++
    change "Month" 2 (fun parts list =>
      { parts with month := partOr list 0 0, day := partOr list 1 parts.day }) ++
    change "Date" 1 (fun parts list => { parts with day := partOr list 0 0 }) ++
    change "Hours" 4 (fun parts list =>
      { parts with hour := partOr list 0 0, minute := partOr list 1 parts.minute,
                   second := partOr list 2 parts.second, milli := partOr list 3 parts.milli }) ++
    change "Minutes" 3 (fun parts list =>
      { parts with minute := partOr list 0 0, second := partOr list 1 parts.second,
                   milli := partOr list 2 parts.milli }) ++
    change "Seconds" 2 (fun parts list =>
      { parts with second := partOr list 0 0, milli := partOr list 1 parts.milli }) ++
    change "Milliseconds" 1 (fun parts list => { parts with milli := partOr list 0 0 })

def family : Family where
  name := "Date"
  maker := some ⟨"Date", 7, maker⟩
  base := some .date
  own := [⟨"now", 0, fun _ => return .ofNat 0⟩,
    ⟨"parse", 1, fun call => do return .number (readTime (← call.text 0))⟩,
    ⟨"UTC", 7, fun call => do
      return .number (timeOf (← (call.arguments.take 7).mapM (Coerce.toNumber call.machine)))⟩]
  shared := part "FullYear" (Parts.year ∘ Parts.ofTime) ++
    part "Month" (Parts.month ∘ Parts.ofTime) ++ part "Date" (Parts.day ∘ Parts.ofTime) ++
    part "Hours" (Parts.hour ∘ Parts.ofTime) ++ part "Minutes" (Parts.minute ∘ Parts.ofTime) ++
    part "Seconds" (Parts.second ∘ Parts.ofTime) ++
    part "Milliseconds" (Parts.milli ∘ Parts.ofTime) ++ part "Day" weekDay ++ changes ++
    [⟨"getTime", 0, valueOf⟩,
      ⟨"getTimezoneOffset", 0, fun call => do
        let (_, time) ← subject call
        return .number (if time.isNaN then .nan else .zero false)⟩,
      ⟨"setTime", 1, setTime⟩, text "toDateString" dateText,
      ⟨"toISOString", 0, toExchange⟩, ⟨"toJSON", 1, toExchangeOrNull⟩,
      unavailable "toLocaleDateString", unavailable "toLocaleString",
      unavailable "toLocaleTimeString",
      text "toString" (fun time => dateText time ++ " " ++ timeText time),
      text "toTimeString" timeText, text "toUTCString" universalText,
      ⟨"valueOf", 0, valueOf⟩, ⟨"@@toPrimitive", 1, toPlain⟩]

end FootprintTemplate.Script.Library.Dates
