import Assay.Utility.Dump
import Assay.Utility.Inspect

/-!
# Moments

`date` tells a moment, as a format says: the present one, or one that is written as a day and a time
or as seconds. The present one is the moment at which files were made and the time that has passed
since.
-/

namespace Assay.Shell

open Host

/-! ## Days -/

/-- A moment: its year, month, day of the month, and the seconds and nanoseconds of the day. -/
structure Moment where
  year : Int
  month : Nat
  day : Nat
  seconds : Nat
  nanoseconds : Nat := 0

/-- The number of the day of a moment, counted from the beginning of 1970. Years are taken to begin
in March, so that the day that is put in is their last one. -/
def dayNumber (year : Int) (month day : Nat) : Int :=
  let y := if month ≤ 2 then year - 1 else year
  let era := y.fdiv 400
  let yearOfEra := y - era * 400
  let dayOfYear : Int := (153 * ((month + 9) % 12) + 2) / 5 + day - 1
  era * 146097 + (yearOfEra * 365 + yearOfEra / 4 - yearOfEra / 100 + dayOfYear) - 719468

/-- The year, month and day of a day by its number. -/
def dayOfNumber (n : Int) : Int × Nat × Nat :=
  let z := n + 719468
  let era := z.fdiv 146097
  let dayOfEra := z - era * 146097
  let yearOfEra :=
    (dayOfEra - dayOfEra / 1460 + dayOfEra / 36524 - dayOfEra / 146096) / 365
  let dayOfYear := (dayOfEra - (365 * yearOfEra + yearOfEra / 4 - yearOfEra / 100)).toNat
  let place := (5 * dayOfYear + 2) / 153
  let month := if place < 10 then place + 3 else place - 9
  let year := yearOfEra + era * 400 + if month ≤ 2 then 1 else 0
  (year, month, dayOfYear - (153 * place + 2) / 5 + 1)

/-- The moment so many seconds after the beginning of 1970. -/
def momentAt (seconds : Int) (nanoseconds : Nat) : Moment :=
  let (year, month, day) := dayOfNumber (seconds.fdiv 86400)
  { year, month, day, seconds := (seconds.fmod 86400).toNat, nanoseconds }

/-- The seconds from the beginning of 1970 to a moment. -/
def Moment.since1970 (m : Moment) : Int :=
  dayNumber m.year m.month m.day * 86400 + m.seconds

/-- The day of the week, Sunday being zero. -/
def Moment.weekday (m : Moment) : Nat :=
  ((dayNumber m.year m.month m.day + 4).fmod 7).toNat

/-- The day of the year, counted from zero. -/
def Moment.yearDay (m : Moment) : Nat :=
  (dayNumber m.year m.month m.day - dayNumber m.year 1 1).toNat

/-- The year and the number of the week that a moment belongs to, of weeks that begin on Monday and
belong to the year that most of their days are in. -/
def Moment.week (m : Moment) : Int × Nat :=
  let number := dayNumber m.year m.month m.day
  let thursday := number - (((m.weekday + 6) % 7 : Nat) : Int) + 3
  let (year, _, _) := dayOfNumber thursday
  (year, ((thursday - dayNumber year 1 1) / 7).toNat + 1)

/-- The names of the days of the week. -/
def dayNames : List String :=
  ["Sunday", "Monday", "Tuesday", "Wednesday", "Thursday", "Friday", "Saturday"]

/-- The names of the months. -/
def monthNames : List String :=
  ["January", "February", "March", "April", "May", "June", "July", "August", "September", "October",
    "November", "December"]

/-! ## Formats -/

/-- A number in so many places, with a filling in front. -/
def inPlaces (fill : Char) (places : Nat) (n : Int) : String :=
  let ds := toString n.natAbs
  let sign := if n < 0 then "-" else ""
  sign ++ String.ofList (List.replicate (places - ds.length) fill) ++ ds

/-- What a letter of a format stands for: a number with its filling and places, or a text. -/
inductive Told where
  | number (fill : Char) (places : Nat) (n : Int)
  | text (s : String)

/-- What a letter of a format stands for. -/
def Moment.detail (m : Moment) (letter : Char) : Option Told :=
  let hour := m.seconds / 3600
  let minute := m.seconds / 60 % 60
  let second := m.seconds % 60
  let two (n : Int) : Told := .number '0' 2 n
  let inTwo (n : Nat) : String := inPlaces '0' 2 n
  let hour12 := (hour + 11) % 12 + 1
  let dayName := (dayNames[m.weekday]?).getD ""
  let monthName := (monthNames[m.month - 1]?).getD ""
  let short (s : String) : String := String.ofList (s.toList.take 3)
  let time := inTwo hour ++ ":" ++ inTwo minute ++ ":" ++ inTwo second
  match letter with
  | 'Y' => some (.number '0' 4 m.year)
  | 'C' => some (two (m.year.fdiv 100))
  | 'y' => some (two (m.year.fmod 100))
  | 'm' => some (two m.month)
  | 'd' => some (two m.day)
  | 'e' => some (.number ' ' 2 m.day)
  | 'H' => some (two hour)
  | 'k' => some (.number ' ' 2 hour)
  | 'I' => some (two hour12)
  | 'l' => some (.number ' ' 2 hour12)
  | 'M' => some (two minute)
  | 'S' => some (two second)
  | 'N' => some (.number '0' 9 m.nanoseconds)
  | 's' => some (.number '0' 1 m.since1970)
  | 'j' => some (.number '0' 3 (m.yearDay + 1))
  | 'u' => some (.number '0' 1 ((m.weekday + 6) % 7 + 1))
  | 'w' => some (.number '0' 1 m.weekday)
  | 'q' => some (.number '0' 1 ((m.month - 1) / 3 + 1))
  | 'U' => some (two ((m.yearDay + 7 - m.weekday) / 7))
  | 'W' => some (two ((m.yearDay + 7 - (m.weekday + 6) % 7) / 7))
  | 'V' => some (two m.week.2)
  | 'G' => some (.number '0' 4 m.week.1)
  | 'g' => some (two (m.week.1.fmod 100))
  | 'a' => some (.text (short dayName))
  | 'A' => some (.text dayName)
  | 'b' | 'h' => some (.text (short monthName))
  | 'B' => some (.text monthName)
  | 'p' => some (.text (if hour < 12 then "AM" else "PM"))
  | 'P' => some (.text (if hour < 12 then "am" else "pm"))
  | 'Z' => some (.text "UTC")
  | 'z' => some (.text "+0000")
  | 'T' | 'X' => some (.text time)
  | 'R' => some (.text (inTwo hour ++ ":" ++ inTwo minute))
  | 'r' =>
    some (.text (inTwo hour12 ++ ":" ++ inTwo minute ++ ":" ++ inTwo second ++
      if hour < 12 then " AM" else " PM"))
  | 'D' | 'x' =>
    some (.text (inTwo m.month ++ "/" ++ inTwo m.day ++ "/" ++ inPlaces '0' 2 (m.year.fmod 100)))
  | 'F' => some (.text (inPlaces '0' 4 m.year ++ "-" ++ inTwo m.month ++ "-" ++ inTwo m.day))
  | 'c' =>
    some (.text (short dayName ++ " " ++ short monthName ++ " " ++ inPlaces ' ' 2 m.day ++ " " ++
      time ++ " " ++ inPlaces '0' 4 m.year))
  | 'n' => some (.text "\n")
  | 't' => some (.text "\t")
  | '%' => some (.text "%")
  | _ => none

/-- What a format prints for a moment; of at most so many characters. -/
def Moment.formatted (m : Moment) : (fuel : Nat) → List Char → String
  | 0, _ | _, [] => ""
  | fuel + 1, '%' :: rest =>
    let flags := rest.takeWhile fun c => "-_0^#+".toList.contains c
    let digits := (rest.drop flags.length).takeWhile Char.isDigit
    let behind := rest.drop (flags.length + digits.length)
    let colons := behind.takeWhile (· = ':')
    let (letter, behind, zone) := match behind.drop colons.length with
      | 'z' :: more => ('z', more, true)
      | _ => (behind.headD '%', behind.tail, false)
    let told : Option Told :=
      if zone then
        some (.text (match colons.length with
          | 0 => "+0000"
          | 1 => "+00:00"
          | 2 => "+00:00:00"
          | _ => "+00"))
      else m.detail letter
    match told with
    | none => "%" ++ String.ofList (rest.take (flags.length + digits.length + 1)) ++
        m.formatted fuel behind
    | some told =>
      let width := decimalValue digits
      let text := match told with
        | .text s =>
          let s := if flags.contains '^' then s.toUpper
            else if flags.contains '#' then (if letter = 'p' then s.toLower else s.toUpper) else s
          if flags.contains '0' then
            String.ofList (List.replicate (width - s.length) '0') ++ s
          else padLeft width s
        | .number fill places n =>
          if letter = 'N' && !digits.isEmpty then
            String.ofList ((inPlaces '0' 9 n).toList.take width) ++
              String.ofList (List.replicate (width - 9) '0')
          else if flags.contains '-' then toString n
          else
            let fill := if flags.contains '_' then ' ' else if flags.contains '0' then '0' else fill
            inPlaces fill (max places width) n
      text ++ m.formatted fuel behind
  | fuel + 1, c :: rest => String.singleton c ++ m.formatted fuel rest

/-! ## Reading -/

/-- The seconds of a day that a time writes, and nanoseconds. -/
def timeOfDay? (s : String) : Option Nat :=
  let s := if s.endsWith "Z" then String.ofList s.toList.dropLast else s
  let parts := (Text.splitAt ':' s.toList).map fun p => naturalNumber? (String.ofList p)
  match parts with
  | [some h, some m] => if h < 24 && m < 60 then some (h * 3600 + m * 60) else none
  | [some h, some m, some s] =>
    if h < 24 && m < 60 && s < 61 then some (h * 3600 + m * 60 + s) else none
  | _ => none

/-- The number of the day that a text writes. -/
def dayWritten? (s : String) : Option Int :=
  let digits := s.toList
  let checked (y m d : Nat) : Option Int :=
    let (_, m', d') := dayOfNumber (dayNumber y m d)
    if 1 ≤ m && m ≤ 12 && 1 ≤ d && m' = m && d' = d then some (dayNumber y m d) else none
  match (Text.splitAt '-' digits).map fun p => naturalNumber? (String.ofList p) with
  | [some y, some m, some d] => checked y m d
  | _ =>
    match (Text.splitAt '/' digits).map fun p => naturalNumber? (String.ofList p) with
    | [some m, some d, some y] => checked y m d
    | _ =>
      if digits.length = 8 && digits.all Char.isDigit then
        checked (decimalValue (digits.take 4)) (decimalValue ((digits.drop 4).take 2))
          (decimalValue (digits.drop 6))
      else none

/-- The seconds of a unit of time. -/
def unitSeconds? (unit : String) : Option Nat :=
  match if unit.endsWith "s" then String.ofList unit.toList.dropLast else unit with
  | "second" | "sec" => some 1
  | "minute" | "min" => some 60
  | "hour" => some 3600
  | "day" => some 86400
  | "week" => some 604800
  | _ => none

/-- The seconds by which the time of a zone is ahead. -/
def zoneSeconds? (s : String) : Option Int :=
  match s.toList with
  | [sign, a, b, c, d] =>
    if (sign = '+' || sign = '-') && [a, b, c, d].all Char.isDigit then
      let seconds : Int := (decimalValue [a, b] * 3600 + decimalValue [c, d] * 60 : Nat)
      some (if sign = '+' then seconds else -seconds)
    else none
  | _ => none

/-- The number of the month of a name, or of its first three letters. -/
def monthOf? (word : String) : Option Nat :=
  let word := String.ofList ((word.toLower.toList).filter (· ≠ ','))
  (monthNames.findIdx? fun m =>
    m.toLower = word || String.ofList (m.toLower.toList.take 3) = word).map (· + 1)

/-- Words of which those that write a day by the name of its month are one, and signs are put in
front of their numbers. -/
def joinedWords : List String → List String
  | a :: b :: c :: rest =>
    let day (year month day : String) (m : Nat) : List String :=
      if month.length > 0 && (naturalNumber? year).isSome then
        [year ++ "-" ++ toString m ++ "-" ++ String.ofList (day.toList.filter (· ≠ ','))]
      else []
    let found := match monthOf? a, monthOf? b with
      | some m, _ => day c a b m
      | _, some m => day c b a m
      | _, _ => []
    if !found.isEmpty then found ++ joinedWords rest
    else if a = "+" || a = "-" then (a ++ b) :: joinedWords (c :: rest)
    else a :: joinedWords (b :: c :: rest)
  | words => words

/-- The seconds since the beginning of 1970 that words write, of which those so far stand for a day
and a time of it; the present is `now`. -/
def secondsWritten (now : Int) : (day : Option Int) → (time : Option Nat) → (shift : Int) →
    List String → Option Int
  | day, time, shift, [] =>
    let seconds : Int := match day, time with
      | _, some t => t
      | some _, none => 0
      | none, none => now.fmod 86400
    some ((day.getD (now.fdiv 86400)) * 86400 + seconds + shift)
  | day, time, shift, word :: rest =>
    match timeOfDay? word, dayWritten? word with
    | some t, _ => secondsWritten now day (some t) shift rest
    | none, some d => secondsWritten now (some d) time shift rest
    | none, none =>
      if ["now", "today", "UTC", "Z", "GMT"].contains word then
        secondsWritten now day time shift rest
      else if let some zone := zoneSeconds? word then
        secondsWritten now day time (shift - zone) rest
      else if word = "yesterday" then secondsWritten now day time (shift - 86400) rest
      else if word = "ago" then secondsWritten now day time (-shift) rest
      else if word = "tomorrow" then secondsWritten now day time (shift + 86400) rest
      else
        match rest with
        | unit :: more =>
          match signedInteger word, unitSeconds? unit with
          | some n, some size => secondsWritten now day time (shift + n * size) more
          | _, _ => none
        | [] => none
where
  /-- A number with or without a sign. -/
  signedInteger (s : String) : Option Int :=
    match s.toList with
    | '-' :: ds => (naturalNumber? (String.ofList ds)).map fun n => -(n : Int)
    | '+' :: ds => (naturalNumber? (String.ofList ds)).map Int.ofNat
    | _ => (naturalNumber? s).map Int.ofNat

/-- The seconds and nanoseconds since the beginning of 1970 that a text writes. -/
def momentWritten (now : Int) (s : String) : Option (Int × Nat) :=
  match s.toList with
  | '@' :: ds =>
    let (sign, ds) : Int × List Char := match ds with
      | '-' :: ds => (-1, ds)
      | ds => (1, ds)
    let whole := ds.takeWhile Char.isDigit
    match ds.drop whole.length with
    | [] => if whole.isEmpty then none else some (sign * decimalValue whole, 0)
    | '.' :: parts =>
      if whole.isEmpty || !parts.all Char.isDigit then none
      else
        let parts := parts.take 9
        some (sign * decimalValue whole, decimalValue parts * Nat.pow 10 (9 - parts.length))
    | _ => none
  | cs =>
    let isJoint : List Char → Bool := fun
      | [a, 'T', b] => a.isDigit && b.isDigit
      | _ => false
    let triples := cs.zip (cs.tail.zip cs.tail.tail)
    let joint := (triples.findIdx? fun (a, b, c) => isJoint [a, b, c]).map (· + 1)
    let cs := match joint with
      | some i => cs.take i ++ ' ' :: cs.drop (i + 1)
      | none => cs
    let words := (Text.splitAt ' ' cs).filter (!·.isEmpty)
    (secondsWritten now none none 0 (joinedWords (words.map String.ofList))).map (·, 0)

/-- The format that a precision asks for, as days and times are written in standards. -/
def standardFormat? (precision : String) : Option String :=
  match precision with
  | "" | "date" => some "%Y-%m-%d"
  | "hours" => some "%Y-%m-%dT%H%:z"
  | "minutes" => some "%Y-%m-%dT%H:%M%:z"
  | "seconds" => some "%Y-%m-%dT%H:%M:%S%:z"
  | "ns" => some "%Y-%m-%dT%H:%M:%S,%N%:z"
  | _ => none

/-- A format of standards in which a blank is in front of the time. -/
def plainFormat (format : String) : String :=
  format.map fun c => if c = 'T' then ' ' else if c = ',' then '.' else c

/-- `date` tells a moment. -/
def date : Utility := fun args => do
  let args := args.map fun a =>
    if a.startsWith "--rfc-3339=" then "--iso-8601=@" ++ String.ofList (a.toList.drop 11)
    else if a = "-I" || a = "--iso-8601" then "--iso-8601=date"
    else if a.startsWith "-I" then "--iso-8601=" ++ String.ofList (a.toList.drop 2) else a
  withOptions "date" "uR" "drJfs" 1
    (fun o => do
      let clock := (← world).clock
      let now : Int := (fileSeconds : Int) + (clock / 1000000000 : Nat)
      let refuse (message : String) : Eval Nat := do
        complain ("date: " ++ message)
        return 1
      let told ← match o.value? 'r', o.value? 'd' with
        | some path, _ =>
          match ← partOf true path with
          | .ok _ => pure (.ok ((fileSeconds : Int), 0))
          | .error fault => pure (.error (shownName path ++ ": " ++ fault.words))
        | none, some text =>
          pure (match momentWritten now text with
            | some m => Except.ok m
            | none => .error ("invalid date " ++ quotedName text))
        | none, none => pure (.ok (now, clock % 1000000000))
      match o.operands, told with
      | _ :: extra :: _, _ =>
        misused "date" ("extra operand " ++ quotedName extra)
        return 1
      | _, .error message => refuse message
      | operands, .ok (seconds, nanoseconds) =>
        let m := momentAt seconds nanoseconds
        let tell (format : String) : Eval Nat := do
          printLine (m.formatted (format.length + 1) format.toList)
          return 0
        match operands, o.value? 'J' with
        | [format], _ =>
          if format.startsWith "+" then tell (String.ofList format.toList.tail)
          else refuse ("invalid date " ++ quotedName format)
        | _, some precision =>
          let plain := precision.startsWith "@"
          let precision := if plain then String.ofList precision.toList.tail else precision
          match standardFormat? precision with
          | some format => tell (if plain then plainFormat format else format)
          | none =>
            misused "date" ("invalid argument " ++ quotedName precision ++ " for '--iso-8601'")
            return 1
        | _, none =>
          tell (if o.has 'R' then "%a, %d %b %Y %H:%M:%S +0000" else "%a %b %e %H:%M:%S %Z %Y"))
    [("utc", 'u'), ("universal", 'u'), ("rfc-email", 'R'), ("date", 'd'), ("reference", 'r'),
      ("iso-8601", 'J'), ("file", 'f'), ("set", 's')] args

end Assay.Shell
