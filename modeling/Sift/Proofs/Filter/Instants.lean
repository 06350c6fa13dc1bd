import Mathlib
import Sift.Proofs.Filter.Calendar
import Sift.Proofs.Filter.Spelling

/-!
# Dates with times, as they are written

A date is written with digits, and a time of day and an offset may follow it. What is written is a
local time, if the digits are of ASCII and the date, the time of day and the offset exist. The
instant that is read is then the local time less its offset, as any count of days tells it.

* `Stamp`: a date with a time as it is written; `Stamp.text`: its characters.
* `Stamp.localTime?`: the local time that is written, if there is one.
* `readTime?_text`, `readOffset?_text`: one part in front of what follows it.
* `read?_text`: the instant of a stamp.
* `dateTime_denotes`: the constants that dates with times are read as, and their faults.
-/

namespace Sift.Filter

open Text Number

/-! ### Digits -/

/-- Digits of any script, from so many to so many of them. -/
structure Digits (least most : Nat) where
  chars : List Char
  length : least ≤ chars.length ∧ chars.length ≤ most
  digits : chars.all isDecimalDigit = true

/-- The value of digits of ASCII. The digits of other scripts have none. -/
def decimalValue? (ds : List Char) : Option Nat :=
  if ds.all Char.isDigit then some (Nat.ofDigitChars 10 ds 0) else none

/-- The value of digits as a number. -/
def Digits.value? {least most : Nat} (d : Digits least most) : Option Nat := decimalValue? d.chars

/-- The value of digits as a fraction, in units of the ninth place. -/
def Digits.nanos? (d : Digits 1 9) : Option Nat :=
  decimalValue? (d.chars ++ zeros (9 - d.chars.length))

/-! ### What is written -/

/-- Seconds, with a fraction or without. -/
structure Seconds where
  second : Digits 2 2
  fraction : Option (Digits 1 9)

/-- A time of day behind a `T` or a blank, with seconds or without. -/
structure Clock where
  blank : Bool
  hour : Digits 2 2
  minute : Digits 2 2
  seconds : Option Seconds

/-- What is said about the offset of a local time: nothing, that there is none, or hours and
minutes to the east or to the west. -/
inductive Zone where
  | missing
  | utc
  | offset (west : Bool) (hours minutes : Digits 2 2)

/-- A date with a time, as it is written. -/
structure Stamp where
  year : Digits 4 4
  month : Digits 2 2
  day : Digits 2 2
  clock : Option Clock
  zone : Zone

/-- The characters of a fraction. -/
def fractionText : Option (Digits 1 9) → List Char
  | none => []
  | some d => '.' :: d.chars

/-- The characters of seconds. -/
def secondsText : Option Seconds → List Char
  | none => []
  | some s => ':' :: (s.second.chars ++ fractionText s.fraction)

/-- The characters of a time of day. -/
def clockText : Option Clock → List Char
  | none => []
  | some c => (if c.blank then ' ' else 'T') ::
      (c.hour.chars ++ ':' :: (c.minute.chars ++ secondsText c.seconds))

/-- The characters of an offset. -/
def Zone.text : Zone → List Char
  | missing => []
  | utc => ['Z']
  | offset west hours minutes =>
    (if west then '-' else '+') :: (hours.chars ++ ':' :: minutes.chars)

/-- The characters of a date with a time. -/
def Stamp.text (s : Stamp) : List Char :=
  s.year.chars ++ '-' ::
    (s.month.chars ++ '-' :: (s.day.chars ++ (clockText s.clock ++ s.zone.text)))

/-! ### What it stands for -/

/-- The date of a year, a month and a day, if there is one. -/
def Date.of? (year : Int) (month day : Nat) : Option Date :=
  if valid : isDate year month day = true then some ⟨year, month, day, valid⟩ else none

/-- The nanoseconds of a fraction. -/
def nanos? : Option (Digits 1 9) → Option Nat
  | none => some 0
  | some d => d.nanos?

/-- The second of a minute and its nanoseconds. -/
def seconds? : Option Seconds → Option (Nat × Nat)
  | none => some (0, 0)
  | some s => do
    let second ← s.second.value?
    let nanos ← nanos? s.fraction
    some (second, nanos)

/-- The second of a day and its nanoseconds, if there are such an hour, minute and second. -/
def timeOfDay? : Option Clock → Option (Nat × Nat)
  | none => some (0, 0)
  | some c => do
    let hour ← c.hour.value?
    let minute ← c.minute.value?
    let (second, nanos) ← seconds? c.seconds
    if hour < 24 ∧ minute < 60 ∧ second < 60 then
      some (hour * 3600 + minute * 60 + second, nanos)
    else none

/-- The seconds to the east, of less than a day. -/
def Zone.offset? : Zone → Option Int
  | missing => some 0
  | utc => some 0
  | offset west hours minutes => do
    let hours ← hours.value?
    let minutes ← minutes.value?
    if hours < 24 ∧ minutes < 60 then
      let seconds : Nat := hours * 3600 + minutes * 60
      some (if west then -seconds else seconds)
    else none

/-- A local time: a date, the second of the day with its nanoseconds, and how many seconds it is
ahead. -/
structure LocalTime where
  date : Date
  second : Nat
  nanos : Nat
  offset : Int

/-- The local time that is written, if there is one. -/
def Stamp.localTime? (s : Stamp) : Option LocalTime := do
  let year ← s.year.value?
  let month ← s.month.value?
  let day ← s.day.value?
  let date ← Date.of? year month day
  let (second, nanos) ← timeOfDay? s.clock
  let offset ← s.zone.offset?
  some ⟨date, second, nanos, offset⟩

/-- The instant of a local time. -/
def LocalTime.instant (m : LocalTime) : Instant :=
  ⟨m.date.number * 86400 + m.second - m.offset, m.nanos⟩

/-! ### Reading the parts -/

section

variable {count : Nat} (d : Digits count count) (rest : List Char)

theorem Digits.length_eq : d.chars.length = count := Nat.le_antisymm d.length.2 d.length.1

/-- Digits of a fixed number are read with their value, if they have one. -/
theorem readFixed?_digits :
    readFixed? count (d.chars ++ rest) = d.value?.map fun value => (value, rest) := by
  have taken : (d.chars ++ rest).take count = d.chars := List.take_left' d.length_eq
  have left : (d.chars ++ rest).drop count = rest := List.drop_left' d.length_eq
  unfold readFixed? Digits.value? decimalValue?
  dsimp only
  rw [taken, left]
  by_cases ascii : d.chars.all Char.isDigit = true
  · rw [if_pos ⟨d.length_eq, ascii⟩, if_pos ascii,
      digitsValue_eq_ofDigitChars (List.all_eq_true.1 ascii)]
    rfl
  · rw [if_neg fun both => ascii both.2, if_neg ascii]
    rfl

end

theorem readMark?_self (mark : Char) (rest : List Char) :
    readMark? mark (mark :: rest) = some rest := if_pos rfl

/-- A date that is written is read if its digits have values and the date exists. -/
theorem readDate?_text (year : Digits 4 4) (month day : Digits 2 2) (rest : List Char) :
    readDate? (year.chars ++ '-' :: (month.chars ++ '-' :: (day.chars ++ rest))) = (do
      let y ← year.value?
      let m ← month.value?
      let d ← day.value?
      let date ← Date.of? y m d
      some (date.number, rest)) := by
  unfold readDate?
  rw [readFixed?_digits]
  cases year.value? with
  | none => rfl
  | some y =>
  dsimp only [Option.map_some, Option.bind_eq_bind, Option.bind_some]
  rw [readMark?_self, Option.bind_some, readFixed?_digits]
  cases month.value? with
  | none => rfl
  | some m =>
  dsimp only [Option.map_some, Option.bind_some]
  rw [readMark?_self, Option.bind_some, readFixed?_digits]
  cases day.value? with
  | none => rfl
  | some d =>
  dsimp only [Option.map_some, Option.bind_some]
  unfold Date.of?
  -- the numbers are read; whether they are a date is asked in the same way on both sides
  by_cases valid : isDate y m d = true
  · rw [if_pos valid, dif_pos valid]
    rfl
  · rw [if_neg valid, dif_neg valid]
    rfl

/-! ### Fractions and seconds -/

/-- A fraction of fewer than nine digits is filled up with zeros. -/
theorem Digits.nanos?_ascii {d : Digits 1 9} (ascii : d.chars.all Char.isDigit = true) :
    d.nanos? = some (digitsValue 10 d.chars * Nat.pow 10 (9 - d.chars.length)) := by
  have all : (d.chars ++ zeros (9 - d.chars.length)).all Char.isDigit = true := by
    rw [List.all_append, ascii, Bool.true_and, List.all_eq_true]
    intro c hc
    rw [List.eq_of_mem_replicate hc]
    rfl
  unfold Digits.nanos? decimalValue?
  rw [if_pos all, Nat.ofDigitChars_append, zeros, Nat.ofDigitChars_replicate_zero, Nat.mul_comm,
    digitsValue_eq_ofDigitChars (List.all_eq_true.1 ascii)]
  rfl

/-- Digits outside of ASCII have no value. -/
theorem Digits.nanos?_other {d : Digits 1 9} (other : ¬ d.chars.all Char.isDigit = true) :
    d.nanos? = none := by
  unfold Digits.nanos? decimalValue?
  refine if_neg fun all => other ?_
  rw [List.all_append, Bool.and_eq_true] at all
  exact all.1

/-- A digit of another script begins no offset. -/
theorem readOffset?_other {c : Char} (digit : isDecimalDigit c = true) (cs : List Char) :
    readOffset? (c :: cs) = none := by
  have apart (d : Char) (hd : isDecimalDigit d = false) : c ≠ d := by
    rintro rfl
    rw [digit] at hd
    cases hd
  have utc := apart 'Z' (by decide)
  have sign : ¬ (c = '+' ∨ c = '-') := by
    rintro (plus | minus)
    · exact apart '+' (by decide) plus
    · exact apart '-' (by decide) minus
  rw [readOffset?]
  · exact if_neg sign
  · intro same
    exact absurd same utc

/-- Digits of another script end a fraction, and no offset is read behind it. -/
theorem readOffset?_of_other {d : Digits 1 9} (other : ¬ d.chars.all Char.isDigit = true)
    {rest : List Char} {n : Nat} {behind : List Char}
    (h : readNanos? ('.' :: (d.chars ++ rest)) = some (n, behind)) : readOffset? behind = none := by
  -- the digits that are not ASCII end the run early and are left in front of the offset
  have stray : ∃ c cs, d.chars.dropWhile Char.isDigit = c :: cs := by
    refine List.exists_cons_of_ne_nil fun digits => other ?_
    rw [List.all_eq_true]
    exact List.dropWhile_eq_nil_iff.1 digits
  obtain ⟨c, cs, hc⟩ := stray
  have mem : c ∈ d.chars := (List.dropWhile_sublist Char.isDigit).subset (hc ▸ List.mem_cons_self)
  have left : (d.chars ++ rest).dropWhile Char.isDigit = c :: (cs ++ rest) := by
    rw [List.dropWhile_append, hc]
    rfl
  rw [readNanos?] at h
  split at h
  · obtain ⟨-, rfl⟩ := Prod.mk.inj (Option.some.inj h)
    rw [left]
    exact readOffset?_other (List.all_eq_true.1 d.digits c mem) _
  · cases h

/-! ### Parts in front of an offset -/

/-- Seconds that are written are read with their fraction, if there is one. -/
theorem readSeconds?_written (s : Seconds) (rest : List Char) :
    readSeconds? (secondsText (some s) ++ rest) = (do
      let second ← s.second.value?
      let (nanos, rest) ← readNanos? (fractionText s.fraction ++ rest)
      some (second, nanos, rest)) := by
  change readSeconds? (':' :: (s.second.chars ++ fractionText s.fraction ++ rest)) = _
  rw [List.append_assoc, readSeconds?, readFixed?_digits]
  cases s.second.value? <;> rfl

/-- A time of day is read part by part, and each part has to be in range. -/
theorem readTime?_written (c : Clock) (rest : List Char) :
    readTime? (clockText (some c) ++ rest) = (do
      let hour ← c.hour.value?
      let minute ← c.minute.value?
      let (second, nanos, rest) ← readSeconds? (secondsText c.seconds ++ rest)
      if hour < 24 ∧ minute < 60 ∧ second < 60 then
        some (hour * 3600 + minute * 60 + second, nanos, rest)
      else none) := by
  -- either mark between date and time is read alike
  have mark : (if c.blank then ' ' else 'T') = 'T' ∨ (if c.blank then ' ' else 'T') = ' ' := by
    by_cases blank : c.blank = true
    · exact .inr (if_pos blank)
    · exact .inl (if_neg blank)
  have text : clockText (some c) ++ rest = (if c.blank then ' ' else 'T') ::
      (c.hour.chars ++ ':' :: (c.minute.chars ++ (secondsText c.seconds ++ rest))) := by
    simp [clockText]
  rw [text, readTime?, if_pos mark, readFixed?_digits]
  cases c.hour.value? with
  | none => rfl
  | some hour =>
  dsimp only [Option.map_some, Option.bind_eq_bind, Option.bind_some]
  rw [readMark?_self, Option.bind_some, readFixed?_digits]
  cases c.minute.value? <;> rfl

section

variable (zone : Zone)

/-- No digit starts an offset, so a fraction ends in front of it. -/
theorem Zone.follows_text : Follows (!Char.isDigit ·) zone.text := by
  intro c hc
  cases zone with
  | missing => cases hc
  | utc =>
    cases hc
    rfl
  | offset west hours minutes =>
    cases west <;> cases hc <;> rfl

/-- An offset that is written is read as what it says, if it exists. -/
theorem readOffset?_text : readOffset? zone.text = zone.offset? := by
  cases zone with
  | missing => rfl
  | utc => rfl
  | offset west hours minutes =>
    have step (sign : Char) (hsign : sign = '+' ∨ sign = '-') :
        readOffset? (sign :: (hours.chars ++ ':' :: minutes.chars)) = (do
          let h ← hours.value?
          let m ← minutes.value?
          if h < 24 ∧ m < 60 then some (signed (sign = '-') (h * 3600 + m * 60)) else none) := by
      rw [readOffset?]
      · rw [if_pos hsign, readFixed?_digits]
        cases hours.value? with
        | none => rfl
        | some h =>
        dsimp only [Option.map_some, Option.bind_eq_bind, Option.bind_some]
        have last := readFixed?_digits minutes []
        rw [List.append_nil] at last
        rw [readMark?_self, Option.bind_some, last]
        cases minutes.value? with
        | none => rfl
        | some m => simp
      · rintro rfl
        simp at hsign
    cases west
    · exact (step '+' (.inl rfl)).trans rfl
    · exact (step '-' (.inr rfl)).trans rfl

/-- A fraction in front of an offset: it is read as its nanoseconds, or no offset is read behind
it. -/
theorem readNanos?_text (fraction : Option (Digits 1 9)) :
    readNanos? (fractionText fraction ++ zone.text) =
        (nanos? fraction).map (fun nanos => (nanos, zone.text)) ∨
      nanos? fraction = none ∧ ∀ n behind,
        readNanos? (fractionText fraction ++ zone.text) = some (n, behind) →
          readOffset? behind = none := by
  cases fraction with
  | none =>
    left
    cases zone with
    | missing => rfl
    | utc => rfl
    | offset west hours minutes => cases west <;> rfl
  | some d =>
    -- digits that are not ASCII are letters to the reader, and spoil what follows
    by_cases ascii : d.chars.all Char.isDigit = true
    · left
      obtain ⟨taken, left⟩ := takeWhile_append_of_stop zone.follows_text d.chars
      rw [List.takeWhile_eq_self_iff.2 (List.all_eq_true.1 ascii)] at taken
      rw [List.dropWhile_eq_nil_iff.2 (List.all_eq_true.1 ascii)] at left
      change readNanos? ('.' :: (d.chars ++ zone.text)) = d.nanos?.map _
      rw [readNanos?, taken, left, if_pos d.length, Digits.nanos?_ascii ascii]
      rfl
    · right
      exact ⟨Digits.nanos?_other ascii, fun n behind h => readOffset?_of_other ascii h⟩

/-- Seconds in front of an offset are read as what they say; where they have no value, no offset is
found behind what is read of them. -/
theorem readSeconds?_text (seconds : Option Seconds) :
    readSeconds? (secondsText seconds ++ zone.text) =
        (seconds? seconds).map (fun time => (time.1, time.2, zone.text)) ∨
      seconds? seconds = none ∧ ∀ s n behind,
        readSeconds? (secondsText seconds ++ zone.text) = some (s, n, behind) →
          readOffset? behind = none := by
  cases seconds with
  | none =>
    left
    cases zone with
    | missing => rfl
    | utc => rfl
    | offset west hours minutes => cases west <;> rfl
  | some s =>
    have value : seconds? (some s) = (do
        let second ← s.second.value?
        let nanos ← nanos? s.fraction
        some (second, nanos)) := rfl
    rw [readSeconds?_written, value]
    cases s.second.value? with
    | none => exact .inl rfl
    | some second =>
    dsimp only [Option.bind_eq_bind, Option.bind_some]
    rcases readNanos?_text zone s.fraction with read | ⟨nothing, stray⟩
    · left
      rw [read]
      cases nanos? s.fraction <;> rfl
    · right
      rw [nothing]
      -- the fault comes later, when the offset is read
      refine ⟨rfl, fun t n behind h => ?_⟩
      obtain ⟨⟨m, left⟩, read, h⟩ := Option.bind_eq_some_iff.1 h
      obtain ⟨-, -, rfl⟩ := by simpa using h
      exact stray m _ read

/-- **A time of day** in front of an offset: it is read as what it says, or no offset is read behind
it. -/
theorem readTime?_text (clock : Option Clock) :
    readTime? (clockText clock ++ zone.text) =
        (timeOfDay? clock).map (fun time => (time.1, time.2, zone.text)) ∨
      timeOfDay? clock = none ∧ ∀ s n behind,
        readTime? (clockText clock ++ zone.text) = some (s, n, behind) →
          readOffset? behind = none := by
  cases clock with
  | none =>
    left
    cases zone with
    | missing => rfl
    | utc => rfl
    | offset west hours minutes => cases west <;> rfl
  | some c =>
    have value : timeOfDay? (some c) = (do
        let hour ← c.hour.value?
        let minute ← c.minute.value?
        let (second, nanos) ← seconds? c.seconds
        if hour < 24 ∧ minute < 60 ∧ second < 60 then
          some (hour * 3600 + minute * 60 + second, nanos)
        else none) := rfl
    rw [readTime?_written, value]
    cases c.hour.value? with
    | none => exact .inl rfl
    | some hour =>
    cases c.minute.value? with
    | none => exact .inl rfl
    | some minute =>
    dsimp only [Option.bind_eq_bind, Option.bind_some]
    rcases readSeconds?_text zone c.seconds with read | ⟨nothing, stray⟩
    · left
      rw [read]
      cases seconds? c.seconds with
      | none => rfl
      | some time =>
      dsimp only [Option.map_some, Option.bind_some]
      by_cases bounds : hour < 24 ∧ minute < 60 ∧ time.1 < 60
      · rw [if_pos bounds, if_pos bounds]
        rfl
      · rw [if_neg bounds, if_neg bounds]
        rfl
    · right
      rw [nothing]
      refine ⟨rfl, fun s n behind h => ?_⟩
      obtain ⟨⟨second, nanos, left⟩, read, h⟩ := Option.bind_eq_some_iff.1 h
      obtain ⟨-, -, -, rfl⟩ := by simpa using h
      exact stray second nanos _ read

end

/-- **The instant of a stamp** is that of its local time. -/
theorem read?_text (s : Stamp) : Instant.read? s.text = s.localTime?.map LocalTime.instant := by
  unfold Instant.read? Stamp.text Stamp.localTime?
  rw [readDate?_text]
  cases s.year.value? with
  | none => rfl
  | some year =>
  cases s.month.value? with
  | none => rfl
  | some month =>
  cases s.day.value? with
  | none => rfl
  | some day =>
  dsimp only [Option.bind_eq_bind, Option.bind_some]
  cases Date.of? year month day with
  | none => rfl
  | some date =>
  dsimp only [Option.bind_some]
  rcases readTime?_text s.zone s.clock with read | ⟨nothing, stray⟩
  · rw [read]
    cases timeOfDay? s.clock with
    | none => rfl
    | some time =>
    dsimp only [Option.map_some, Option.bind_some]
    rw [readOffset?_text]
    cases s.zone.offset? <;> rfl
  · -- the reader stops in front of the other script, where no offset begins
    rw [nothing, Option.bind_none, Option.map_none]
    cases read : readTime? (clockText s.clock ++ s.zone.text) with
    | none => rfl
    | some v =>
    obtain ⟨second, nanos, behind⟩ := v
    dsimp only [Option.bind_some]
    rw [stray second nanos behind read]
    rfl

/-! ### Literals -/

/-- The date of an instant. -/
def Instant.date (t : Instant) : Date := .ofNumber (t.seconds / 86400)

/-- The second of the day of an instant. -/
def Instant.secondOfDay (t : Instant) : Nat := (t.seconds % 86400).toNat

/-- The literal of a date with a time. -/
def Stamp.literal (s : Stamp) : String := "datetime'" ++ String.ofList s.text ++ "'"

/-- The second of a day is less than a day. -/
theorem Instant.secondOfDay_lt (t : Instant) : t.secondOfDay < 86400 := by
  unfold secondOfDay
  omega

/-- An instant is its date and its second of the day, by any count of days. -/
theorem Instant.days_date (days : DayCount) (t : Instant) :
    days t.date * 86400 + t.secondOfDay = t.seconds + days (.ofNumber 0) * 86400 := by
  rw [days.eq_number_add t.date, Instant.date, Date.number_ofNumber, secondOfDay]
  omega

/-- An instant is a local time less its offset, by any count of days. -/
theorem LocalTime.days_date_instant (days : DayCount) (m : LocalTime) :
    days m.instant.date * 86400 + m.instant.secondOfDay =
      days m.date * 86400 + m.second - m.offset := by
  rw [Instant.days_date, days.eq_number_add m.date, LocalTime.instant]
  dsimp only
  omega

/-- Nothing in a stamp is a quote, so it may stand in quotes; so for its parts below. -/
theorem Digits.quote_not_mem {least most : Nat} (d : Digits least most) : '\'' ∉ d.chars := by
  intro mem
  have digit := List.all_eq_true.1 d.digits _ mem
  revert digit
  decide

theorem quote_not_mem_clockText (clock : Option Clock) : '\'' ∉ clockText clock := by
  cases clock with
  | none => simp [clockText]
  | some c =>
    have mark : ¬ '\'' = if c.blank then ' ' else 'T' := by cases c.blank <;> decide
    have fraction (f : Option (Digits 1 9)) : '\'' ∉ fractionText f := by
      cases f <;> simp [fractionText, Digits.quote_not_mem]
    have seconds : '\'' ∉ secondsText c.seconds := by
      cases c.seconds <;> simp [secondsText, Digits.quote_not_mem, fraction]
    simp [clockText, Digits.quote_not_mem, mark, seconds]

theorem Zone.quote_not_mem_text (zone : Zone) : '\'' ∉ zone.text := by
  cases zone with
  | missing => simp [text]
  | utc => simp [text]
  | offset west hours minutes =>
    have sign : ¬ '\'' = if west then '-' else '+' := by cases west <;> decide
    simp [text, Digits.quote_not_mem, sign]

theorem Stamp.quote_not_mem_text (s : Stamp) : '\'' ∉ s.text := by
  simp [text, Digits.quote_not_mem, quote_not_mem_clockText, Zone.quote_not_mem_text]

/-- **The instant of a date with a time**. If the digits are of ASCII and there are such a date,
such a time of day and such an offset, the literal is one constant. Its day and its second of the
day are those of the local time less the offset, by any count of days, and its nanoseconds are the
fraction. Any other digits are a fault of the literal. -/
theorem dateTime_denotes (days : DayCount) (s : Stamp) :
    (∀ m, s.localTime? = some m →
      ∃ t, tokenize s.literal = .ok [.literal (.dateTime t)] ∧ t.secondOfDay < 86400 ∧
        days t.date * 86400 + t.secondOfDay = days m.date * 86400 + m.second - m.offset ∧
        t.nanos = m.nanos) ∧
    (s.localTime? = none →
      tokenize s.literal = .error (.lex 0 (.badLiteral "datetime" (String.ofList s.text)))) := by
  have text : s.literal.toList = 'd' :: ("atetime".toList ++ '\'' :: (s.text ++ ['\''])) := by
    simp [Stamp.literal]
  have literal : typedLiteral? .dateTime s.text =
      s.localTime?.map fun m => .dateTime m.instant := by
    rw [typedLiteral?, read?_text, Option.map_map]
    rfl
  have named : TypeName.ofWord? (lower (String.ofList ('d' :: "atetime".toList))) =
      some .dateTime := by decide
  obtain ⟨reads, fails⟩ := readTokens_typed _ (by decide) (by decide) named s.quote_not_mem_text
  refine ⟨fun m hm => ⟨m.instant, ?_, m.instant.secondOfDay_lt, m.days_date_instant days, rfl⟩,
    fun impossible => ?_⟩
  · rw [hm] at literal
    exact tokenize_eq_ok.2 (text ▸ reads _ literal)
  · rw [impossible] at literal
    unfold tokenize
    rw [text, fails literal]
    exact congrArg Except.error (toError_append [] _)

/-- Half an hour after the start of the year zero, almost a day ahead. -/
def firstOfYearZero : Stamp where
  year := ⟨"0000".toList, by decide, by decide⟩
  month := ⟨"01".toList, by decide, by decide⟩
  day := ⟨"01".toList, by decide, by decide⟩
  clock := some ⟨true, ⟨"00".toList, by decide, by decide⟩, ⟨"30".toList, by decide, by decide⟩,
    some ⟨⟨"00".toList, by decide, by decide⟩, some ⟨"05".toList, by decide, by decide⟩⟩⟩
  zone := .offset false ⟨"23".toList, by decide, by decide⟩ ⟨"59".toList, by decide, by decide⟩

/-- It is a minute later on the last day of the year before. -/
theorem before_year_zero : ∃ m, firstOfYearZero.localTime? = some m ∧
    ∃ t, tokenize "datetime'0000-01-01 00:30:00.05+23:59'" = .ok [.literal (.dateTime t)] ∧
      t.date = ⟨-1, 12, 31, by decide⟩ ∧ t.secondOfDay = 1860 ∧ t.nanos = 50000000 := by
  have time : firstOfYearZero.localTime? =
      some ⟨⟨0, 1, 1, by decide⟩, 1800, 50000000, 86340⟩ := by rfl
  obtain ⟨t, token, bound, day, nanos⟩ :=
    (dateTime_denotes .fromEpoch firstOfYearZero).1 _ time
  change t.date.number * 86400 + t.secondOfDay = -719528 * 86400 + 1800 - 86340 at day
  have number : t.date.number = -719529 := by omega
  refine ⟨_, time, t, token, ?_, by omega, nanos⟩
  rw [← Date.ofNumber_number t.date, number]
  rfl

end Sift.Filter
