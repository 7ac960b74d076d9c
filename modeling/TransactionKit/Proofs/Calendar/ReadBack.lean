import Mathlib.Data.List.Basic
import TransactionKit.Proofs.Text.Reading
import TransactionKit.Template.Renderer

/-!
Dates and times read back from their texts. There is one way to write a moment and three ways to
read one, tried in turn. Part by part, from the two digits of a month to the date with its time, the
reader takes what the writer wrote (`Takes`), and each way to read fails on the texts of the others.
`Value.Spelling.reads_back` is the result: a text that spells a date or a timestamp, with blanks
around it or not, has the same date view, so it is rendered as the same literal. The exception are
leap seconds that do not end a minute: they are shown as the next second, so they are read as that
(`Timestamp.settled`).
-/

namespace TransactionKit

open Text (isBlank isBlank_of_isDigit zeroPadded isDigit_of_mem_zeroPadded
  isDigit_of_mem_head?_zeroPadded)

namespace TimeOfDay

/-- No second is shown beyond the leap second. -/
theorem shownSecond_le (t : TimeOfDay) : t.shownSecond ≤ 60 := by
  obtain ⟨-, -, second, nanos⟩ := t.isTime
  unfold shownSecond
  omega

/-- The time of day that is shown: the next second for a leap second that does not end a minute. -/
def settled (t : TimeOfDay) : TimeOfDay :=
  if leap : t.shownSecond = 60 then t
  else
    ⟨t.hour, t.minute, t.shownSecond, t.subsecond, by
      obtain ⟨hour, minute, -, -⟩ := t.isTime
      have := t.shownSecond_le
      have : t.subsecond < 1000000000 := Nat.mod_lt _ (by decide)
      exact ⟨hour, minute, by omega, by omega⟩⟩

@[simp] theorem settled_hour (t : TimeOfDay) : t.settled.hour = t.hour := by
  unfold settled
  split <;> rfl

@[simp] theorem settled_minute (t : TimeOfDay) : t.settled.minute = t.minute := by
  unfold settled
  split <;> rfl

@[simp] theorem settled_shownSecond (t : TimeOfDay) : t.settled.shownSecond = t.shownSecond := by
  unfold settled
  split
  · rfl
  · have below : t.subsecond < 1000000000 := Nat.mod_lt _ (by decide)
    show t.shownSecond + t.subsecond / 1000000000 = t.shownSecond
    omega

@[simp] theorem settled_subsecond (t : TimeOfDay) : t.settled.subsecond = t.subsecond := by
  unfold settled
  split
  · rfl
  · exact Nat.mod_mod _ _

/-- Only the leap seconds that do not end a minute are changed. -/
theorem settled_eq_iff (t : TimeOfDay) :
    t.settled = t ↔ t.nanos < 1000000000 ∨ t.second = 59 := by
  obtain ⟨hour, minute, second, nanos, isTime⟩ := t
  have within := isTime.2.2
  unfold settled
  split_ifs with leap
  · simp only [shownSecond, true_iff] at leap ⊢
    omega
  · simp only [shownSecond, subsecond, mk.injEq, true_and] at leap ⊢
    omega

/-- What is shown of a time of day makes that time: a second 60 is the leap second after second 59,
and any other second is itself. -/
theorem of?_shown (t : TimeOfDay) :
    (if t.shownSecond = 60 then of? t.hour t.minute 59 (1000000000 + t.subsecond)
      else of? t.hour t.minute t.shownSecond t.subsecond) = some t.settled := by
  obtain ⟨hour, minute, seconds, within⟩ := t.isTime
  unfold settled
  split_ifs with leap
  · have last : 59 = t.second := by
      simp only [shownSecond] at leap
      omega
    have whole : 1000000000 + t.subsecond = t.nanos := by
      simp only [shownSecond, subsecond] at leap ⊢
      omega
    rw [last, whole]
    exact dif_pos ⟨t.isTime, .inr last.symm⟩
  · have below : t.subsecond < 1000000000 := Nat.mod_lt _ (by decide)
    have second := t.shownSecond_le
    exact dif_pos ⟨⟨hour, minute, by omega, by omega⟩, .inl below⟩

end TimeOfDay

namespace Timestamp

/-- The date and time of day that are shown. -/
def settled (t : Timestamp) : Timestamp :=
  { t with time := t.time.settled }

theorem settled_eq_iff (t : Timestamp) :
    t.settled = t ↔ t.time.nanos < 1000000000 ∨ t.time.second = 59 := by
  rw [← t.time.settled_eq_iff]
  exact ⟨congrArg Timestamp.time, fun same => congrArg (Timestamp.mk t.date) same⟩

theorem settled_ofDate (d : Date) : (ofDate d).settled = ofDate d :=
  (settled_eq_iff _).mpr (.inl (Nat.zero_lt_succ _))

end Timestamp

namespace Calendar

theorem daysInMonth_le (year : Int) (month : Nat) : daysInMonth year month ≤ 31 := by
  unfold daysInMonth
  grind

/-! ## What is written -/

namespace Pattern

/-- Below a hundred the two characters of a number are its decimal digits. -/
theorem writeTwo_zeros {n : Nat} (small : n < 100) : writeTwo .zeros n = zeroPadded 2 n := by
  revert n
  decide

/-- A year has at least four digits, and a sign where they need not be four. -/
theorem writeYear_zeros (year : Int) : writeYear .zeros year =
    (if year < 0 then ['-'] else if 9999 < year then ['+'] else []) ++
      zeroPadded 4 year.natAbs := by
  unfold writeYear writeNumber
  by_cases negative : year < 0
  · rw [if_neg (by omega)]
    simp [negative, zeroPadded]
  · by_cases long : 9999 < year
    · rw [if_neg (by omega)]
      simp [negative, long, zeroPadded]
    · rw [if_pos (by omega)]
      simp [negative, long, zeroPadded]

variable (t : Timestamp)

theorem isoDate_write : isoDate.write t = writeYear .zeros t.date.year ++ (['-'] ++
    (zeroPadded 2 t.date.month ++ (['-'] ++ zeroPadded 2 t.date.day))) := by
  obtain ⟨-, -, -, month, -, day⟩ := t.date.isDay
  have longest := daysInMonth_le t.date.year t.date.month
  rw [← writeTwo_zeros (show t.date.month < 100 by omega),
    ← writeTwo_zeros (show t.date.day < 100 by omega)]
  simp [write, isoDate, writeItem, writeField, zeros, mark, writeField.two]

theorem clock_write : clock.write t = zeroPadded 2 t.time.hour ++ ([':'] ++
    (zeroPadded 2 t.time.minute ++ ([':'] ++ zeroPadded 2 t.time.shownSecond))) := by
  obtain ⟨hour, minute, -, -⟩ := t.time.isTime
  have second := t.time.shownSecond_le
  rw [← writeTwo_zeros (show t.time.hour < 100 by omega),
    ← writeTwo_zeros (show t.time.minute < 100 by omega),
    ← writeTwo_zeros (show t.time.shownSecond < 100 by omega)]
  simp [write, clock, writeItem, writeField, zeros, mark, writeField.two]

/-- The text of the time of day. -/
def timeText : List Char :=
  clock.write t ++ writeItem t .subsecondIfAny

/-- Every conversion but the seconds since 1970 is about what is shown. -/
theorem write_settled {pattern : Pattern}
    (noEpoch : ∀ padding, .number .epochSeconds padding ∉ pattern) :
    pattern.write t.settled = pattern.write t := by
  refine List.flatMap_congr fun item member => ?_
  cases item with
  | number field padding =>
    cases field with
    | epochSeconds => exact absurd member (noEpoch padding)
    | _ => simp [writeItem, writeField, Timestamp.settled, TimeOfDay.clockHour]
  | halfDay upperCase =>
    cases upperCase <;> simp [writeItem, Timestamp.settled, TimeOfDay.isAfternoon]
  | _ => simp [writeItem, Timestamp.settled]

theorem isoDateTime_write : isoDateTime.write t = isoDate.write t ++ ' ' :: timeText t := by
  simp [write, isoDateTime, timeText, writeItem, mark]

theorem not_isBlank_of_mem_zeroPadded {width n : Nat} :
    ∀ c ∈ zeroPadded width n, isBlank c = false :=
  fun _ member => isBlank_of_isDigit (isDigit_of_mem_zeroPadded width n member)

theorem not_isBlank_of_mem_isoDate : ∀ c ∈ isoDate.write t, isBlank c = false := by
  rw [isoDate_write, writeYear_zeros]
  have sign : ∀ c ∈ (if t.date.year < 0 then ['-'] else if 9999 < t.date.year then ['+'] else []),
      isBlank c = false := by
    split_ifs
    · exact List.forall_mem_singleton.mpr rfl
    · exact List.forall_mem_singleton.mpr rfl
    · exact List.forall_mem_nil _
  have hyphen : ∀ c ∈ ['-'], isBlank c = false := List.forall_mem_singleton.mpr rfl
  simp only [List.forall_mem_append]
  exact ⟨⟨sign, not_isBlank_of_mem_zeroPadded⟩, hyphen, not_isBlank_of_mem_zeroPadded, hyphen,
    not_isBlank_of_mem_zeroPadded⟩

theorem not_isBlank_of_mem_timeText : ∀ c ∈ timeText t, isBlank c = false := by
  have subsecond : ∀ c ∈ writeItem t .subsecondIfAny, isBlank c = false := by
    unfold writeItem
    dsimp only
    split_ifs
    · exact List.forall_mem_nil _
    all_goals exact List.forall_mem_cons.mpr ⟨rfl, not_isBlank_of_mem_zeroPadded⟩
  have colon : ∀ c ∈ [':'], isBlank c = false := List.forall_mem_singleton.mpr rfl
  rw [timeText, clock_write]
  simp only [List.forall_mem_append]
  exact ⟨⟨not_isBlank_of_mem_zeroPadded, colon, not_isBlank_of_mem_zeroPadded, colon,
    not_isBlank_of_mem_zeroPadded⟩, subsecond⟩

end Pattern

/-! ## What is read -/

namespace Reader

open Text.Reader (Takes)

variable {n width low high : Nat} {rest : List Char}

theorem takes_blanks {cs : List Char} (blank : ∀ c ∈ cs, isBlank c = true)
    (solid : ∀ c ∈ rest.head?, isBlank c = false) : blanks.Takes cs () rest := by
  rw [Takes, blanks, Text.trimStart_append blank, Text.trimStart_eq_self solid]

/-- A number written in the greatest width that the reader allows is taken whatever follows it. -/
theorem takes_digits (wide : 0 < width) (fits : n < 10 ^ width) :
    (digits width).Takes (zeroPadded width n) n rest := by
  have run : (Text.Reader.takeUpTo (zeroPadded width n).length Char.isDigit).Takes
      (zeroPadded width n) (zeroPadded width n) rest :=
    Text.Reader.takes_takeUpTo (Text.zeroPadded_ne_nil width n) fun _ =>
      isDigit_of_mem_zeroPadded width n
  rw [Text.length_zeroPadded wide fits] at run
  have number := run.map Text.natOfDigits
  rwa [Text.natOfDigits_zeroPadded] at number

theorem takes_number (wide : 0 < width) (fits : n < 10 ^ width) (least : low ≤ n)
    (most : n ≤ high) : (number width low high).Takes (zeroPadded width n) n rest := by
  have solid : ∀ c ∈ (zeroPadded width n ++ rest).head?, isBlank c = false := fun _ head =>
    isBlank_of_isDigit (isDigit_of_mem_head?_zeroPadded width n head)
  have skipped : blanks.Takes [] () (zeroPadded width n ++ rest) := takes_blanks (by simp) solid
  apply skipped.bind
  apply (takes_digits wide fits).andThen
  rw [if_pos ⟨least, most⟩]
  exact Text.Reader.takes_pure n rest

/-- No number stands where neither a blank nor a digit does. -/
theorem number_eq_none {cs : List Char} (solid : ∀ c ∈ cs.head?, isBlank c = false)
    (stops : ∀ c ∈ cs.head?, c.isDigit = false) : number width low high cs = none := by
  have skipped : blanks.Takes [] () cs := takes_blanks (by simp) solid
  have nothing : digits width cs = none := by
    change (Text.Reader.takeUpTo width Char.isDigit cs).bind _ = none
    rw [Text.Reader.takeUpTo_eq_none stops]
    rfl
  apply skipped.bind_eq_none
  change (digits width cs).bind _ = none
  rw [nothing]
  rfl

/-- All the digits of a number are taken where no further digit follows them. -/
theorem takes_run (width n : Nat) (stops : ∀ c ∈ rest.head?, c.isDigit = false) :
    Takes (Text.Reader.takeWhile1 Char.isDigit) (zeroPadded width n) (zeroPadded width n) rest :=
  Text.Reader.takes_takeWhile1 (Text.zeroPadded_ne_nil width n)
    (fun _ => isDigit_of_mem_zeroPadded width n) stops

theorem takes_allDigits (stops : ∀ c ∈ rest.head?, c.isDigit = false) :
    allDigits.Takes (zeroPadded width n) n rest := by
  have number := (takes_run width n stops).map Text.natOfDigits
  rwa [Text.natOfDigits_zeroPadded] at number

/-- Without a sign a year is a number of up to four digits. -/
theorem year_of_isDigit {cs : List Char} (digit : ∀ c ∈ cs.head?, c.isDigit = true) :
    year cs = (digits 4 >>= fun n => pure (n : Int)) cs := by
  have skipped : blanks.Takes [] () cs :=
    takes_blanks (by simp) fun c head => isBlank_of_isDigit (digit c head)
  have same : blanks cs = some ((), cs) := skipped
  unfold year
  simp only [bind, StateT.bind, same, get, getThe, MonadStateOf.get, StateT.get, pure,
    Option.bind_some]
  split
  · exact absurd (digit '-' rfl) (by decide)
  · exact absurd (digit '+' rfl) (by decide)
  · rfl

theorem takes_year_unsigned (fits : n < 10000) : year.Takes (zeroPadded 4 n) n rest := by
  have number : (digits 4).Takes (zeroPadded 4 n) n rest := takes_digits (by decide) fits
  rw [Takes, year_of_isDigit fun _ => isDigit_of_mem_head?_zeroPadded 4 n]
  exact number.map fun n => (n : Int)

/-- After a sign a year has all the digits there are. -/
theorem year_minus (cs : List Char) :
    year ('-' :: cs) = (allDigits >>= fun n => pure (-(n : Int))) cs :=
  rfl

theorem year_plus (cs : List Char) :
    year ('+' :: cs) = (allDigits >>= fun n => pure (n : Int)) cs :=
  rfl

theorem takes_year_minus (stops : ∀ c ∈ rest.head?, c.isDigit = false) :
    year.Takes ('-' :: zeroPadded 4 n) (-n) rest := by
  have number : allDigits.Takes (zeroPadded 4 n) n rest := takes_allDigits stops
  rw [Takes, List.cons_append, year_minus]
  exact number.map fun n => -(n : Int)

theorem takes_year_plus (stops : ∀ c ∈ rest.head?, c.isDigit = false) :
    year.Takes ('+' :: zeroPadded 4 n) n rest := by
  have number : allDigits.Takes (zeroPadded 4 n) n rest := takes_allDigits stops
  rw [Takes, List.cons_append, year_plus]
  exact number.map fun n => (n : Int)

/-- A written year is read back where no further digit follows it. -/
theorem takes_year (y : Int) (stops : ∀ c ∈ rest.head?, c.isDigit = false) :
    year.Takes (Pattern.writeYear .zeros y) y rest := by
  rw [Pattern.writeYear_zeros]
  by_cases negative : y < 0
  · have taken : year.Takes ('-' :: zeroPadded 4 y.natAbs) (-y.natAbs) rest :=
      takes_year_minus stops
    have magnitude : -(y.natAbs : Int) = y := by omega
    rw [if_pos negative]
    rwa [magnitude] at taken
  · have magnitude : (y.natAbs : Int) = y := by omega
    rw [if_neg negative]
    split_ifs with long
    · have taken : year.Takes ('+' :: zeroPadded 4 y.natAbs) y.natAbs rest :=
        takes_year_plus stops
      rwa [magnitude] at taken
    · have taken : year.Takes (zeroPadded 4 y.natAbs) y.natAbs rest :=
        takes_year_unsigned (by omega)
      rwa [magnitude] at taken

/-- A date is taken whatever follows it. -/
theorem takes_date (d : Date) : date.Takes (Pattern.isoDate.write (.ofDate d)) d rest := by
  obtain ⟨-, -, monthLow, monthHigh, dayLow, dayHigh⟩ := d.isDay
  have day : d.day ≤ 31 := Nat.le_trans dayHigh (daysInMonth_le d.year d.month)
  rw [Pattern.isoDate_write]
  apply (takes_year d.year (by simp)).bind
  apply (Text.Reader.takes_mark '-' _).bind
  apply (takes_number (by decide) (by omega) monthLow monthHigh).bind
  apply (Text.Reader.takes_mark '-' _).bind
  apply (takes_number (by decide) (by omega) dayLow day).andThen
  exact Text.Reader.takes_liftM (dif_pos d.isDay) rest

/-- The digits of a fraction, however few, give its nanoseconds. -/
theorem takes_nanoseconds (wide : 0 < width) (narrow : width ≤ 9) (fits : n < 10 ^ width)
    (stops : ∀ c ∈ rest.head?, c.isDigit = false) :
    nanoseconds.Takes (zeroPadded width n) (10 ^ (9 - width) * n) rest := by
  have filled : (zeroPadded width n ++ List.replicate 9 '0').take 9 =
      zeroPadded width n ++ List.replicate (9 - width) '0' := by
    rw [List.take_append, Text.length_zeroPadded wide fits, List.take_of_length_le,
      List.take_replicate, Nat.min_eq_left (Nat.sub_le 9 width)]
    rwa [Text.length_zeroPadded wide fits]
  have value := (takes_run width n stops).map fun run =>
    Text.natOfDigits ((run ++ List.replicate 9 '0').take 9)
  rwa [filled, Text.natOfDigits_append_zeros, Text.natOfDigits_zeroPadded] at value

theorem takes_fraction_point (wide : 0 < width) (narrow : width ≤ 9) (fits : n < 10 ^ width) :
    fraction.Takes ('.' :: zeroPadded width n) (10 ^ (9 - width) * n) [] :=
  takes_nanoseconds wide narrow fits (by simp)

/-- The fraction is read back exactly, be it written in three digits, six or nine or not at all. -/
theorem takes_fraction (t : Timestamp) :
    fraction.Takes (Pattern.writeItem t .subsecondIfAny) t.time.subsecond [] := by
  have below : t.time.subsecond < 1000000000 := Nat.mod_lt _ (by decide)
  unfold Pattern.writeItem
  dsimp only
  split_ifs with none millis micros
  · rw [none]
    rfl
  · have read : fraction.Takes ('.' :: zeroPadded 3 (t.time.subsecond / 1000000)) _ [] :=
      takes_fraction_point (by decide) (by decide) (by omega)
    have exact : 10 ^ (9 - 3) * (t.time.subsecond / 1000000) = t.time.subsecond := by omega
    rwa [exact] at read
  · have read : fraction.Takes ('.' :: zeroPadded 6 (t.time.subsecond / 1000)) _ [] :=
      takes_fraction_point (by decide) (by decide) (by omega)
    have exact : 10 ^ (9 - 6) * (t.time.subsecond / 1000) = t.time.subsecond := by omega
    rwa [exact] at read
  · have read : fraction.Takes ('.' :: zeroPadded 9 t.time.subsecond) _ [] :=
      takes_fraction_point (by decide) (by decide) (by omega)
    rwa [Nat.sub_self, Nat.pow_zero, Nat.one_mul] at read

theorem takes_time (t : Timestamp) : time.Takes (Pattern.timeText t) t.time.settled [] := by
  obtain ⟨hour, minute, -, -⟩ := t.time.isTime
  rw [Pattern.timeText, Pattern.clock_write]
  simp only [List.append_assoc]
  apply (takes_number (by decide) (by omega) (Nat.zero_le _) (by omega)).bind
  apply (Text.Reader.takes_mark ':' _).bind
  apply (takes_number (by decide) (by omega) (Nat.zero_le _) (by omega)).bind
  apply (Text.Reader.takes_mark ':' _).bind
  have second := t.time.shownSecond_le
  apply (takes_number (by decide) (by omega) (Nat.zero_le _) second).bind
  apply (takes_fraction t).andThen
  have shown := t.time.of?_shown
  by_cases leap : t.time.shownSecond = 60
  · rw [if_pos leap] at shown ⊢
    exact Text.Reader.takes_liftM shown []
  · rw [if_neg leap] at shown ⊢
    exact Text.Reader.takes_liftM shown []

/-- A date with its time is read back with any separator that its reader takes. -/
theorem takes_dateTime {separator : Text.Reader Unit} {between : List Char} (t : Timestamp)
    (separates : separator.Takes between () (Pattern.timeText t)) :
    (dateTime separator).Takes (Pattern.isoDate.write t ++ (between ++ Pattern.timeText t))
      t.settled [] := by
  have last := (takes_time t).map fun time => (⟨t.date, time⟩ : Timestamp)
  rw [← List.append_nil (Pattern.timeText t)] at separates
  exact (takes_date t.date).bind (separates.bind last)

/-- A date with its time cannot be read where the separator is missing after the date. -/
theorem dateTime_eq_none_of_separator {separator : Text.Reader Unit} (d : Date)
    (missing : separator rest = none) :
    dateTime separator (Pattern.isoDate.write (.ofDate d) ++ rest) = none := by
  apply (takes_date d).bind_eq_none
  change (separator rest).bind _ = none
  rw [missing]
  rfl

/-- Nor can it be read where no time of day follows the date. -/
theorem dateTime_eq_none_of_time (d : Date) (solid : ∀ c ∈ rest.head?, isBlank c = false)
    (stops : ∀ c ∈ rest.head?, c.isDigit = false) :
    dateTime blanks (Pattern.isoDate.write (.ofDate d) ++ rest) = none := by
  have skipped : blanks.Takes [] () rest := takes_blanks (by simp) solid
  have nothing : time rest = none := by
    change (number 2 0 23 rest).bind _ = none
    rw [number_eq_none solid stops]
    rfl
  apply (takes_date d).bind_eq_none
  apply skipped.bind_eq_none
  change (time rest).bind _ = none
  rw [nothing]
  rfl

end Reader

end Calendar

open Calendar

namespace Timestamp

/-- The moment that a text without blanks around it denotes, in the first of the three ways. -/
def ofTrimmed? (cs : List Char) : Option Timestamp :=
  (Reader.dateTime Reader.blanks).whole? cs <|>
    (Reader.dateTime (Text.Reader.mark 'T')).whole? cs <|>
    (Reader.date.whole? cs).map ofDate

/-- Neither way to read a date with a time accepts the text of a date, which is left for the last. -/
theorem ofTrimmed?_date (d : Date) :
    ofTrimmed? (Pattern.isoDate.write (.ofDate d)) = some (.ofDate d) := by
  have spaced : Reader.dateTime Reader.blanks (Pattern.isoDate.write (.ofDate d) ++ []) = none :=
    Reader.dateTime_eq_none_of_time d (by simp) (by simp)
  have marked : Reader.dateTime (Text.Reader.mark 'T')
      (Pattern.isoDate.write (.ofDate d) ++ []) = none :=
    Reader.dateTime_eq_none_of_separator d rfl
  have read : Reader.date.whole? (Pattern.isoDate.write (.ofDate d)) = some d :=
    Text.Reader.whole?_of_takes (Reader.takes_date d)
  rw [List.append_nil] at spaced marked
  rw [ofTrimmed?, Text.Reader.whole?_eq_none spaced, Text.Reader.whole?_eq_none marked, read]
  rfl

theorem ofTrimmed?_spaced (t : Timestamp) :
    ofTrimmed? (Pattern.isoDate.write t ++ ' ' :: Pattern.timeText t) = some t.settled := by
  have solid := Pattern.not_isBlank_of_mem_timeText t
  have separates : Reader.blanks.Takes [' '] () (Pattern.timeText t) :=
    Reader.takes_blanks (List.forall_mem_singleton.mpr rfl) fun c head =>
      solid c (List.mem_of_mem_head? head)
  have read := Text.Reader.whole?_of_takes (Reader.takes_dateTime t separates)
  rw [List.singleton_append] at read
  rw [ofTrimmed?, read]
  rfl

/-- With a `T` before the time of day, the first way to read fails and the second does not. -/
theorem ofTrimmed?_marked (t : Timestamp) :
    ofTrimmed? (Pattern.isoDate.write t ++ 'T' :: Pattern.timeText t) = some t.settled := by
  have spaced : Reader.dateTime Reader.blanks
      (Pattern.isoDate.write t ++ 'T' :: Pattern.timeText t) = none :=
    Reader.dateTime_eq_none_of_time t.date (by rintro c ⟨⟩; rfl) (by simp)
  have read := Text.Reader.whole?_of_takes
    (Reader.takes_dateTime t (Text.Reader.takes_mark 'T' _))
  rw [List.singleton_append] at read
  rw [ofTrimmed?, Text.Reader.whole?_eq_none spaced, read]
  rfl

section

variable {before after : List Char} (blankBefore : ∀ c ∈ before, isBlank c = true)
  (blankAfter : ∀ c ∈ after, isBlank c = true)

include blankBefore blankAfter

/-- The blanks around a text do not matter. -/
theorem read?_between {core : List Char} (first : ∀ c ∈ core.head?, isBlank c = false)
    (last : ∀ c ∈ core.getLast?, isBlank c = false) :
    read? (String.ofList (before ++ core ++ after)) = ofTrimmed? core := by
  unfold read?
  rw [String.toList_ofList, Text.trimList_append blankBefore blankAfter first last]
  rfl

theorem read?_date (d : Date) :
    read? (String.ofList (before ++ Pattern.isoDate.write (.ofDate d) ++ after)) =
      ofTrimmed? (Pattern.isoDate.write (.ofDate d)) := by
  have solid := Pattern.not_isBlank_of_mem_isoDate (.ofDate d)
  apply read?_between blankBefore blankAfter
  · exact fun c first => solid c (List.mem_of_mem_head? first)
  · exact fun c last => solid c (List.mem_of_mem_getLast? last)

/-- Whatever separates date and time, neither end of the two is a blank. -/
theorem read?_dateTime (t : Timestamp) (separator : Char) :
    read? (String.ofList
        (before ++ (Pattern.isoDate.write t ++ separator :: Pattern.timeText t) ++ after)) =
      ofTrimmed? (Pattern.isoDate.write t ++ separator :: Pattern.timeText t) := by
  apply read?_between blankBefore blankAfter
  · have nonempty : Pattern.isoDate.write t ≠ [] := by simp [Pattern.isoDate_write]
    rw [List.head?_append, Option.or_of_isSome (List.isSome_head?.mpr nonempty)]
    intro c first
    exact Pattern.not_isBlank_of_mem_isoDate t c (List.mem_of_mem_head? first)
  · have nonempty : Pattern.timeText t ≠ [] := by simp [Pattern.timeText, Pattern.clock_write]
    rw [← List.singleton_append, ← List.append_assoc, List.getLast?_append,
      Option.or_of_isSome (List.getLast?_isSome.mpr nonempty)]
    intro c last
    exact Pattern.not_isBlank_of_mem_timeText t c (List.mem_of_mem_getLast? last)

end

end Timestamp

/-! ## Values -/

namespace RendererConfig

variable (config : RendererConfig)

/-- In its date kind a value is rendered by its date view. -/
theorem render_date {v : Value} {t : Timestamp} (view : v.timestamp? = some t) :
    config.render v .date = config.dateLiteral t := by
  simp [render, require, view, bind, Except.bind]

theorem dateLiteral_of_writable {pattern : Pattern}
    (writable : Pattern.of? config.dateFormat = some pattern) (t : Timestamp) :
    config.dateLiteral t = .ok (config.textLiteral (String.ofList (pattern.write t))) := by
  rw [dateLiteral, writable]

end RendererConfig

namespace Value

/-- How a date or a timestamp is spelt, with the moment that it stands for: as it shows itself, and a
timestamp also with a `T` for the space between its date and its time. -/
inductive Spelling : Value → Timestamp → List Char → Prop
  | date (d : Date) : Spelling (.date d) (.ofDate d) (display (.date d)).toList
  | timestamp (t : Timestamp) : Spelling (.timestamp t) t (display (.timestamp t)).toList
  | marked (t : Timestamp) : Spelling (.timestamp t) t
      ((display (.timestamp t)).toList.map fun c => if c = ' ' then 'T' else c)

theorem toList_display_timestamp (t : Timestamp) : (display (.timestamp t)).toList =
    Pattern.isoDate.write t ++ ' ' :: Pattern.timeText t := by
  rw [display, Timestamp.text, String.toList_ofList, Pattern.isoDateTime_write]

/-- The space is the only one in the text of a timestamp. -/
theorem map_display_timestamp (t : Timestamp) :
    ((display (.timestamp t)).toList.map fun c => if c = ' ' then 'T' else c) =
      Pattern.isoDate.write t ++ 'T' :: Pattern.timeText t := by
  have kept {cs : List Char} (solid : ∀ c ∈ cs, isBlank c = false) :
      (cs.map fun c => if c = ' ' then 'T' else c) = cs := by
    have noSpace : ∀ c ∈ cs, (if c = ' ' then 'T' else c) = c := by
      intro c member
      apply if_neg
      rintro rfl
      exact absurd (solid ' ' member) (by decide)
    rw [List.map_congr_left noSpace, List.map_id']
  rw [toList_display_timestamp, List.map_append, List.map_cons,
    kept (Pattern.not_isBlank_of_mem_isoDate t), kept (Pattern.not_isBlank_of_mem_timeText t)]
  rfl

theorem Spelling.timestamp?_eq {v : Value} {t : Timestamp} {cs : List Char}
    (spelling : v.Spelling t cs) : v.timestamp? = some t := by
  cases spelling <;> rfl

/-- A text that spells a date or a timestamp, between blanks or not, has the moment of that value for
its date view, unless that is in a leap second that does not end a minute: then it has the same part
of the next second. So it is rendered just as the value is, which is as a literal of the moment
wherever the date format of the renderer can be written; the next second makes a difference only to
formats with the seconds since 1970. -/
theorem Spelling.reads_back {v : Value} {t : Timestamp} {cs before after : List Char}
    (spelling : v.Spelling t cs) (blankBefore : ∀ c ∈ before, isBlank c = true)
    (blankAfter : ∀ c ∈ after, isBlank c = true) :
    v.timestamp? = some t ∧
      (text (String.ofList (before ++ cs ++ after))).timestamp? = some t.settled ∧
      (t.settled = t ↔ t.time.nanos < 1000000000 ∨ t.time.second = 59) ∧
      ∀ config : RendererConfig,
        (t.settled = t → config.render (text (String.ofList (before ++ cs ++ after))) .date =
            config.render v .date) ∧
          ∀ pattern, Pattern.of? config.dateFormat = some pattern →
            config.render v .date =
                .ok (config.textLiteral (String.ofList (pattern.write t))) ∧
              config.render (text (String.ofList (before ++ cs ++ after))) .date =
                .ok (config.textLiteral (String.ofList (pattern.write t.settled))) ∧
              ((∀ padding, .number .epochSeconds padding ∉ pattern) →
                config.render (text (String.ofList (before ++ cs ++ after))) .date =
                  config.render v .date) := by
  have own : v.timestamp? = some t := spelling.timestamp?_eq
  have read : (text (String.ofList (before ++ cs ++ after))).timestamp? = some t.settled := by
    show Timestamp.read? (String.ofList (before ++ cs ++ after)) = some t.settled
    cases spelling with
    | date d =>
      rw [display, Date.text, String.toList_ofList, Timestamp.read?_date blankBefore blankAfter,
        Timestamp.settled_ofDate]
      exact Timestamp.ofTrimmed?_date d
    | timestamp =>
      rw [toList_display_timestamp, Timestamp.read?_dateTime blankBefore blankAfter]
      exact Timestamp.ofTrimmed?_spaced t
    | marked =>
      rw [map_display_timestamp, Timestamp.read?_dateTime blankBefore blankAfter]
      exact Timestamp.ofTrimmed?_marked t
  refine ⟨own, read, t.settled_eq_iff, fun config => ⟨fun same => ?_, fun pattern writable => ?_⟩⟩
  · rw [config.render_date own, config.render_date read, same]
  · rw [config.render_date own, config.render_date read,
      config.dateLiteral_of_writable writable, config.dateLiteral_of_writable writable]
    refine ⟨rfl, rfl, fun noEpoch => ?_⟩
    rw [Pattern.write_settled t noEpoch]

/-- A leap second of a year before zero. -/
def leapSecond : Timestamp :=
  ⟨⟨-5, 12, 31, by decide⟩, ⟨23, 59, 59, 1000000001, by decide⟩⟩

/-- The leap second is read back from between a tab and a no-break space. -/
theorem leapSecond_reads_back :
    (timestamp leapSecond).timestamp? = some leapSecond ∧
      (text "\t-0005-12-31T23:59:60.000000001\u00a0").timestamp? = some leapSecond ∧
      ∀ config : RendererConfig,
        config.render (text "\t-0005-12-31T23:59:60.000000001\u00a0") .date =
            config.render (timestamp leapSecond) .date ∧
          ∀ pattern, Pattern.of? config.dateFormat = some pattern →
            config.render (timestamp leapSecond) .date =
              .ok (config.textLiteral (String.ofList (pattern.write leapSecond))) := by
  have before : ∀ c ∈ ['\t'], isBlank c = true := List.forall_mem_singleton.mpr rfl
  have after : ∀ c ∈ ['\u00a0'], isBlank c = true := List.forall_mem_singleton.mpr rfl
  have whole : String.ofList (['\t'] ++ ((display (.timestamp leapSecond)).toList.map fun c =>
      if c = ' ' then 'T' else c) ++ ['\u00a0']) = "\t-0005-12-31T23:59:60.000000001\u00a0" := by
    decide +kernel
  rw [← whole]
  obtain ⟨own, read, settled, rendered⟩ := (Spelling.marked leapSecond).reads_back before after
  have same := settled.mpr (.inr rfl)
  rw [same] at read
  exact ⟨own, read, fun config => ⟨(rendered config).1 same, fun pattern writable =>
    ((rendered config).2 pattern writable).1⟩⟩

/-- A leap second that does not end a minute. -/
def middleSecond : Timestamp :=
  ⟨⟨2015, 9, 5, by decide⟩, ⟨20, 19, 23, 1000000000, by decide⟩⟩

/-- The text of such a leap second is that of the next second, and is read as that, which makes a
difference where the seconds since 1970 are rendered. -/
theorem middleSecond_not_read_back :
    display (timestamp middleSecond) = "2015-09-05 20:19:24" ∧
      (timestamp middleSecond).timestamp? = some middleSecond ∧
      (text "2015-09-05 20:19:24").timestamp? ≠ some middleSecond ∧
      RendererConfig.render { dateFormat := "%s" } (timestamp middleSecond) .date =
        .ok "'1441484363'" ∧
      RendererConfig.render { dateFormat := "%s" } (text "2015-09-05 20:19:24") .date =
        .ok "'1441484364'" := by
  decide +kernel

end Value

end TransactionKit
