import BoundSql.Calendar.Reader
import BoundSql.Proofs.Number.Digits

/-!
Dates written and read. Each item of a form takes from a text what was written for it and leaves
the rest, so a date in its full form is read as it is shown there, and one in its plain form as the
date without the fraction of its second.
-/

namespace BoundSql

open Calendar Number Text

namespace Calendar

/-! ## Numbers -/

/-- As many digits as an item may take, or fewer with no digit behind them, are its number. -/
theorem takeNumber?_append {width : Nat} {row : List Char} {rest : List Char}
    (digits : ∀ c ∈ row, c.isDigit = true) (nonempty : row ≠ []) (fits : row.length ≤ width)
    (ends : row.length = width ∨ ∀ c ∈ rest.head?, c.isDigit = false) :
    takeNumber? width (row ++ rest) = some (valueOf row, rest) := by
  have taken : ((row ++ rest).takeWhile Char.isDigit).take width = row := by
    rcases ends with full | ends
    · rw [List.takeWhile_append_of_pos digits, ← full, List.take_left]
    · rw [(span_append digits ends).1, List.take_of_length_le fits]
  unfold takeNumber?
  rw [taken]
  cases row with
  | nil => exact absurd rfl nonempty
  | cons c row => simp

theorem takeNumber?_padded {width n : Nat} (small : n < 10 ^ width) (positive : 0 < width)
    (rest : List Char) : takeNumber? width (padded width n ++ rest) = some (n, rest) := by
  have length := length_padded small positive
  have taken : takeNumber? width (padded width n ++ rest) = some (valueOf (padded width n), rest) :=
    takeNumber?_append (fun _ => isDigit_of_mem_padded) (padded_ne_nil width n)
      (Nat.le_of_eq length) (.inl length)
  rwa [valueOf_padded] at taken

theorem isBlank_of_mem_padded {width n : Nat} {c : Char} (member : c ∈ padded width n) :
    isBlank c = false := by
  apply isBlank_of_isAlphanum
  rw [Char.isAlphanum, isDigit_of_mem_padded member, Bool.or_true]

theorem trimStart_padded (width n : Nat) (rest : List Char) :
    trimStart (padded width n ++ rest) = padded width n ++ rest := by
  cases shape : padded width n with
  | nil => exact absurd shape (padded_ne_nil width n)
  | cons c row =>
      apply trimStart_eq_self
      apply isBlank_of_mem_padded
      rw [shape]
      exact List.mem_cons_self ..

theorem trimEnd_padded (text : List Char) (width n : Nat) :
    trimEnd (text ++ padded width n) = text ++ padded width n := by
  rw [trimEnd, List.reverse_eq_iff, List.reverse_append]
  cases shape : (padded width n).reverse with
  | nil => exact absurd (List.reverse_eq_nil_iff.mp shape) (padded_ne_nil width n)
  | cons c row =>
      apply trimStart_eq_self
      apply isBlank_of_mem_padded
      rw [← List.mem_reverse, shape]
      exact List.mem_cons_self ..

/-! ## Items -/

theorem two_padded {n : Nat} (small : n < 100) (rest : List Char) (record : Nat → Fields) :
    takeItem?.two (padded 2 n ++ rest) record = some (record n, rest) := by
  rw [takeItem?.two, trimStart_padded, takeNumber?_padded small (by decide)]
  rfl

theorem yearText_eq (year : Int) :
    (0 ≤ year ∧ year ≤ 9999 ∧ DateTime.yearText year = padded 4 year.natAbs) ∨
      (year < 0 ∧ DateTime.yearText year = '-' :: padded 4 year.natAbs) ∨
      (9999 < year ∧ DateTime.yearText year = '+' :: padded 4 year.natAbs) := by
  unfold DateTime.yearText
  by_cases negative : year < 0
  · have outside : ¬ (0 ≤ year ∧ year ≤ 9999) := by omega
    simp [negative, outside]
  · by_cases short : year ≤ 9999
    · simp [short, Int.not_lt.mp negative]
    · have outside : ¬ (0 ≤ year ∧ year ≤ 9999) := by omega
      simp [negative, outside, Int.not_le.mp short]

theorem trimStart_yearText (year : Int) (rest : List Char) :
    trimStart (DateTime.yearText year ++ rest) = DateTime.yearText year ++ rest := by
  rcases yearText_eq year with ⟨-, -, text⟩ | ⟨-, text⟩ | ⟨-, text⟩
  · rw [text, trimStart_padded]
  · rw [text]
    exact trimStart_eq_self (by decide)
  · rw [text]
    exact trimStart_eq_self (by decide)

theorem takeYear?_yearText (year : Int) {rest : List Char}
    (ends : ∀ c ∈ rest.head?, c.isDigit = false) :
    takeYear? (DateTime.yearText year ++ rest) = some (year, rest) := by
  have signed : takeNumber? (padded 4 year.natAbs ++ rest).length (padded 4 year.natAbs ++ rest) =
      some (year.natAbs, rest) := by
    have fits : (padded 4 year.natAbs).length ≤ (padded 4 year.natAbs ++ rest).length := by
      rw [List.length_append]
      exact Nat.le_add_right ..
    have taken := takeNumber?_append (fun _ => isDigit_of_mem_padded) (padded_ne_nil _ _) fits
      (.inr ends)
    rwa [valueOf_padded] at taken
  rcases yearText_eq year with ⟨positive, short, text⟩ | ⟨negative, text⟩ | ⟨long, text⟩
  · have unsigned : takeNumber? 4 (padded 4 year.natAbs ++ rest) = some (year.natAbs, rest) :=
      takeNumber?_padded (by omega) (by decide) rest
    rw [text]
    cases shape : padded 4 year.natAbs with
    | nil => exact absurd shape (padded_ne_nil _ _)
    | cons c row =>
        have member : c ∈ padded 4 year.natAbs := by
          rw [shape]
          exact List.mem_cons_self ..
        have notSign := ne_sign_of_isDigit (isDigit_of_mem_padded member)
        rw [shape, List.cons_append] at unsigned
        simp [takeYear?, notSign.1, notSign.2, unsigned, Int.natAbs_of_nonneg positive]
  · rw [text, List.cons_append, takeYear?, signed]
    simp [Int.ofNat_natAbs_of_nonpos (Int.le_of_lt negative)]
  · rw [text, List.cons_append, takeYear?, signed]
    have positive : 0 ≤ year := by omega
    simp [Int.natAbs_of_nonneg positive]

/-! ## Forms -/

theorem readForm?_cons {fields next : Fields} {text rest : List Char} {item : FormItem}
    (taken : takeItem? fields text item = some (next, rest)) (items : List FormItem) :
    readForm? fields text (item :: items) = readForm? next rest items := by
  rw [readForm?, taken]

theorem takeItem?_mark (fields : Fields) (c : Char) (rest : List Char) :
    takeItem? fields (c :: rest) (.mark c) = some (fields, rest) := by
  rw [takeItem?, if_pos rfl]

theorem readForm?_dateText (fields : Fields) {written : Fields} (month : written.month < 100)
    (day : written.day < 100) (rest : List Char) (items : List FormItem) :
    readForm? fields (DateTime.dateText written ++ rest) (dateForm ++ items) =
      readForm?
        { fields with year := written.year, month := written.month, day := written.day }
        rest items := by
  have year (rest : List Char) : takeItem? fields
      (DateTime.yearText written.year ++ '-' :: rest) .year =
        some ({ fields with year := written.year }, '-' :: rest) := by
    rw [takeItem?, trimStart_yearText, takeYear?_yearText _ (by simp)]
    rfl
  have month (fields : Fields) (rest : List Char) : takeItem? fields
      (padded 2 written.month ++ rest) .month =
        some ({ fields with month := written.month }, rest) :=
    two_padded month rest fun n => { fields with month := n }
  have day (fields : Fields) (rest : List Char) : takeItem? fields
      (padded 2 written.day ++ rest) .day =
        some ({ fields with day := written.day }, rest) :=
    two_padded day rest fun n => { fields with day := n }
  simp only [DateTime.dateText, dateForm, List.cons_append, List.append_assoc, List.nil_append]
  rw [readForm?_cons (year _), readForm?_cons (takeItem?_mark ..), readForm?_cons (month _ _),
    readForm?_cons (takeItem?_mark ..), readForm?_cons (day _ _)]

theorem readForm?_timeText (fields : Fields) {written : Fields} (hour : written.hour < 100)
    (minute : written.minute < 100) (second : written.second < 100) (rest : List Char)
    (items : List FormItem) :
    readForm? fields (DateTime.timeText written ++ rest) (timeForm ++ items) =
      readForm?
        { fields with hour := written.hour, minute := written.minute, second := written.second }
        rest items := by
  have hour (fields : Fields) (rest : List Char) : takeItem? fields
      (padded 2 written.hour ++ rest) .hour =
        some ({ fields with hour := written.hour }, rest) :=
    two_padded hour rest fun n => { fields with hour := n }
  have minute (fields : Fields) (rest : List Char) : takeItem? fields
      (padded 2 written.minute ++ rest) .minute =
        some ({ fields with minute := written.minute }, rest) :=
    two_padded minute rest fun n => { fields with minute := n }
  have second (fields : Fields) (rest : List Char) : takeItem? fields
      (padded 2 written.second ++ rest) .second =
        some ({ fields with second := written.second }, rest) :=
    two_padded second rest fun n => { fields with second := n }
  simp only [DateTime.timeText, timeForm, List.cons_append, List.append_assoc, List.nil_append]
  rw [readForm?_cons (hour _ _), readForm?_cons (takeItem?_mark ..), readForm?_cons (minute _ _),
    readForm?_cons (takeItem?_mark ..), readForm?_cons (second _ _)]

theorem trimStart_timeText (written : Fields) (rest : List Char) :
    trimStart (DateTime.timeText written ++ rest) = DateTime.timeText written ++ rest := by
  simp only [DateTime.timeText, List.append_assoc, List.cons_append]
  rw [trimStart_padded]

end Calendar

/-! ## What texts show -/

namespace Calendar.Fields

theorem shown_bounds {fields : Fields} (isTime : fields.IsTime) :
    fields.shown.hour < 24 ∧ fields.shown.minute < 60 ∧ fields.shown.second ≤ 60 ∧
      fields.shown.nanosecond < 1000000000 := by
  rcases isTime with ⟨hour, minute, second, nanosecond⟩
  unfold shown
  split
  next small => exact ⟨hour, minute, Nat.le_of_lt second, small⟩
  next =>
      have left : fields.nanosecond - 1000000000 < 1000000000 := by omega
      exact ⟨hour, minute, Nat.succ_le_of_lt second, left⟩

theorem isDate_shown {fields : Fields} (isDate : fields.IsDate) : fields.shown.IsDate := by
  unfold shown
  split <;> exact isDate

theorem isDate_meant {fields : Fields} (isDate : fields.IsDate) : fields.meant.IsDate := by
  unfold meant
  split <;> exact isDate

theorem isTime_meant {fields : Fields} (hour : fields.hour < 24) (minute : fields.minute < 60)
    (second : fields.second ≤ 60) (nanosecond : fields.nanosecond < 1000000000) :
    fields.meant.IsTime := by
  unfold meant
  split
  next =>
      have whole : fields.nanosecond + 1000000000 < 2000000000 := by omega
      exact ⟨hour, minute, Nat.lt_succ_self 59, whole⟩
  next => exact ⟨hour, minute, by omega, by omega⟩

end Calendar.Fields

namespace DateTime

def settled (moment : DateTime) : DateTime where
  fields := moment.fields.shown.meant
  isDate := Fields.isDate_meant (Fields.isDate_shown moment.isDate)
  isTime := by
    rcases Fields.shown_bounds moment.isTime with ⟨hour, minute, second, nanosecond⟩
    exact Fields.isTime_meant hour minute second nanosecond

def withoutFraction (moment : DateTime) : DateTime where
  fields := Fields.meant { moment.fields.shown with nanosecond := 0 }
  isDate := Fields.isDate_meant (Fields.isDate_shown moment.isDate)
  isTime := by
    rcases Fields.shown_bounds moment.isTime with ⟨hour, minute, second, -⟩
    exact Fields.isTime_meant hour minute second (Nat.zero_lt_succ _)

/-- A moment is shown as it is, unless it is past the end of a second that is not the last one of
its minute. -/
theorem settled_fields (moment : DateTime) :
    moment.settled.fields =
      if moment.fields.nanosecond < 1000000000 ∨ moment.fields.second = 59 then moment.fields
      else { moment.fields with
        second := moment.fields.second + 1
        nanosecond := moment.fields.nanosecond - 1000000000 } := by
  rcases moment with ⟨⟨year, month, day, hour, minute, second, nanosecond⟩, isDate, isTime⟩
  have early : second < 60 := isTime.2.2.1
  simp only [settled, Fields.shown]
  by_cases small : nanosecond < 1000000000
  · rw [if_pos small, if_pos (.inl small), Fields.meant, if_neg (Nat.ne_of_lt early)]
  · rw [if_neg small]
    by_cases last : second = 59
    · subst last
      simp only [Fields.meant, or_true, if_true, Fields.mk.injEq, true_and]
      omega
    · have earlier : second + 1 ≠ 60 := by omega
      rw [Fields.meant, if_neg earlier, if_neg (by omega)]

theorem settled_eq_self_iff {moment : DateTime} :
    moment.settled = moment ↔
      moment.fields.nanosecond < 1000000000 ∨ moment.fields.second = 59 := by
  have same : moment.settled = moment ↔ moment.settled.fields = moment.fields := by
    cases moment
    exact DateTime.mk.injEq .. ▸ Iff.rfl
  rw [same, settled_fields]
  split
  next kept => exact iff_of_true rfl kept
  next past =>
      refine iff_of_false ?_ past
      intro equal
      have seconds := congrArg Fields.second equal
      simp at seconds

theorem withoutFraction_fields (moment : DateTime) :
    moment.withoutFraction.fields =
      { moment.settled.fields with
        nanosecond := moment.settled.fields.nanosecond / 1000000000 * 1000000000 } := by
  have small := (Fields.shown_bounds moment.isTime).2.2.2
  simp only [withoutFraction, settled]
  generalize moment.fields.shown = fields at small
  unfold Fields.meant
  split
  next => simp only [Fields.mk.injEq, true_and]; omega
  next => simp only [Fields.mk.injEq, true_and]; omega

theorem withoutFraction_eq_self_iff {moment : DateTime} :
    moment.withoutFraction = moment ↔ moment.fields.nanosecond = 0 ∨
      moment.fields.second = 59 ∧ moment.fields.nanosecond = 1000000000 := by
  have same : moment.withoutFraction = moment ↔
      moment.withoutFraction.fields = moment.fields := by
    cases moment
    exact DateTime.mk.injEq .. ▸ Iff.rfl
  rw [same, withoutFraction_fields, settled_fields]
  rcases moment with ⟨⟨year, month, day, hour, minute, second, nanosecond⟩, isDate, isTime⟩
  have bound : nanosecond < 2000000000 := isTime.2.2.2
  split <;> simp only [Fields.mk.injEq, true_and] at * <;> omega

/-! ## Plain texts -/

theorem daysIn_le (year : Int) (month : Nat) : daysIn year month ≤ 31 := by
  unfold daysIn
  split
  next =>
    split <;> decide
  next =>
    split <;> decide

theorem readForm?_date (moment : DateTime) (rest : List Char) (items : List FormItem) :
    readForm? {} (dateText moment.fields.shown ++ rest) (dateForm ++ items) =
      readForm?
        { year := moment.fields.shown.year
          month := moment.fields.shown.month
          day := moment.fields.shown.day }
        rest items := by
  rcases Fields.isDate_shown moment.isDate with ⟨-, -, -, month, -, day⟩
  have days := daysIn_le moment.fields.shown.year moment.fields.shown.month
  exact readForm?_dateText {} (by omega) (by omega) rest items

theorem readForm?_time (moment : DateTime) (taken : Fields) (rest : List Char)
    (items : List FormItem) :
    readForm? taken (timeText moment.fields.shown ++ rest) (timeForm ++ items) =
      readForm?
        { taken with
          hour := moment.fields.shown.hour
          minute := moment.fields.shown.minute
          second := moment.fields.shown.second }
        rest items := by
  rcases Fields.shown_bounds moment.isTime with ⟨hour, minute, second, -⟩
  exact readForm?_timeText taken (by omega) (by omega) (by omega) rest items

theorem ofForm?_eq {moment : DateTime} {text : List Char} {form : List FormItem}
    {fields : Fields} (read : readForm? {} text form = some fields)
    (meant : fields.meant = moment.fields) : ofForm? text form = some moment := by
  rw [ofForm?, read, Option.bind_some, meant]
  simp [ofFields?, moment.isDate, moment.isTime]

theorem readForm?_plainText (moment : DateTime) :
    readForm? {} moment.plainText (dateForm ++ .blanks :: timeForm) =
      some { moment.fields.shown with nanosecond := 0 } := by
  have blank (taken : Fields) : takeItem? taken (' ' :: timeText moment.fields.shown) .blanks =
      some (taken, timeText moment.fields.shown) := by
    have solid := trimStart_timeText moment.fields.shown []
    rw [List.append_nil] at solid
    have passed : trimStart (' ' :: timeText moment.fields.shown) =
        trimStart (timeText moment.fields.shown) := by
      simp [trimStart, show isBlank ' ' = true by decide]
    rw [takeItem?, passed, solid]
  have time (taken : Fields) := readForm?_time moment taken [] []
  simp only [List.append_nil] at time
  rw [plainText, readForm?_date, readForm?_cons (blank _), time]
  rfl

theorem trim_of_ends {text : List Char} {year : Int} {after before : List Char} {width n : Nat}
    (first : text = yearText year ++ after) (last : text = before ++ padded width n) :
    trim text = text := by
  have start : trimStart text = text := by
    rw [first, trimStart_yearText]
  rw [trim, start, last, trimEnd_padded]

theorem dateText_append (fields : Fields) (rest : List Char) :
    dateText fields ++ rest = yearText fields.year ++
      ('-' :: padded 2 fields.month ++ '-' :: padded 2 fields.day ++ rest) := by
  simp [dateText]

theorem timeText_eq (fields : Fields) : timeText fields =
    (padded 2 fields.hour ++ ':' :: padded 2 fields.minute ++ [':']) ++
      padded 2 fields.second := by
  simp [timeText]

theorem trim_plainText (moment : DateTime) : trim moment.plainText = moment.plainText := by
  apply trim_of_ends (dateText_append _ _)
  rw [timeText_eq, ← List.cons_append, ← List.append_assoc]

theorem ofText?_plainText (moment : DateTime) :
    ofText? moment.plainText = some moment.withoutFraction := by
  have fits : ofForm? moment.plainText (dateForm ++ .blanks :: timeForm) =
      some moment.withoutFraction := ofForm?_eq (readForm?_plainText moment) rfl
  rw [ofText?, trim_plainText, forms, List.findSome?_cons, fits]

/-! ## Full texts -/

theorem fractionText_eq {nanosecond : Nat} (small : nanosecond < 1000000000) :
    (nanosecond = 0 ∧ fractionText nanosecond = []) ∨
      ∃ width n, 0 < width ∧ width ≤ 9 ∧ n < 10 ^ width ∧ n * 10 ^ (9 - width) = nanosecond ∧
        fractionText nanosecond = '.' :: padded width n := by
  unfold fractionText
  split
  next zero => exact .inl ⟨zero, rfl⟩
  next =>
      right
      split
      next => exact ⟨3, nanosecond / 1000000, by omega, by omega, by omega, by omega, rfl⟩
      next =>
          split
          next => exact ⟨6, nanosecond / 1000, by omega, by omega, by omega, by omega, rfl⟩
          next => exact ⟨9, nanosecond, by omega, by omega, by omega, by omega, rfl⟩

theorem takeFraction?_fractionText {nanosecond : Nat} (small : nanosecond < 1000000000) :
    takeFraction? (fractionText nanosecond) = some (nanosecond, []) := by
  rcases fractionText_eq small with ⟨rfl, text⟩ | ⟨width, n, positive, short, fits, value, text⟩
  · rw [text]
    rfl
  · have digits : (padded width n).takeWhile Char.isDigit = padded width n :=
      List.takeWhile_eq_self_iff.mpr fun _ => isDigit_of_mem_padded
    have length := length_padded fits positive
    have counted : (padded width n).take 9 = padded width n :=
      List.take_of_length_le (Nat.le_trans (Nat.le_of_eq length) short)
    have nonempty : (padded width n).isEmpty = false := by
      rw [List.isEmpty_eq_false_iff]
      exact padded_ne_nil width n
    rw [text, takeFraction?]
    simp [digits, counted, nonempty, length, value]

/-- The first form is refused: a blank may be missing in front of the hour, but a letter may not
stand there. -/
theorem readForm?_fullText_of_blanks (moment : DateTime) :
    readForm? {} moment.fullText (dateForm ++ .blanks :: timeForm) = none := by
  rw [fullText, List.append_assoc, readForm?_date]
  rfl

theorem readForm?_fullText (moment : DateTime) :
    readForm? {} moment.fullText (dateForm ++ .mark 'T' :: timeForm ++ [.fraction]) =
      some moment.fields.shown := by
  have fraction (taken : Fields) : takeItem? taken (fractionText moment.fields.shown.nanosecond)
      .fraction = some ({ taken with nanosecond := moment.fields.shown.nanosecond }, []) := by
    rw [takeItem?, takeFraction?_fractionText (Fields.shown_bounds moment.isTime).2.2.2]
    rfl
  rw [fullText, List.append_assoc, List.append_assoc, readForm?_date, List.cons_append,
    List.cons_append, readForm?_cons (takeItem?_mark ..), readForm?_time,
    readForm?_cons (fraction _)]
  rfl

theorem trim_fullText (moment : DateTime) : trim moment.fullText = moment.fullText := by
  have first := dateText_append moment.fields.shown
    ('T' :: timeText moment.fields.shown ++ fractionText moment.fields.shown.nanosecond)
  rw [← List.append_assoc] at first
  rcases fractionText_eq (Fields.shown_bounds moment.isTime).2.2.2 with
    ⟨-, text⟩ | ⟨width, n, -, -, -, -, text⟩
  · apply trim_of_ends first
    rw [text, List.append_nil, timeText_eq, ← List.cons_append, ← List.append_assoc]
  · apply trim_of_ends first
    rw [text, List.append_cons]

theorem ofText?_fullText (moment : DateTime) : ofText? moment.fullText = some moment.settled := by
  have refused : ofForm? moment.fullText (dateForm ++ .blanks :: timeForm) = none := by
    rw [ofForm?, readForm?_fullText_of_blanks, Option.bind_none]
  have fits : ofForm? moment.fullText (dateForm ++ .mark 'T' :: timeForm ++ [.fraction]) =
      some moment.settled := ofForm?_eq (readForm?_fullText moment) rfl
  rw [ofText?, trim_fullText, forms, List.findSome?_cons, refused, List.findSome?_cons, fits]

end DateTime

end BoundSql
