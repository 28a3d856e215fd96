import Forge.Proofs.Number.Nearest
import Forge.Proofs.Time.Calendar
import Forge.Time.Stamp
import Mathlib.Data.List.TakeWhile

/-!
# The second of a time stamp

`Stamp.isoText?` goes through a double of seconds and rounds its fraction to microseconds, and so
the second it shows might be the next one. It never is: as long as a second is in the years 1 to
9999, a double of seconds is wrong by less than a millisecond, and the carry and the borrow of
`Stamp.splitSeconds?` find the second that the milliseconds lie in (`Stamp.secondOf?_eq`). Farther
away nothing of the kind holds, but there the answer stays out of the calendar too
(`Stamp.secondOf?_far`). The text is read back by `Stamp.seconds?`, which knows only the calendar.
-/

namespace Forge

/-- The date is one of the calendar from the year 1 on, and the time one of a day. -/
def Moment.isReal (m : Moment) : Bool :=
  m.date.isReal && decide (m.hour < 24) && decide (m.minute < 60) && decide (m.second < 60)

theorem Moment.isReal_iff (m : Moment) : m.isReal = true ↔ 1 ≤ m.date.year ∧ m.Valid := by
  simp only [isReal, Bool.and_eq_true, decide_eq_true_eq, Date.isReal_iff]
  exact ⟨fun ⟨⟨⟨⟨y, d⟩, h⟩, i⟩, s⟩ => ⟨y, d, h, i, s⟩, fun ⟨y, d, h, i, s⟩ => ⟨⟨⟨⟨y, d⟩, h⟩, i⟩, s⟩⟩

namespace Stamp

/-! ## Reading a text -/

/-- The number that decimal digits stand for. -/
def number? (cs : List Char) : Option Nat :=
  if cs.all Char.isDigit && !cs.isEmpty then some (Nat.ofDigitChars 10 cs 0) else none

/-- Reads a calendar time: a year without leading zeros, then everything else in two digits. Only
real times are read. -/
def read? (text : String) : Option Moment :=
  let year := text.toList.takeWhile (· != '-')
  match text.toList.dropWhile (· != '-') with
  | ['-', m, m', '-', d, d', 'T', h, h', ':', i, i', ':', s, s', 'Z'] => do
    let date : Date := ⟨← number? year, ← number? [m, m'], ← number? [d, d']⟩
    let moment : Moment := ⟨date, ← number? [h, h'], ← number? [i, i'], ← number? [s, s']⟩
    if year.head? != some '0' && moment.isReal then some moment else none
  | _ => none

/-- The second that a text stands for. -/
def seconds? (text : String) : Option Int :=
  (read? text).map Moment.toSeconds

theorem number?_twoDigits {n : Nat} (h : n < 100) : number? (twoDigits n) = some n := by
  revert n
  decide

theorem number?_toDigits (n : Nat) : number? (Nat.toDigits 10 n) = some n := by
  have digits : (Nat.toDigits 10 n).all Char.isDigit = true :=
    List.all_eq_true.2 fun c mem => Nat.isDigit_of_mem_toDigits (by decide) (by decide) mem
  have some : (Nat.toDigits 10 n).isEmpty = false := List.isEmpty_eq_false_iff.2 Nat.toDigits_ne_nil
  rw [number?, digits, some]
  exact congrArg Option.some Nat.ofDigitChars_ten_toDigits

theorem head?_toDigits {n : Nat} (pos : 0 < n) : (Nat.toDigits 10 n).head? ≠ some '0' := by
  have digit : ∀ n < 10, 0 < n → n.digitChar ≠ '0' := by decide
  induction n using Nat.strongRecOn with
  | ind n ih =>
    rcases Nat.lt_or_ge n 10 with small | large
    · rw [Nat.toDigits_of_lt_base small]
      exact fun h => digit n small pos (Option.some.inj h)
    · rw [Nat.toDigits_of_base_le (by decide) large,
        List.head?_append_of_ne_nil _ Nat.toDigits_ne_nil]
      exact ih _ (Nat.div_lt_self pos (by decide)) (Nat.div_pos large (by decide))

theorem cut_year {year : List Char} (plain : '-' ∉ year) (rest : List Char) :
    (year ++ '-' :: rest).takeWhile (· != '-') = year ∧
      (year ++ '-' :: rest).dropWhile (· != '-') = '-' :: rest := by
  have before : ∀ c ∈ year, (c != '-') = true :=
    fun c mem => bne_iff_ne.2 (ne_of_mem_of_not_mem mem plain)
  rw [List.takeWhile_append_of_pos before, List.dropWhile_append_of_pos before]
  simp

/-- The numbers of a real moment, but for its year, have two digits. -/
theorem twoDigits_of_real {m : Moment} (valid : m.Valid) :
    m.date.month < 100 ∧ m.date.day < 100 ∧ m.hour < 100 ∧ m.minute < 100 ∧ m.second < 100 := by
  have days : Date.daysIn m.date.year m.date.month ≤ 31 := by
    unfold Date.daysIn
    split_ifs <;> decide
  have := valid.date.day_le
  have := valid.date.month_le
  have := valid.hour_lt
  have := valid.minute_lt
  have := valid.second_lt
  omega

/-- The text of a real moment is read as the moment. -/
theorem read?_layOut {m : Moment} (real : m.isReal = true) :
    read? (String.ofList (layOut 'T' m ++ ['Z'])) = some m := by
  obtain ⟨hyear, valid⟩ := m.isReal_iff.1 real
  obtain ⟨year, hy⟩ := Int.eq_ofNat_of_zero_le (by omega : 0 ≤ m.date.year)
  have text : (toString m.date.year).toList = Nat.toDigits 10 year := by
    rw [hy]
    exact Nat.toList_repr
  have plain : '-' ∉ Nat.toDigits 10 year := fun mem =>
    absurd (Nat.isDigit_of_mem_toDigits (by decide) (by decide) mem) (by decide)
  have pair {n : Nat} (h : n < 100) : ∃ a b, twoDigits n = [a, b] ∧ number? [a, b] = some n :=
    ⟨_, _, rfl, number?_twoDigits h⟩
  obtain ⟨months, days, hours, minutes, seconds⟩ := twoDigits_of_real valid
  obtain ⟨a, a', month, hmonth⟩ := pair months
  obtain ⟨b, b', day, hday⟩ := pair days
  obtain ⟨c, c', hour, hhour⟩ := pair hours
  obtain ⟨d, d', minute, hminute⟩ := pair minutes
  obtain ⟨e, e', second, hsecond⟩ := pair seconds
  have spelled : (String.ofList (layOut 'T' m ++ ['Z'])).toList = Nat.toDigits 10 year ++
      '-' :: [a, a', '-', b, b', 'T', c, c', ':', d, d', ':', e, e', 'Z'] := by
    rw [String.toList_ofList, layOut, text, month, day, hour, minute, second]
    simp only [List.append_assoc, List.cons_append, List.nil_append]
  obtain ⟨yearPart, rest⟩ :=
    cut_year plain [a, a', '-', b, b', 'T', c, c', ':', d, d', ':', e, e', 'Z']
  have unpadded : ((Nat.toDigits 10 year).head? != some '0') = true :=
    bne_iff_ne.2 (head?_toDigits (by omega))
  have whole : (⟨⟨year, m.date.month, m.date.day⟩, m.hour, m.minute, m.second⟩ : Moment) = m := by
    rw [← show m.date.year = year from hy]
  unfold read?
  rw [spelled, yearPart, rest]
  simp only [number?_toDigits, hmonth, hday, hhour, hminute, hsecond, unpadded]
  simp [whole, real]

/-! ## From milliseconds to seconds -/

open Binary64

/-- The rounded microseconds of a time past a whole second are at most three quarters of one off. -/
theorem micros_near {x : Binary64} (hx : x.Finite) {whole : Int} (small : whole.natAbs < 2 ^ 53)
    (close : |x.value - whole| ≤ 1) :
    ∃ micros : Int, ((x.sub (ofInt whole)).mulNat 1000000).round? = some micros ∧
      |(micros : ℚ) - (x.value - whole) * 1000000| ≤ 3 / 4 := by
  obtain ⟨finite, exactly⟩ := value_ofInt small
  obtain ⟨zeroSign, difference⟩ := hx.sub_eq finite
  rw [difference, exactly]
  have near := near_of_le (close.trans (by norm_num)) zeroSign
  obtain ⟨zeroSign', product⟩ := near.1.mulNat_eq 1000000
  have error := near.close
  rw [product]
  generalize (ofRat (x.value - whole) zeroSign).value = y at error
  have error' : |y - (x.value - whole)| ≤ 1 / 10 ^ 12 := error.trans (by
    rw [div_le_iff₀ (by positivity)]
    norm_num
    linarith)
  have bounded : |y * (1000000 : Nat)| ≤ 2000000 := by
    rw [abs_le] at close error' ⊢
    push_cast
    constructor <;> linarith
  have near' := near_of_le (bounded.trans (by norm_num)) zeroSign'
  have error'' : |(ofRat (y * (1000000 : Nat)) zeroSign').value - y * (1000000 : Nat)| ≤ 1 / 100 :=
    near'.close.trans (by
      rw [div_le_iff₀ (by positivity)]
      norm_num at bounded ⊢
      linarith)
  obtain ⟨micros, rounded, half⟩ := near'.1.round_near
  refine ⟨micros, rounded, ?_⟩
  rw [abs_le] at error' error'' half ⊢
  push_cast at error''
  constructor <;> linarith

section Split

variable {x : Binary64} {second : Int}

/-- Nothing is carried and nothing borrowed if the integer part is the second. -/
theorem splitSeconds?_of_floor (hx : x.Finite) (small : second.natAbs ≤ 2 ^ 52)
    (whole : x.truncate? = some second) (low : (second : ℚ) ≤ x.value)
    (high : x.value ≤ second + 1 - 1 / 4000) : (splitSeconds? x).map (·.1) = some second := by
  obtain ⟨micros, rounded, near⟩ := micros_near hx (show second.natAbs < 2 ^ 53 by omega)
    (abs_le.2 ⟨by linarith, by linarith⟩)
  rw [abs_le] at near
  have nonneg : 0 ≤ micros := by
    have : (-1 : ℚ) < micros := by linarith
    exact Int.lt_iff_add_one_le.1 (by exact_mod_cast this : -1 < micros)
  have short : micros < 1000000 := by
    have : (micros : ℚ) < 1000000 := by linarith
    exact_mod_cast this
  simp only [splitSeconds?, whole, rounded, bind, Option.bind, if_neg (not_le.2 short),
    if_neg (not_lt.2 nonneg), Option.map_some]

/-- The second before the integer part is borrowed from if the fraction is negative. -/
theorem splitSeconds?_of_ceil (hx : x.Finite) (small : second.natAbs ≤ 2 ^ 52)
    (whole : x.truncate? = some (second + 1)) (low : second + 1 / 4000 ≤ x.value)
    (high : x.value ≤ second + 1 - 1 / 4000) : (splitSeconds? x).map (·.1) = some second := by
  obtain ⟨micros, rounded, near⟩ := micros_near hx
    (show (second + 1).natAbs < 2 ^ 53 by omega)
    (by push_cast; exact abs_le.2 ⟨by linarith, by linarith⟩)
  rw [abs_le] at near
  push_cast at near
  have negative : micros < 0 := by
    have : (micros : ℚ) < 0 := by linarith
    exact_mod_cast this
  simp only [splitSeconds?, whole, rounded, bind, Option.bind,
    if_neg (show ¬1000000 ≤ micros by omega), if_pos negative, Option.map_some,
    Int.add_sub_cancel]

/-- A double that lies in a second, at its start or well inside of it, is split at the second. -/
theorem splitSeconds?_of_inside (hx : x.Finite) (small : second.natAbs ≤ 2 ^ 52)
    (inside : x.value = second ∨
      (second + 1 / 4000 ≤ x.value ∧ x.value ≤ second + 1 - 1 / 4000)) :
    (splitSeconds? x).map (·.1) = some second := by
  have low : (second : ℚ) ≤ x.value := by rcases inside with h | h <;> linarith
  have high : x.value ≤ second + 1 - 1 / 4000 := by rcases inside with h | h <;> linarith
  rcases le_or_gt 0 x.value with nonneg | negative
  · have floor : ⌊x.value⌋ = second := Int.floor_eq_iff.2 ⟨low, by linarith⟩
    exact splitSeconds?_of_floor hx small (floor ▸ hx.truncate_of_nonneg nonneg) low high
  · have whole := hx.truncate_of_nonpos negative.le
    rcases inside with start | ⟨above, -⟩
    · rw [start, Int.ceil_intCast] at whole
      exact splitSeconds?_of_floor hx small whole low high
    · have ceil : ⌈x.value⌉ = second + 1 :=
        Int.ceil_eq_iff.2 ⟨by push_cast; linarith, by push_cast; linarith⟩
      exact splitSeconds?_of_ceil hx small (ceil ▸ whole) above high

end Split

/-- The second of a time of moderate size is the one it lies in. -/
theorem secondOf?_eq {ms : Int} (moderate : ms.natAbs ≤ 2 ^ 52) :
    secondOf? ms = some (ms / 1000) := by
  obtain ⟨finite, exactly⟩ := value_ofInt (i := ms) (by omega)
  obtain ⟨zeroSign, quotient⟩ := finite.divNat_eq 1000
  have split : (ms : ℚ) = 1000 * (ms / 1000 : Int) + (ms % 1000 : Int) := by
    exact_mod_cast (Int.mul_ediv_add_emod ms 1000).symm
  have small : (ms / 1000).natAbs ≤ 2 ^ 52 := by omega
  rw [exactly] at quotient
  rw [secondOf?, quotient]
  rcases (Int.emod_nonneg ms (by decide : (1000 : Int) ≠ 0)).eq_or_lt with whole | part
  · have exact : (ms : ℚ) / (1000 : Nat) = (ms / 1000 : Int) := by
      rw [split, ← whole]
      push_cast
      ring
    rw [exact]
    obtain ⟨finite', value⟩ := value_ofRat_intCast (i := ms / 1000) (by omega) zeroSign
    exact splitSeconds?_of_inside finite' small (.inl value)
  · have size : |(ms : ℚ)| ≤ 2 ^ 52 := by
      rw [← Int.cast_abs, ← Nat.cast_natAbs]
      exact_mod_cast moderate
    have size' : |(ms : ℚ) / (1000 : Nat)| ≤ 2 ^ 52 / 1000 := by
      rw [abs_div]
      norm_num at size ⊢
      linarith
    have near := near_of_le (size'.trans (by norm_num)) zeroSign
    have error : |(ofRat ((ms : ℚ) / (1000 : Nat)) zeroSign).value - ms / (1000 : Nat)| ≤
        3 / 4000 := near.close.trans (by
      rw [div_le_iff₀ (by positivity)]
      norm_num at size' ⊢
      linarith)
    have least : (1 : ℚ) ≤ (ms % 1000 : Int) := by exact_mod_cast part
    have most : ((ms % 1000 : Int) : ℚ) ≤ 999 := by
      exact_mod_cast (by omega : ms % 1000 ≤ 999)
    refine splitSeconds?_of_inside near.1 small (.inr ?_)
    rw [abs_le, split] at error
    push_cast at error
    rw [split]
    constructor <;> linarith

/-- The second that a double is split at is never far from it. -/
theorem splitSeconds?_near {x : Binary64} (hx : x.Finite) {second : Int}
    (h : (splitSeconds? x).map (·.1) = some second) : |(second : ℚ) - x.value| ≤ 2 := by
  obtain ⟨whole, integerPart, near⟩ := hx.truncate_near
  have close : whole - 1 ≤ second ∧ second ≤ whole + 1 := by
    simp only [splitSeconds?, integerPart, bind, Option.bind] at h
    split at h
    · contradiction
    · dsimp only at h
      split_ifs at h <;> · rw [Option.map_some, Option.some.injEq] at h; omega
  have low : (whole : ℚ) - 1 ≤ second := by exact_mod_cast close.1
  have high : (second : ℚ) ≤ whole + 1 := by exact_mod_cast close.2
  rw [abs_le] at near ⊢
  constructor <;> linarith

/-- A time out of range is not taken for one that is in range. -/
theorem secondOf?_far {ms second : Int} (far : 2 ^ 52 < ms.natAbs)
    (h : secondOf? ms = some second) : 10 ^ 12 ≤ second.natAbs := by
  have size : (2 : ℚ) ^ 52 ≤ |(ms : ℚ)| := by
    rw [← Int.cast_abs, ← Nat.cast_natAbs]
    exact_mod_cast far.le
  unfold secondOf? at h
  rw [ofInt_eq_ofRat] at h
  rcases ofRat_near ms false with ⟨⟨negative, infinite⟩, -⟩ | near
  · rw [infinite] at h
    contradiction
  obtain ⟨zeroSign, quotient⟩ := near.1.divNat_eq 1000
  have half := near.half_le (le_trans (by norm_num) size)
  rw [quotient] at h
  generalize (ofRat ms false).value = v at half h
  have size' : (2 : ℚ) ^ 41 ≤ |v / (1000 : Nat)| := by
    rw [abs_div]
    norm_num at size ⊢
    linarith
  rcases ofRat_near (v / (1000 : Nat)) zeroSign with ⟨⟨negative, infinite⟩, -⟩ | near'
  · rw [infinite] at h
    contradiction
  have half' := near'.half_le (le_trans (by norm_num) size')
  have apart := abs_sub_abs_le_abs_sub (ofRat (v / (1000 : Nat)) zeroSign).value (second : ℚ)
  rw [abs_sub_comm] at apart
  have large : (10 : ℚ) ^ 12 ≤ |(second : ℚ)| := by
    linarith [splitSeconds?_near near'.1 h]
  rw [← Int.cast_abs, ← Nat.cast_natAbs] at large
  exact_mod_cast large

/-! ## The law -/

/-- The second lies in one of the years 1 to 9999 of the calendar. -/
def InCalendar (second : Int) : Prop :=
  ∃ m : Moment, m.isReal = true ∧ m.date.year ≤ 9999 ∧ m.toSeconds = second

theorem inCalendar_iff (second : Int) : InCalendar second ↔
    1 ≤ (Moment.ofSeconds second).date.year ∧ (Moment.ofSeconds second).date.year ≤ 9999 := by
  have valid := Moment.valid_ofSeconds second
  have back := Moment.toSeconds_ofSeconds second
  constructor
  · rintro ⟨m, real, upTo, seconds⟩
    obtain ⟨fromOne, valid'⟩ := m.isReal_iff.1 real
    rw [valid.toSeconds_inj valid' (back.trans seconds.symm)]
    exact ⟨fromOne, upTo⟩
  · rintro ⟨fromOne, upTo⟩
    exact ⟨_, (Moment.isReal_iff _).2 ⟨fromOne, valid⟩, upTo, back⟩

/-- These years span less than a million million seconds to either side. -/
theorem InCalendar.natAbs_lt {second : Int} (h : InCalendar second) :
    second.natAbs < 10 ^ 12 := by
  obtain ⟨m, real, upTo, rfl⟩ := h
  obtain ⟨fromOne, valid⟩ := m.isReal_iff.1 real
  obtain ⟨first, last⟩ := valid.date.toDay_bounds
  have start := Date.daysBeforeYear_mono fromOne
  have stop := Date.daysBeforeYear_mono (Int.add_le_add_right upTo 1)
  have days : Date.daysBeforeYear 1 = 0 ∧ Date.daysBeforeYear 1970 = 719162 ∧
      Date.daysBeforeYear (9999 + 1) = 3652059 := by decide
  have := valid.hour_lt
  have := valid.minute_lt
  have := valid.second_lt
  unfold Moment.toSeconds
  omega

theorem isoText?_of_inCalendar {ms : Int} (h : InCalendar (ms / 1000)) :
    isoText? ms = some (String.ofList (layOut 'T' (Moment.ofSeconds (ms / 1000)) ++ ['Z'])) := by
  have near := h.natAbs_lt
  rw [isoText?, secondOf?_eq (by omega)]
  exact if_pos ((inCalendar_iff _).1 h)

theorem isoText?_of_not_inCalendar {ms : Int} (h : ¬InCalendar (ms / 1000)) :
    isoText? ms = none := by
  cases found : secondOf? ms with
  | none => simp [isoText?, found]
  | some second =>
    have outside : ¬InCalendar second := by
      rcases Nat.lt_or_ge (2 ^ 52) ms.natAbs with far | moderate
      · exact fun inside => absurd (secondOf?_far far found) (not_le.2 inside.natAbs_lt)
      · rw [secondOf?_eq moderate, Option.some.injEq] at found
        exact found ▸ h
    rw [isoText?, found]
    exact if_neg (mt (inCalendar_iff second).2 outside)

/-- A time is shown by the second it lies in: it has a text just when that second is in the
calendar, the text reads back as the second and not a later one, and a later time is not shown by
an earlier second. -/
theorem isoText_shows_second (ms : Int) :
    (isoText? ms = none ↔ ¬InCalendar (ms / 1000)) ∧
      (∀ text ∈ isoText? ms, seconds? text = some (ms / 1000)) ∧
      ∀ later, ms ≤ later → ∀ text ∈ isoText? ms, ∀ text' ∈ isoText? later,
        ∃ second second', seconds? text = some second ∧ seconds? text' = some second' ∧
          second ≤ second' := by
  have reads (ms : Int) : ∀ text ∈ isoText? ms, seconds? text = some (ms / 1000) := by
    intro text shown
    by_cases inside : InCalendar (ms / 1000)
    · rw [isoText?_of_inCalendar inside, Option.mem_some_iff] at shown
      have real : (Moment.ofSeconds (ms / 1000)).isReal = true :=
        (Moment.isReal_iff _).2 ⟨((inCalendar_iff _).1 inside).1, Moment.valid_ofSeconds _⟩
      rw [← shown, seconds?, read?_layOut real, Option.map_some, Moment.toSeconds_ofSeconds]
    · rw [isoText?_of_not_inCalendar inside] at shown
      contradiction
  refine ⟨⟨fun hidden inside => ?_, isoText?_of_not_inCalendar⟩, reads ms, ?_⟩
  · rw [isoText?_of_inCalendar inside] at hidden
    contradiction
  · intro later order text shown text' shown'
    exact ⟨_, _, reads ms text shown, reads later text' shown',
      Int.ediv_le_ediv (by decide) order⟩

/-- The last millisecond of a second before 1970 is shown by that second. -/
example : isoText? (-1) = some "1969-12-31T23:59:59Z" := by decide +kernel

/-- The calendar begins with a year of one digit. -/
example : isoText? (-62135596800000) = some "1-01-01T00:00:00Z" := by decide +kernel

end Stamp

end Forge
