import Patchwork.Proofs.Yaml.Form

/-!
# The form of a timestamp

* `Form.timestamp` — the form as a regular expression: a day, or a day and a time with any fraction
  and zone.
* `reads_date`, `reads_separator`, `reads_time`, `reads_fraction`, `isZone_iff` — each part of the
  form has its reader.
* `isTimestamp_iff` — a text is recognised as a timestamp exactly if it has the form.
* `isInteger_of_timestamp`, `isFloat_of_timestamp` — no number has it.
-/

set_option autoImplicit false

namespace Patchwork
namespace Yaml

/-! ## The form -/

namespace Form

/-- One digit or two. -/
def number : RegularExpression Char := digit * optional digit

def gap : RegularExpression Char := oneOf [' ', '\t']

def date (part : RegularExpression Char) : RegularExpression Char :=
  digit ^ 4 * (.char '-' * (part * (.char '-' * part)))

/-- What stands between a day and a time. -/
def separator : RegularExpression Char := oneOf ['T', 't'] + gap * gap.star

/-- An hour, a minute and a second. -/
def time : RegularExpression Char :=
  number * (.char ':' * (digit ^ 2 * (.char ':' * digit ^ 2)))

def fraction : RegularExpression Char := .char '.' * digit.star

def offset : RegularExpression Char := number * optional (.char ':' * digit ^ 2)

/-- The sign of universal time, or a signed offset from it. -/
def zone : RegularExpression Char := .char 'Z' + oneOf ['+', '-'] * offset

/-- A day and a time with any fraction and zone. -/
def moment : RegularExpression Char :=
  date number * (separator * (time * (optional fraction * optional (gap.star * zone))))

/-- A day, or a day and a time. -/
def timestamp : RegularExpression Char := date (digit ^ 2) + moment

variable {text : List Char}

theorem isClass_gap : IsClass gap (isGap · = true) := by
  intro text
  rw [gap, mem_oneOf]
  simp [isGap]

theorem mem_star_gap : text ∈ gap.star.matches' ↔ ∀ c ∈ text, isGap c = true :=
  mem_star_of_isClass isClass_gap

theorem mem_number : text ∈ number.matches' ↔
    (1 ≤ text.length ∧ text.length ≤ 2) ∧ ∀ c ∈ text, c.isDigit := by
  rw [number, RegularExpression.matches'_mul, Language.mem_mul]
  constructor
  · rintro ⟨first, hfirst, second, hsecond, rfl⟩
    obtain ⟨c, hc, rfl⟩ := (isClass_digit _).1 hfirst
    obtain rfl | hsecond := mem_optional.1 hsecond
    · simpa using hc
    · obtain ⟨d, hd, rfl⟩ := (isClass_digit _).1 hsecond
      simpa using ⟨hc, hd⟩
  · rintro ⟨hlength, hall⟩
    match text, hlength, hall with
    | [c], _, hall =>
      exact ⟨[c], (isClass_digit _).2 ⟨c, hall c (by simp), rfl⟩, [], mem_optional.2 (.inl rfl),
        rfl⟩
    | [c, d], _, hall =>
      exact ⟨[c], (isClass_digit _).2 ⟨c, hall c (by simp), rfl⟩, [d],
        mem_optional.2 (.inr ((isClass_digit _).2 ⟨d, hall d (by simp), rfl⟩)), rfl⟩

end Form

/-! ## The readers of a timestamp -/

theorem reads_digits (n : Nat) :
    Reads (afterDigits? n n) (Form.digit ^ n).matches' fun _ => True where
  sound := by
    intro text rest h
    obtain ⟨digits, happend, ⟨hleast, hmost⟩, hall⟩ := afterDigits?_sound h
    exact ⟨digits, Form.mem_pow_digit.2 ⟨Nat.le_antisymm hmost hleast, hall⟩, happend⟩
  complete := by
    intro word rest hword _
    obtain ⟨hlength, hall⟩ := Form.mem_pow_digit.1 hword
    exact afterDigits?_append ⟨hlength.ge, hlength.le⟩ hall (.inl hlength)

theorem reads_number :
    Reads (afterDigits? 1 2) Form.number.matches' (EndsBefore Char.isDigit) where
  sound := by
    intro text rest h
    obtain ⟨digits, happend, hlength, hall⟩ := afterDigits?_sound h
    exact ⟨digits, Form.mem_number.2 ⟨hlength, hall⟩, happend⟩
  complete := by
    intro word rest hword hafter
    obtain ⟨hlength, hall⟩ := Form.mem_number.1 hword
    exact afterDigits?_append hlength hall (.inr hafter)

theorem reads_char (c : Char) :
    Reads (after? c) (RegularExpression.char c).matches' fun _ => True where
  sound := by
    intro text rest h
    cases text with
    | nil => cases h
    | cons d text =>
      obtain ⟨rfl, rfl⟩ : d = c ∧ text = rest := by simpa [after?] using h
      exact ⟨[d], Form.mem_char.2 rfl, rfl⟩
  complete := by
    rintro word rest hword _
    cases Form.mem_char.1 hword
    simp [after?]

theorem reads_colon :
    Reads (fun text => (after? ':' text).bind (afterDigits? 2 2))
      (.char ':' * Form.digit ^ 2 : RegularExpression Char).matches' fun _ => True :=
  (reads_char ':').bind (reads_digits 2) fun _ _ _ _ => trivial

/-- A year, and a month and a day read alike. -/
theorem reads_date {part : RegularExpression Char} {least : Nat} {after : List Char → Prop}
    (h : Reads (afterDigits? least 2) part.matches' after)
    (hmiddle : ∀ rest, after ('-' :: rest)) :
    Reads (afterDate? least) (Form.date part).matches' after := by
  have hday := (reads_char '-').bind h fun _ _ _ _ => trivial
  have hparts := h.bind hday <| by
    intro word hword rest _
    obtain ⟨day, -, rfl⟩ := Form.mem_char_mul.1 hword
    exact hmiddle _
  exact (reads_digits 4).bind ((reads_char '-').bind hparts fun _ _ _ _ => trivial)
    fun _ _ _ _ => trivial

/-- The hour, minute and second. -/
theorem reads_time : Reads afterTime? Form.time.matches' fun _ => True := by
  have hrest := (reads_char ':').bind ((reads_digits 2).bind reads_colon fun _ _ _ _ => trivial)
    fun _ _ _ _ => trivial
  refine reads_number.bind hrest fun word hword _ _ => ?_
  obtain ⟨minute, -, rfl⟩ := Form.mem_char_mul.1 hword
  simp [EndsBefore]

theorem mem_separator {text : List Char} :
    text ∈ Form.separator.matches' ↔
      text = ['T'] ∨ text = ['t'] ∨ text ≠ [] ∧ ∀ c ∈ text, isGap c = true := by
  rw [Form.separator, RegularExpression.matches'_add, Language.mem_add, Form.mem_oneOf,
    RegularExpression.matches'_mul, Language.mem_mul]
  have hgaps : (∃ a ∈ Form.gap.matches', ∃ b ∈ Form.gap.star.matches', a ++ b = text) ↔
      text ≠ [] ∧ ∀ c ∈ text, isGap c = true := by
    constructor
    · rintro ⟨first, hfirst, rest, hrest, rfl⟩
      obtain ⟨c, hc, rfl⟩ := (Form.isClass_gap _).1 hfirst
      simpa using ⟨hc, Form.mem_star_gap.1 hrest⟩
    · rintro ⟨hne, hall⟩
      obtain ⟨c, rest, rfl⟩ := List.exists_cons_of_ne_nil hne
      obtain ⟨hc, hrest⟩ := List.forall_mem_cons.1 hall
      exact ⟨[c], (Form.isClass_gap _).2 ⟨c, hc, rfl⟩, rest, Form.mem_star_gap.2 hrest, rfl⟩
  rw [hgaps]
  simp [or_assoc]

/-- The letter or the blanks between a day and a time. -/
theorem reads_separator : Reads afterDay? Form.separator.matches' (EndsBefore isGap) where
  sound := by
    intro text rest h
    unfold afterDay? at h
    split at h
    · cases h
      exact ⟨['T'], mem_separator.2 (.inl rfl), rfl⟩
    · cases h
      exact ⟨['t'], mem_separator.2 (.inr (.inl rfl)), rfl⟩
    · split at h
      · rename_i hgap
        cases h
        refine ⟨text.takeWhile isGap, mem_separator.2 (.inr (.inr ⟨?_, ?_⟩)),
          List.takeWhile_append_dropWhile⟩
        · cases text with
          | nil => simp at hgap
          | cons c text => simp_all
        · exact List.all_eq_true.1 List.all_takeWhile
      · cases h
  complete := by
    intro word rest hword hafter
    obtain rfl | rfl | ⟨hne, hall⟩ := mem_separator.1 hword
    · rfl
    · rfl
    · obtain ⟨c, word, rfl⟩ := List.exists_cons_of_ne_nil hne
      have hc : isGap c = true := hall c (by simp)
      have hT : c ≠ 'T' := by rintro rfl; simp [isGap] at hc
      have ht : c ≠ 't' := by rintro rfl; simp [isGap] at hc
      rw [afterDay?]
      · rw [if_pos (by simp [hc]), dropWhile_append hall hafter]
      · rintro _ h
        exact hT (List.cons.inj h).1
      · rintro _ h
        exact ht (List.cons.inj h).1

theorem mem_fraction {text : List Char} :
    text ∈ (Form.optional Form.fraction).matches' ↔
      text = [] ∨ ∃ digits, text = '.' :: digits ∧ ∀ c ∈ digits, c.isDigit := by
  rw [Form.mem_optional, Form.fraction, Form.mem_char_mul]
  simp only [Form.mem_star_digit, and_comm]

/-- The fraction of a second, if there is one. -/
theorem reads_fraction :
    Reads (some ∘ afterFraction) (Form.optional Form.fraction).matches'
      (EndsBefore fun c => c.isDigit || c = '.') where
  sound := by
    intro text rest h
    cases h
    unfold afterFraction
    split
    · rename_i text
      exact ⟨'.' :: text.takeWhile Char.isDigit,
        mem_fraction.2 (.inr ⟨_, rfl, List.all_eq_true.1 List.all_takeWhile⟩),
        congrArg ('.' :: ·) List.takeWhile_append_dropWhile⟩
    · exact ⟨[], mem_fraction.2 (.inl rfl), rfl⟩
  complete := by
    intro word rest hword hafter
    obtain rfl | ⟨digits, rfl, hall⟩ := mem_fraction.1 hword
    · refine congrArg some ?_
      rw [List.nil_append, afterFraction]
      rintro rest rfl
      simpa using hafter '.' rfl
    · refine congrArg some (dropWhile_append hall fun c hc => ?_)
      simpa using (Bool.or_eq_false_iff.1 (hafter c hc)).1

theorem mem_offset {text : List Char} :
    (match afterDigits? 1 2 text with
      | some [] => true
      | some tail => decide (((after? ':' tail).bind (afterDigits? 2 2)) = some [])
      | none => false) = true ↔ text ∈ Form.offset.matches' := by
  rw [Form.offset, RegularExpression.matches'_mul, Language.mem_mul]
  constructor
  · intro h
    split at h
    · rename_i hread
      exact ⟨text, (reads_number.eq_some_nil (by simp [EndsBefore])).1 hread, [],
        Form.mem_optional.2 (.inl rfl), List.append_nil _⟩
    · rename_i tail _ hread
      obtain ⟨hours, hhours, happend⟩ := reads_number.sound hread
      exact ⟨hours, hhours, tail, Form.mem_optional.2
        (.inr ((reads_colon.eq_some_nil trivial).1 (of_decide_eq_true h))), happend⟩
    · cases h
  · rintro ⟨hours, hhours, minutes, hminutes, rfl⟩
    obtain rfl | hminutes := Form.mem_optional.1 hminutes
    · rw [reads_number.complete hhours (by simp [EndsBefore])]
    · obtain ⟨tail, -, rfl⟩ := Form.mem_char_mul.1 hminutes
      rw [reads_number.complete hhours (by simp [EndsBefore])]
      exact decide_eq_true ((reads_colon.eq_some_nil trivial).2 hminutes)

theorem mem_zone {text : List Char} :
    text ∈ Form.zone.matches' ↔ text = ['Z'] ∨
      ∃ sign rest, (sign = '+' ∨ sign = '-') ∧ text = sign :: rest ∧
        rest ∈ Form.offset.matches' := by
  rw [Form.zone, RegularExpression.matches'_add, Language.mem_add, Form.mem_char,
    RegularExpression.matches'_mul, Language.mem_mul]
  refine or_congr Iff.rfl ⟨?_, ?_⟩
  · rintro ⟨_, hone, rest, hrest, rfl⟩
    obtain ⟨sign, hsign, rfl⟩ := Form.mem_oneOf.1 hone
    exact ⟨sign, rest, by simpa using hsign, rfl, hrest⟩
  · rintro ⟨sign, rest, hsign, rfl, hrest⟩
    exact ⟨[sign], Form.mem_oneOf.2 ⟨sign, by simpa using hsign, rfl⟩, rest, hrest, rfl⟩

theorem isZone_iff {text : List Char} :
    isZone text = true ↔ text = [] ∨ text ∈ Form.zone.matches' := by
  rw [mem_zone]
  unfold isZone
  split
  · simp
  · simp
  · rename_i sign rest hZ
    rw [Bool.and_eq_true]
    refine (and_congr_right fun _ => mem_offset).trans ?_
    constructor
    · rintro ⟨hsign, hrest⟩
      exact .inr (.inr ⟨sign, rest, by simpa using hsign, rfl, hrest⟩)
    · rintro (h | h | ⟨_, _, hsign, h, hrest⟩)
      · cases h
      · obtain ⟨rfl, rfl⟩ := List.cons.inj h
        exact absurd rfl (hZ rfl)
      · obtain ⟨rfl, rfl⟩ := List.cons.inj h
        exact ⟨by simpa using hsign, hrest⟩

/-! ## The whole form -/

theorem zone_front {text : List Char} (h : text ∈ Form.zone.matches') :
    ∃ sign rest, (sign = 'Z' ∨ sign = '+' ∨ sign = '-') ∧ text = sign :: rest := by
  obtain rfl | ⟨sign, rest, hsign, rfl, -⟩ := mem_zone.1 h
  · exact ⟨'Z', [], .inl rfl, rfl⟩
  · exact ⟨sign, rest, .inr hsign, rfl⟩

/-- Gaps and a zone behind them are all or nothing. -/
theorem endsInZone_iff {text : List Char} :
    (isZone (text.dropWhile isGap) && (text.isEmpty || !(text.dropWhile isGap).isEmpty)) = true ↔
      text ∈ (Form.optional (Form.gap.star * Form.zone)).matches' := by
  rw [Form.mem_optional, RegularExpression.matches'_mul, Language.mem_mul, Bool.and_eq_true,
    isZone_iff]
  constructor
  · rintro ⟨hzone, hend⟩
    obtain hnil | hzone := hzone
    · exact .inl (by simpa [hnil] using hend)
    · exact .inr ⟨text.takeWhile isGap, Form.mem_star_gap.2
        (List.all_eq_true.1 List.all_takeWhile), _, hzone, List.takeWhile_append_dropWhile⟩
  · rintro (rfl | ⟨gaps, hgaps, zone, hzone, rfl⟩)
    · simp
    · obtain ⟨sign, rest, hsign, rfl⟩ := zone_front hzone
      have hfront : EndsBefore isGap (sign :: rest) := by
        obtain rfl | rfl | rfl := hsign <;> simp [EndsBefore, isGap]
      rw [dropWhile_append (Form.mem_star_gap.1 hgaps) hfront]
      exact ⟨.inr hzone, by simp⟩

theorem isGap_iff {c : Char} : isGap c = true ↔ c = ' ' ∨ c = '\t' := by
  simp [isGap]

theorem not_isDigit_of_isGap {c : Char} (h : isGap c = true) : c.isDigit = false := by
  obtain rfl | rfl := isGap_iff.1 h <;> rfl

theorem endsBefore_of_zone {text : List Char}
    (h : text ∈ (Form.optional (Form.gap.star * Form.zone)).matches') :
    EndsBefore (fun c => c.isDigit || c = '.') text := by
  rw [Form.mem_optional, RegularExpression.matches'_mul, Language.mem_mul] at h
  obtain rfl | ⟨gaps, hgaps, zone, hzone, rfl⟩ := h
  · simp [EndsBefore]
  · cases gaps with
    | nil =>
      obtain ⟨sign, rest, hsign, rfl⟩ := zone_front hzone
      obtain rfl | rfl | rfl := hsign <;> simp [EndsBefore]
    | cons c gaps =>
      have hc : isGap c = true := Form.mem_star_gap.1 hgaps c (by simp)
      obtain rfl | rfl := isGap_iff.1 hc <;> simp [EndsBefore]

theorem endsBefore_of_separator {word : List Char} (h : word ∈ Form.separator.matches')
    (rest : List Char) : EndsBefore Char.isDigit (word ++ rest) := by
  obtain rfl | rfl | ⟨hne, hall⟩ := mem_separator.1 h
  · simp [EndsBefore]
  · simp [EndsBefore]
  · obtain ⟨c, word, rfl⟩ := List.exists_cons_of_ne_nil hne
    simpa [EndsBefore] using not_isDigit_of_isGap (hall c (by simp))

theorem endsBefore_of_time {word : List Char} (h : word ∈ Form.time.matches')
    (rest : List Char) : EndsBefore isGap (word ++ rest) := by
  obtain ⟨hour, hhour, _, -, rfl⟩ := h
  obtain ⟨hlength, hall⟩ := Form.mem_number.1 hhour
  cases hour with
  | nil => simp at hlength
  | cons c hour =>
    intro d hd
    obtain rfl : c = d := by simpa using hd
    refine Bool.eq_false_iff.2 fun hgap => ?_
    have hdigit : c.isDigit = true := hall c (by simp)
    rw [not_isDigit_of_isGap hgap] at hdigit
    cases hdigit

theorem reads_moment :
    Reads (fun text => (((afterDate? 1 text).bind afterDay?).bind afterTime?).bind
        (some ∘ afterFraction))
      (Form.date Form.number * Form.separator * Form.time *
        Form.optional Form.fraction).matches' (EndsBefore fun c => c.isDigit || c = '.') := by
  have hdate : Reads (afterDate? 1) _ _ := reads_date reads_number (by simp [EndsBefore])
  have hday := hdate.bind reads_separator fun _ hword rest _ => endsBefore_of_separator hword rest
  have htime := hday.bind reads_time fun _ hword rest _ => endsBefore_of_time hword rest
  exact htime.bind reads_fraction fun _ _ _ _ => trivial

theorem isMoment_iff {text : List Char} :
    isMoment text = true ↔ text ∈ Form.moment.matches' := by
  have hform : Form.moment.matches' = (Form.date Form.number * Form.separator * Form.time *
      Form.optional Form.fraction).matches' *
        (Form.optional (Form.gap.star * Form.zone)).matches' := by
    simp only [Form.moment, RegularExpression.matches'_mul, mul_assoc]
  rw [hform, Language.mem_mul, isMoment]
  constructor
  · intro h
    split at h
    · rename_i rest hread
      have hfraction : (((afterDate? 1 text).bind afterDay?).bind afterTime?).bind
          (some ∘ afterFraction) = some (afterFraction rest) := by
        rw [hread]
        rfl
      obtain ⟨word, hword, happend⟩ := reads_moment.sound hfraction
      exact ⟨word, hword, _, endsInZone_iff.1 h, happend⟩
    · cases h
  · rintro ⟨word, hword, zone, hzone, rfl⟩
    have hread := reads_moment.complete hword (endsBefore_of_zone hzone)
    obtain ⟨rest, hrest, hfraction⟩ := Option.bind_eq_some_iff.1 hread
    rw [hrest]
    obtain rfl : afterFraction rest = zone := Option.some.inj hfraction
    exact endsInZone_iff.2 hzone

theorem isDay_iff {text : List Char} :
    isDay text = true ↔ text ∈ (Form.date (Form.digit ^ 2)).matches' := by
  rw [isDay, decide_eq_true_eq]
  exact (reads_date (reads_digits 2) fun _ => trivial).eq_some_nil trivial

/-- A text is recognised as a timestamp exactly if it has the form of one. -/
theorem isTimestamp_iff {text : List Char} :
    isTimestamp text = true ↔ text ∈ Form.timestamp.matches' := by
  rw [isTimestamp, Bool.or_eq_true, isDay_iff, isMoment_iff]
  rfl

/-! ## Other forms -/

/-- A timestamp begins with a year and a sign behind it. -/
theorem exists_year {text : List Char} (h : text ∈ Form.timestamp.matches') :
    ∃ y₁ y₂ y₃ y₄ rest, text = y₁ :: y₂ :: y₃ :: y₄ :: '-' :: rest ∧
      y₁.isDigit ∧ y₂.isDigit ∧ y₃.isDigit ∧ y₄.isDigit := by
  have hdate : ∀ {part : RegularExpression Char} {text : List Char},
      text ∈ (Form.date part).matches' → ∃ year rest, year ∈ (Form.digit ^ 4).matches' ∧
        text = year ++ '-' :: rest := by
    rintro part _ ⟨year, hyear, parts, hparts, rfl⟩
    obtain ⟨rest, -, rfl⟩ := Form.mem_char_mul.1 hparts
    exact ⟨year, rest, hyear, rfl⟩
  obtain ⟨year, rest, hyear, rfl⟩ : ∃ year rest, year ∈ (Form.digit ^ 4).matches' ∧
      text = year ++ '-' :: rest := by
    obtain hday | ⟨date, hmoment, time, -, rfl⟩ := h
    · exact hdate hday
    · obtain ⟨year, rest, hyear, rfl⟩ := hdate hmoment
      exact ⟨year, rest ++ time, hyear, by simp⟩
  obtain ⟨hlength, hall⟩ := Form.mem_pow_digit.1 hyear
  match year, hlength, hall with
  | [y₁, y₂, y₃, y₄], _, hall =>
    simp only [List.forall_mem_cons] at hall
    exact ⟨y₁, y₂, y₃, y₄, rest, rfl, hall.1, hall.2.1, hall.2.2.1, hall.2.2.2.1⟩

theorem unsigned_of_isDigit {c : Char} (h : c.isDigit = true) (rest : List Char) :
    unsigned (c :: rest) = c :: rest := by
  rw [unsigned]
  · rintro _ h'
    rw [(List.cons.inj h').1] at h
    cases h
  · rintro _ h'
    rw [(List.cons.inj h').1] at h
    cases h

/-- The first part of a text is not empty as long as the separator does not come. -/
theorem exists_splitAt_append {separator : Char} {run : List Char} (h : ∀ c ∈ run, c ≠ separator)
    (rest : List Char) :
    ∃ part parts, splitAt separator (run ++ rest) = (run ++ part) :: parts := by
  induction run with
  | nil =>
    cases rest with
    | nil => exact ⟨[], [], rfl⟩
    | cons c rest =>
      rw [List.nil_append, splitAt]
      split
      · exact ⟨[], _, rfl⟩
      · split
        · exact ⟨_, _, rfl⟩
        · exact ⟨_, _, rfl⟩
  | cons c run ih =>
    obtain ⟨part, parts, hsplit⟩ := ih fun d hd => h d (by simp [hd])
    refine ⟨part, parts, ?_⟩
    rw [List.cons_append, splitAt, if_neg (h c (by simp)), hsplit]
    rfl

/-- No integer in any base has the form of a timestamp. -/
theorem isInteger_of_timestamp {text : List Char} (h : text ∈ Form.timestamp.matches') :
    isInteger text = false := by
  obtain ⟨y₁, y₂, y₃, y₄, rest, rfl, h₁, h₂, h₃, h₄⟩ := exists_year h
  rw [isInteger, unsigned_of_isDigit h₁]
  unfold isUnsignedInteger
  split
  case h_1 heq =>
    -- The second digit of the year is no mark of a base.
    cases heq
    cases h₂
  case h_2 heq =>
    cases heq
    cases h₂
  case h_3 heq => cases heq
  case h_4 heq =>
    -- The sign behind the year is no digit of base eight.
    cases heq
    simp
  case h_5 first digits _ _ _ _ heq =>
    -- The sign stands before any colon, where only digits may stand.
    cases heq
    have hcolon : ∀ c ∈ [y₂, y₃, y₄, '-'], c ≠ ':' := by
      rintro c hc rfl
      simp only [List.mem_cons, List.not_mem_nil, or_false] at hc
      obtain rfl | rfl | rfl | hc := hc
      · cases h₂
      · cases h₃
      · cases h₄
      · cases hc
    obtain ⟨part, parts, hsplit⟩ := exists_splitAt_append hcolon rest
    rw [List.cons_append, List.cons_append, List.cons_append, List.cons_append,
      List.nil_append] at hsplit
    rw [hsplit]
    simp [isDigitOrBlank]
  case h_6 heq => cases heq

/-- No number with a decimal point has the form of a timestamp. -/
theorem isFloat_of_timestamp {text : List Char} (h : text ∈ Form.timestamp.matches') :
    isFloat text = false := by
  obtain ⟨y₁, y₂, y₃, y₄, rest, rfl, h₁, h₂, h₃, h₄⟩ := exists_year h
  have hrest : (y₁ :: y₂ :: y₃ :: y₄ :: '-' :: rest).dropWhile
      (fun c => isDigitOrBlank c || c = ':') = '-' :: rest := by
    have hyear : ∀ c ∈ [y₁, y₂, y₃, y₄], (isDigitOrBlank c || c = ':') = true := by
      simp [isDigitOrBlank, h₁, h₂, h₃, h₄]
    exact dropWhile_append hyear (by simp [EndsBefore, isDigitOrBlank])
  simp only [isFloat, unsigned_of_isDigit h₁, hrest]
  split
  · rename_i hpoint
    cases hpoint
  · rfl

end Yaml
end Patchwork
