import Mesh.Lib.Lines

/-!
# Mesh.Lib.Calendar

Instants and their RFC 3339 text with nanoseconds, in UTC. An instant is an integer, the number of
nanoseconds since the first of January of year 1, so the zero instant is Go's zero time, and a span
of time is an integer too. The calendar is the
proleptic Gregorian one; years are counted from March so that the leap day ends a year, in eras of
400 years.

`rfc3339Nano_inj`: two instants with the same text are equal. Each component is read back from the
text, and `dayNumber` is a left inverse of the split of a day number into year, month and day.
-/

namespace Mesh

namespace Calendar

def second : Int := 1000000000
def minute : Int := 60 * second
def hour : Int := 60 * minute

/-- A civil date. -/
structure Date where
  year : Int
  month : Int
  day : Int
  deriving DecidableEq, Repr

/-- A day of an era, counted from March: the year of the era and the day of that year. An era has
four centuries, a century twenty-five leap cycles and a cycle four years; only the last part of each
may be one day longer. -/
def splitEra (doe : Int) : Int × Int :=
  let century := min 3 (doe / 36524)
  let rem := doe - century * 36524
  let cycle := min 24 (rem / 1461)
  let rem := rem - cycle * 1461
  let year := min 3 (rem / 365)
  (century * 100 + cycle * 4 + year, rem - year * 365)

/-- The date of a day of a year, both counted from March. -/
def ofYearDay (year doy : Int) : Date :=
  let mp := (5 * doy + 2) / 153
  let day := doy - (153 * mp + 2) / 5 + 1
  if mp < 10 then ⟨year, mp + 3, day⟩ else ⟨year + 1, mp - 9, day⟩

/-- The date of a day number, counted from the first of March of year 0. -/
def civil (z : Int) : Date :=
  ofYearDay ((splitEra (z % 146097)).1 + z / 146097 * 400) (splitEra (z % 146097)).2

/-- The first day of a year that starts in March. -/
def marchDay (year : Int) : Int :=
  year / 400 * 146097 +
    (year % 400 / 100 * 36524 + year % 400 % 100 / 4 * 1461 + year % 400 % 4 * 365)

/-- The day number of a date. -/
def dayNumber (d : Date) : Int :=
  if 2 < d.month then marchDay d.year + (153 * (d.month - 3) + 2) / 5 + d.day - 1
  else marchDay (d.year - 1) + (153 * (d.month + 9) + 2) / 5 + d.day - 1

/-- A day of an era splits into a year below 400 and a day of a year, and is recovered from them. -/
theorem splitEra_spec (doe : Int) (h0 : 0 ≤ doe) (h1 : doe < 146097) :
    (0 ≤ (splitEra doe).1 ∧ (splitEra doe).1 < 400) ∧
      (0 ≤ (splitEra doe).2 ∧ (splitEra doe).2 ≤ 365) ∧
      (splitEra doe).1 / 100 * 36524 + (splitEra doe).1 % 100 / 4 * 1461 +
        (splitEra doe).1 % 4 * 365 + (splitEra doe).2 = doe := by
  simp only [splitEra]
  obtain ⟨c, hc⟩ : ∃ c, c = min 3 (doe / 36524) := ⟨_, rfl⟩
  rw [← hc]
  have hcb : 0 ≤ c ∧ c ≤ 3 ∧ 0 ≤ doe - c * 36524 ∧ doe - c * 36524 ≤ 36524 := by omega
  obtain ⟨r, hr⟩ : ∃ r, r = doe - c * 36524 := ⟨_, rfl⟩
  rw [← hr]
  obtain ⟨q, hq⟩ : ∃ q, q = min 24 (r / 1461) := ⟨_, rfl⟩
  rw [← hq]
  have hqb : 0 ≤ q ∧ q ≤ 24 ∧ 0 ≤ r - q * 1461 ∧ r - q * 1461 ≤ 1460 := by omega
  obtain ⟨r', hr'⟩ : ∃ r', r' = r - q * 1461 := ⟨_, rfl⟩
  rw [← hr']
  obtain ⟨y, hy⟩ : ∃ y, y = min 3 (r' / 365) := ⟨_, rfl⟩
  rw [← hy]
  have hyb : 0 ≤ y ∧ y ≤ 3 ∧ 0 ≤ r' - y * 365 ∧ r' - y * 365 ≤ 365 := by omega
  have hcent : (c * 100 + q * 4 + y) / 100 = c := by omega
  have hcyc : (c * 100 + q * 4 + y) % 100 / 4 = q := by omega
  have hyr : (c * 100 + q * 4 + y) % 4 = y := by omega
  rw [hcent, hcyc, hyr]
  omega

/-- The month and the day recover the day of the year. -/
theorem dayNumber_ofYearDay (year : Int) {doy : Int} (h0 : 0 ≤ doy) (h1 : doy ≤ 365) :
    dayNumber (ofYearDay year doy) = marchDay year + doy := by
  have hm : 0 ≤ (5 * doy + 2) / 153 ∧ (5 * doy + 2) / 153 ≤ 11 := by omega
  simp only [ofYearDay]
  split
  · rw [dayNumber, if_pos (by dsimp only; omega)]
    dsimp only
    rw [Int.add_sub_cancel]
    omega
  · rw [dayNumber, if_neg (by dsimp only; omega)]
    dsimp only
    rw [Int.add_sub_cancel, Int.sub_add_cancel]
    omega

theorem dayNumber_civil (z : Int) : dayNumber (civil z) = z := by
  obtain ⟨⟨hy0, hy1⟩, ⟨hd0, hd1⟩, hsum⟩ := splitEra_spec (z % 146097) (by omega) (by omega)
  rw [civil, dayNumber_ofYearDay _ hd0 hd1, marchDay]
  generalize (splitEra (z % 146097)).1 = yoe at *
  have hyear : (yoe + z / 146097 * 400) % 400 = yoe := by omega
  have hera : (yoe + z / 146097 * 400) / 400 = z / 146097 := by omega
  rw [hyear, hera]
  omega

variable {z t u : Int} {w n m : Nat} {c : Char}

theorem civil_inj {w : Int} (h : civil z = civil w) : z = w := by
  rw [← dayNumber_civil z, h, dayNumber_civil w]

/-- Months run from 1 to 12 and days from 1 to 31. -/
theorem civil_bounds (z : Int) :
    (1 ≤ (civil z).month ∧ (civil z).month ≤ 12) ∧ (1 ≤ (civil z).day ∧ (civil z).day ≤ 31) := by
  obtain ⟨-, ⟨hd0, hd1⟩, -⟩ := splitEra_spec (z % 146097) (by omega) (by omega)
  simp only [civil, ofYearDay]
  split
  · dsimp only; omega
  · dsimp only; omega

/-! ## Text -/

/-- Decimal digits, padded with zeros on the left to at least `width` characters. -/
def padded (width n : Nat) : List Char :=
  List.replicate (width - (Nat.toDigits 10 n).length) '0' ++ Nat.toDigits 10 n

/-- A year: at least four digits, with a sign when negative. -/
def yearDigits (y : Int) : List Char :=
  if y < 0 then '-' :: padded 4 y.natAbs else padded 4 y.natAbs

/-- The digits with the zeros at the end removed. -/
def trimZeros (cs : List Char) : List Char := (cs.reverse.dropWhile (· == '0')).reverse

/-- Fractional seconds: nothing when they are zero. -/
def fraction (ns : Nat) : List Char := if ns = 0 then [] else '.' :: trimZeros (padded 9 ns)

/-- Days since the first of March of year 0. The first of January of year 1 is day 306. -/
def dayOf (t : Int) : Int := t / (86400 * second) + 306

def secondOfDay (t : Int) : Nat := ((t / second) % 86400).toNat

def nanosecond (t : Int) : Nat := (t % second).toNat

def rfc3339NanoChars (t : Int) : List Char :=
  let date := civil (dayOf t)
  let s := secondOfDay t
  yearDigits date.year ++ '-' :: (padded 2 date.month.toNat ++ '-' :: (padded 2 date.day.toNat ++
    'T' :: (padded 2 (s / 3600) ++ ':' :: (padded 2 (s / 60 % 60) ++ ':' :: (padded 2 (s % 60) ++
      (fraction (nanosecond t) ++ ['Z']))))))

/-- `t.UTC().Format(time.RFC3339Nano)`. -/
def rfc3339Nano (t : Int) : String := String.ofList (rfc3339NanoChars t)

theorem isDigit_of_mem_padded (h : c ∈ padded w n) : c.isDigit = true := by
  simp only [padded, List.mem_append, List.mem_replicate] at h
  rcases h with ⟨-, rfl⟩ | h
  · rfl
  · exact Nat.isDigit_of_mem_toDigits (b := 10) (by decide) (by decide) h

theorem ofDigitChars_padded (w n : Nat) : Nat.ofDigitChars 10 (padded w n) 0 = n := by
  rw [padded, Nat.ofDigitChars_append, Nat.ofDigitChars_replicate_zero, Nat.mul_zero,
    Nat.ofDigitChars_ten_toDigits]

theorem padded_inj (h : padded w n = padded w m) : n = m := by
  rw [← ofDigitChars_padded w n, h, ofDigitChars_padded]

theorem length_padded (h : n < 10 ^ w) (hw : 0 < w) : (padded w n).length = w := by
  have := (Nat.length_toDigits_le_iff (n := n) (b := 10) (by decide) hw).mpr h
  simp only [padded, List.length_append, List.length_replicate]
  omega

theorem sep_notMem_padded (hc : c.isDigit = false) : c ∉ padded w n := by
  intro h
  rw [isDigit_of_mem_padded h] at hc
  cases hc

theorem padded_ne_nil (w n : Nat) : padded w n ≠ [] := by
  simp [padded, Nat.toDigits_ne_nil]

theorem yearDigits_append_inj {y : Int} {r r' : List Char}
    (h : yearDigits y ++ '-' :: r = yearDigits z ++ '-' :: r') : y = z ∧ r = r' := by
  have hd : '-'.isDigit = false := rfl
  have head : ∀ {n : Nat} {xs ys : List Char}, padded 4 n ++ xs ≠ '-' :: ys := by
    intro n xs ys he
    cases hp : padded 4 n with
    | nil => exact padded_ne_nil 4 n hp
    | cons c cs =>
      rw [hp, List.cons_append, List.cons.injEq] at he
      exact sep_notMem_padded (w := 4) (n := n) hd (by rw [hp, he.1]; simp)
  unfold yearDigits at h
  by_cases hy : y < 0 <;> by_cases hz : z < 0
  · simp only [hy, hz, if_true, List.cons_append, List.cons.injEq, true_and] at h
    obtain ⟨hn, hr⟩ := Lines.append_cons_inj (sep_notMem_padded hd) (sep_notMem_padded hd) h
    have := padded_inj hn
    exact ⟨by omega, hr⟩
  · simp only [hy, hz, if_true, if_false, List.cons_append] at h
    exact absurd h.symm head
  · simp only [hy, hz, if_true, if_false, List.cons_append] at h
    exact absurd h head
  · simp only [hy, hz, if_false] at h
    obtain ⟨hn, hr⟩ := Lines.append_cons_inj (sep_notMem_padded hd) (sep_notMem_padded hd) h
    have := padded_inj hn
    exact ⟨by omega, hr⟩

/-- The zeros that were removed are known once the length is. -/
theorem trimZeros_append (cs : List Char) : ∃ k, cs = trimZeros cs ++ List.replicate k '0' := by
  have hsplit := List.takeWhile_append_dropWhile (p := (· == '0')) (l := cs.reverse)
  refine ⟨(cs.reverse.takeWhile (· == '0')).length, ?_⟩
  have hz : cs.reverse.takeWhile (· == '0') =
      List.replicate (cs.reverse.takeWhile (· == '0')).length '0' := by
    refine List.eq_replicate_iff.mpr ⟨rfl, fun c hc => ?_⟩
    simpa using List.all_eq_true.mp List.all_takeWhile c hc
  have := congrArg List.reverse hsplit
  rw [List.reverse_append, List.reverse_reverse] at this
  rw [← this, trimZeros]
  congr 1
  · rw [this]
  · rw [this, hz, List.reverse_replicate, List.length_replicate]

theorem trimZeros_inj {cs ds : List Char} (hl : cs.length = ds.length)
    (h : trimZeros cs = trimZeros ds) : cs = ds := by
  obtain ⟨k, hk⟩ := trimZeros_append cs
  obtain ⟨j, hj⟩ := trimZeros_append ds
  have h1 := congrArg List.length hk
  have h2 := congrArg List.length hj
  rw [List.length_append, List.length_replicate] at h1 h2
  have hkj : k = j := by rw [h] at h1; omega
  rw [hk, hj, h, hkj]

theorem fraction_inj (hn : n < 10 ^ 9) (hm : m < 10 ^ 9) (h : fraction n = fraction m) : n = m := by
  unfold fraction at h
  by_cases h0 : n = 0 <;> by_cases h1 : m = 0
  · omega
  · simp [h0, h1] at h
  · simp [h0, h1] at h
  · simp only [h0, h1, if_false, List.cons.injEq, true_and] at h
    refine padded_inj (w := 9) (trimZeros_inj ?_ h)
    rw [length_padded hn (by decide), length_padded hm (by decide)]

/-- Fixed-width digits followed by a separator are read back from the text. -/
theorem padded_append_inj {r r' : List Char} (hc : c.isDigit = false)
    (h : padded w n ++ c :: r = padded w m ++ c :: r') : n = m ∧ r = r' := by
  obtain ⟨hp, hr⟩ := Lines.append_cons_inj (sep_notMem_padded hc) (sep_notMem_padded hc) h
  exact ⟨padded_inj hp, hr⟩

theorem time_eq_of_parts (hday : dayOf t = dayOf u) (hsec : secondOfDay t = secondOfDay u)
    (hns : nanosecond t = nanosecond u) : t = u := by
  simp only [dayOf, secondOfDay, nanosecond, second] at *
  omega

/-- The text determines the instant. -/
theorem rfc3339Nano_inj (h : rfc3339Nano t = rfc3339Nano u) : t = u := by
  have hchars : rfc3339NanoChars t = rfc3339NanoChars u := by
    have := congrArg String.toList h
    simpa only [rfc3339Nano, String.toList_ofList] using this
  obtain ⟨⟨hm1, hm2⟩, hd1, hd2⟩ := civil_bounds (dayOf t)
  obtain ⟨⟨hm1', hm2'⟩, hd1', hd2'⟩ := civil_bounds (dayOf u)
  obtain ⟨hyear, h1⟩ := yearDigits_append_inj hchars
  obtain ⟨hmonth, h2⟩ := padded_append_inj rfl h1
  obtain ⟨hday, h3⟩ := padded_append_inj rfl h2
  obtain ⟨hhour, h4⟩ := padded_append_inj rfl h3
  obtain ⟨hmin, h5⟩ := padded_append_inj rfl h4
  have hs : ∀ v : Int, secondOfDay v % 60 < 10 ^ 2 := fun v => by
    have := Nat.mod_lt (secondOfDay v) (show 0 < 60 by decide)
    omega
  obtain ⟨hsec, h6⟩ := List.append_inj h5 (by
    rw [length_padded (hs t) (by decide), length_padded (hs u) (by decide)])
  have hfrac := fraction_inj (n := nanosecond t) (m := nanosecond u)
    (by simp only [nanosecond, second]; omega) (by simp only [nanosecond, second]; omega)
    (List.append_cancel_right h6)
  have hdate : civil (dayOf t) = civil (dayOf u) := by
    have hmo : (civil (dayOf t)).month = (civil (dayOf u)).month := by omega
    have hda : (civil (dayOf t)).day = (civil (dayOf u)).day := by omega
    rcases e : civil (dayOf t) with ⟨y, mo, da⟩
    rcases e' : civil (dayOf u) with ⟨y', mo', da'⟩
    rw [e, e'] at hyear hmo hda
    simp_all
  have hsecond := padded_inj hsec
  refine time_eq_of_parts (civil_inj hdate) ?_ hfrac
  have ht : secondOfDay t < 86400 := by simp only [secondOfDay]; omega
  have hu : secondOfDay u < 86400 := by simp only [secondOfDay]; omega
  omega

theorem trimZeros_sublist (cs : List Char) : (trimZeros cs).Sublist cs := by
  obtain ⟨k, hk⟩ := trimZeros_append cs
  nth_rewrite 2 [hk]
  exact List.sublist_append_left _ _

/-- The characters of a written instant. -/
theorem mem_rfc3339NanoChars (h : c ∈ rfc3339NanoChars t) : c.isDigit = true ∨ c ∈ ['-', 'T', ':', '.', 'Z'] := by
  have hp : ∀ {w n}, c ∈ padded w n → c.isDigit = true := isDigit_of_mem_padded
  have hy : c ∈ yearDigits (civil (dayOf t)).year → c.isDigit = true ∨ c = '-' := by
    unfold yearDigits
    split
    · exact fun hc => (List.mem_cons.mp hc).symm.imp hp fun hc => hc
    · exact fun hc => .inl (hp hc)
  have hf : c ∈ fraction (nanosecond t) → c.isDigit = true ∨ c = '.' := by
    unfold fraction
    split
    · exact fun hc => by simp at hc
    · exact fun hc => (List.mem_cons.mp hc).symm.imp
        (fun hc => hp ((trimZeros_sublist _).subset hc)) fun hc => hc
  simp only [rfc3339NanoChars, List.mem_append, List.mem_cons, List.not_mem_nil, or_false] at h ⊢
  grind

theorem oneLine_rfc3339Nano (t : Int) : Lines.OneLine (rfc3339Nano t) := by
  simp only [Lines.OneLine, rfc3339Nano, String.toList_ofList]
  intro h
  rcases mem_rfc3339NanoChars h with h | h
  · cases h
  · simp at h

theorem length_fraction_le {ns : Nat} (h : ns < 10 ^ 9) : (fraction ns).length ≤ 10 := by
  unfold fraction
  split
  · simp
  · have hle := (trimZeros_sublist (padded 9 ns)).length_le
    rw [length_padded h (by decide)] at hle
    rw [List.length_cons]
    omega

theorem length_rfc3339NanoChars_le (h0 : 0 ≤ (civil (dayOf t)).year) (h1 : (civil (dayOf t)).year ≤ 9999) :
    (rfc3339NanoChars t).length ≤ 30 := by
  obtain ⟨⟨hmo0, hmo1⟩, hd0, hd1⟩ := civil_bounds (dayOf t)
  have hs : secondOfDay t < 86400 := by unfold secondOfDay; omega
  have hf : (fraction (nanosecond t)).length ≤ 10 := length_fraction_le (by unfold nanosecond second; omega)
  have hyear : (yearDigits (civil (dayOf t)).year).length = 4 := by
    rw [yearDigits, if_neg (by omega)]
    exact length_padded (by omega) (by decide)
  have hp : ∀ n < 100, (padded 2 n).length = 2 := fun n hn => length_padded hn (by decide)
  simp only [rfc3339NanoChars, List.length_append, List.length_cons, List.length_nil, hyear,
    hp _ (show (civil (dayOf t)).month.toNat < 100 by omega),
    hp _ (show (civil (dayOf t)).day.toNat < 100 by omega),
    hp _ (show secondOfDay t / 3600 < 100 by omega),
    hp _ (show secondOfDay t / 60 % 60 < 100 by omega),
    hp _ (show secondOfDay t % 60 < 100 by omega)]
  omega

example : rfc3339Nano 0 = "0001-01-01T00:00:00Z" := by decide +kernel

/-! ## Reading -/

/-- The value of the next `count` decimal digits, and the text after them. -/
def takeDigits : Nat → Nat → List Char → Option (Nat × List Char)
  | 0, acc, cs => some (acc, cs)
  | count + 1, acc, c :: cs =>
    if c.isDigit then takeDigits count (acc * 10 + (c.toNat - 48)) cs else none
  | _ + 1, _, [] => none

def takeChar (c : Char) : List Char → Option (List Char)
  | d :: cs => if d = c then some cs else none
  | [] => none

def isLeap (year : Nat) : Bool := (year % 4 == 0 && year % 100 != 0) || year % 400 == 0

def daysIn (year month : Nat) : Nat :=
  if month = 2 then (if isLeap year then 29 else 28)
  else if month = 4 ∨ month = 6 ∨ month = 9 ∨ month = 11 then 30
  else 31

/-- Fractional seconds in nanoseconds: digits after the ninth do not count. -/
def takeFraction (cs : List Char) : Option (Nat × List Char) :=
  match cs with
  | '.' :: rest =>
    let digits := rest.takeWhile Char.isDigit
    if digits = [] then none
    else
      let nine := (digits ++ List.replicate 9 '0').take 9
      (takeDigits 9 0 nine).map fun (ns, _) => (ns, rest.dropWhile Char.isDigit)
  | _ => some (0, cs)

/-- The zone at the end of a text, in seconds east of UTC. -/
def takeZone : List Char → Option Int
  | ['Z'] => some 0
  | sign :: cs => do
    let (h, cs) ← takeDigits 2 0 cs
    let cs ← takeChar ':' cs
    let (m, cs) ← takeDigits 2 0 cs
    if cs ≠ [] ∨ 24 < h ∨ 60 < m then none
    else if sign = '+' then some (h * 3600 + m * 60)
    else if sign = '-' then some (-(h * 3600 + m * 60))
    else none
  | [] => none

/-- `time.Parse(time.RFC3339Nano, text)`. -/
def parseRFC3339 (text : String) : Option Int := do
  let (year, cs) ← takeDigits 4 0 text.toList
  let cs ← takeChar '-' cs
  let (month, cs) ← takeDigits 2 0 cs
  let cs ← takeChar '-' cs
  let (day, cs) ← takeDigits 2 0 cs
  let cs ← takeChar 'T' cs
  let (h, cs) ← takeDigits 2 0 cs
  let cs ← takeChar ':' cs
  let (m, cs) ← takeDigits 2 0 cs
  let cs ← takeChar ':' cs
  let (s, cs) ← takeDigits 2 0 cs
  let (ns, cs) ← takeFraction cs
  let zone ← takeZone cs
  if month < 1 ∨ 12 < month ∨ day < 1 ∨ daysIn year month < day ∨ 23 < h ∨ 59 < m ∨ 59 < s then none
  else
    let days := dayNumber ⟨year, month, day⟩ - 306
    some ((days * 86400 + h * 3600 + m * 60 + s - zone) * second + ns)

/-! ## Reading what was written -/

theorem takeDigits_append {cs : List Char} (rest : List Char) (h : ∀ c ∈ cs, c.isDigit = true) (acc : Nat) :
    takeDigits cs.length acc (cs ++ rest) = some (Nat.ofDigitChars 10 cs acc, rest) := by
  induction cs generalizing acc with
  | nil => rfl
  | cons c cs ih =>
    have hc : c.isDigit = true := h c (by simp)
    rw [List.length_cons, List.cons_append, takeDigits, if_pos hc, ih fun d hd => h d (by simp [hd]),
      Nat.ofDigitChars_cons, Nat.mul_comm]
    rfl

theorem takeChar_cons (c : Char) (cs : List Char) : takeChar c (c :: cs) = some cs := if_pos rfl

theorem some_bind {α β : Type} (a : α) (f : α → Option β) : (some a >>= f) = f a := rfl

theorem takeDigits_padded {rest : List Char} (hw : 0 < w) (hn : n < 10 ^ w) :
    takeDigits w 0 (padded w n ++ rest) = some (n, rest) := by
  have h := takeDigits_append rest (fun c (hc : c ∈ padded w n) => isDigit_of_mem_padded hc) 0
  rwa [length_padded hn hw, ofDigitChars_padded] at h

theorem trimZeros_ne_nil (h : n ≠ 0) (w : Nat) : trimZeros (padded w n) ≠ [] := by
  intro hnil
  obtain ⟨k, hk⟩ := trimZeros_append (padded w n)
  have hvalue := ofDigitChars_padded w n
  rw [hk, hnil, List.nil_append, Nat.ofDigitChars_replicate_zero, Nat.mul_zero] at hvalue
  exact h hvalue.symm

theorem takeFraction_fraction {ns : Nat} (h : ns < 10 ^ 9) :
    takeFraction (fraction ns ++ ['Z']) = some (ns, ['Z']) := by
  unfold fraction
  by_cases h0 : ns = 0
  · rw [if_pos h0, h0]
    rfl
  · obtain ⟨k, hk⟩ := trimZeros_append (padded 9 ns)
    have hne := trimZeros_ne_nil h0 9
    have hlen := length_padded h (by decide)
    have hread : takeDigits 9 0 (padded 9 ns ++ []) = some (ns, []) := takeDigits_padded (by decide) h
    have hdigits : ∀ c ∈ trimZeros (padded 9 ns), c.isDigit = true := fun c hc =>
      isDigit_of_mem_padded (by rw [hk]; exact List.mem_append_left _ hc)
    rw [if_neg h0, List.cons_append, takeFraction]
    generalize trimZeros (padded 9 ns) = cs at *
    rw [hk, List.length_append, List.length_replicate] at hlen
    have hwhile : (cs ++ ['Z']).takeWhile Char.isDigit = cs := by
      rw [List.takeWhile_append_of_pos hdigits]
      simp [List.takeWhile]
    have hdrop : (cs ++ ['Z']).dropWhile Char.isDigit = ['Z'] := by
      rw [List.dropWhile_append_of_pos hdigits]
      rfl
    -- nine digits are those that were kept and the zeros that were trimmed
    have hnine : (cs ++ List.replicate 9 '0').take 9 = padded 9 ns := by
      have hmin : min (9 - cs.length) 9 = k := by omega
      rw [List.take_append, List.take_of_length_le (by omega), List.take_replicate, hmin, hk]
    rw [List.append_nil] at hread
    simp only [hwhile, hdrop, hnine, if_neg hne, hread, Option.map_some]

/-- The last day of a year that starts in March is there only before a leap year. -/
theorem splitEra_last (doe : Int) (h : (splitEra doe).2 = 365) :
    (((splitEra doe).1 + 1) % 4 = 0 ∧ ((splitEra doe).1 + 1) % 100 ≠ 0) ∨ ((splitEra doe).1 + 1) % 400 = 0 := by
  simp only [splitEra] at h ⊢
  omega

theorem civil_daysIn (h0 : 0 ≤ (civil z).year) :
    (civil z).day ≤ daysIn (civil z).year.toNat (civil z).month.toNat := by
  obtain ⟨hyear, ⟨hd0, hd1⟩, -⟩ := splitEra_spec (z % 146097) (by omega) (by omega)
  have hlast := splitEra_last (z % 146097)
  simp only [civil, ofYearDay] at h0 ⊢
  generalize (splitEra (z % 146097)).1 = yoe at *
  generalize (splitEra (z % 146097)).2 = doy at *
  have hm : 0 ≤ (5 * doy + 2) / 153 ∧ (5 * doy + 2) / 153 ≤ 11 := by omega
  generalize hmp : (5 * doy + 2) / 153 = mp at *
  have hmonths : mp = 0 ∨ mp = 1 ∨ mp = 2 ∨ mp = 3 ∨ mp = 4 ∨ mp = 5 ∨ mp = 6 ∨ mp = 7 ∨ mp = 8 ∨ mp = 9 ∨
      mp = 10 ∨ mp = 11 := by omega
  obtain rfl | rfl | rfl | rfl | rfl | rfl | rfl | rfl | rfl | rfl | rfl | rfl := hmonths
  case inr.inr.inr.inr.inr.inr.inr.inr.inr.inr.inr =>
    -- February: the twenty-ninth is the last day of the year from March
    rw [if_neg (by decide)] at h0 ⊢
    dsimp only at h0 ⊢
    rw [daysIn, if_pos (by rfl)]
    simp only [isLeap, Bool.or_eq_true, Bool.and_eq_true, beq_iff_eq, bne_iff_ne]
    split_ifs with hleap
    · omega
    · by_contra hcon
      have := hlast (by omega)
      omega
  all_goals norm_num [daysIn]; omega

theorem parseRFC3339_rfc3339Nano (h0 : 0 ≤ (civil (dayOf t)).year) (h1 : (civil (dayOf t)).year ≤ 9999) :
    parseRFC3339 (rfc3339Nano t) = some t := by
  obtain ⟨⟨hmo0, hmo1⟩, hd0, hd1⟩ := civil_bounds (dayOf t)
  have hdays := civil_daysIn h0
  have hnumber := dayNumber_civil (dayOf t)
  have hs : secondOfDay t < 86400 := by unfold secondOfDay; omega
  have hns : nanosecond t < 10 ^ 9 := by unfold nanosecond second; omega
  have hyear : yearDigits (civil (dayOf t)).year = padded 4 (civil (dayOf t)).year.toNat := by
    rw [yearDigits, if_neg (by omega)]
    congr 1
    omega
  rw [parseRFC3339, rfc3339Nano, String.toList_ofList, rfc3339NanoChars, hyear,
    takeDigits_padded (by decide) (by omega)]
  iterate 5
    simp only [some_bind, takeChar_cons]
    rw [takeDigits_padded (by decide) (by omega)]
  simp only [some_bind]
  rw [takeFraction_fraction hns]
  simp only [some_bind, takeZone]
  rw [if_neg (by omega)]
  have hdate : (⟨((civil (dayOf t)).year.toNat : Int), ((civil (dayOf t)).month.toNat : Int),
      ((civil (dayOf t)).day.toNat : Int)⟩ : Date) = civil (dayOf t) := by
    rw [Int.toNat_of_nonneg h0, Int.toNat_of_nonneg (by omega), Int.toNat_of_nonneg (by omega)]
  rw [hdate, hnumber, Option.some.injEq]
  unfold dayOf secondOfDay nanosecond second
  omega

example : parseRFC3339 (rfc3339Nano 63871200000000000123) = some 63871200000000000123 := by
  decide +kernel

end Calendar
end Mesh
