import BoardSmoke.Number.Literal
import Mathlib.Data.List.TakeDrop

namespace BoardSmoke.Literal

-- What may be in front of digits, and whether it is a minus.
inductive Sign : Bool → List Char → Prop
  | unsigned : Sign false []
  | plus : Sign false ['+']
  | minus : Sign true ['-']

-- The digits before a point and those after it, and the text of both. Without digits after it, the point
-- may be left out.
inductive Pointed : List Char → List Char → List Char → Prop
  | whole (whole : List Char) : Pointed whole [] whole
  | point (whole fraction : List Char) : Pointed whole fraction (whole ++ '.' :: fraction)

-- An exponent and its text. There is a digit in it, unless there is no text at all.
inductive Exponent : Int → List Char → Prop
  | absent : Exponent 0 []
  | marked {mark : Char} {negative : Bool} {sign digits : List Char} (hmark : mark = 'e' ∨ mark = 'E')
      (hsign : Sign negative sign) (hdigits : ∀ c ∈ digits, c.isDigit = true) (hsome : digits ≠ []) :
      Exponent (if negative then -(ofDigits digits : Int) else ofDigits digits)
        (mark :: (sign ++ digits))

-- A text and the decimal number that it writes.
inductive Writes : List Char → Decimal → Prop
  | decimal {negative : Bool} {sign whole fraction middle tail : List Char} {exponent : Int}
      (hsign : Sign negative sign) (hpointed : Pointed whole fraction middle)
      (hdigits : ∀ c ∈ whole ++ fraction, c.isDigit = true) (hsome : whole ++ fraction ≠ [])
      (hexponent : Exponent exponent tail) :
      Writes (sign ++ (middle ++ tail))
        ⟨negative, ofDigits (whole ++ fraction), exponent - fraction.length⟩

section Complete

variable {negative : Bool} {sign whole fraction middle tail digits rest : List Char} {exponent : Int}

theorem cutDigits_append (h : ∀ c ∈ digits, c.isDigit = true)
    (hrest : ∀ c ∈ rest.head?, c.isDigit = false) : cutDigits (digits ++ rest) = (digits, rest) := by
  rw [cutDigits, List.span_eq_takeWhile_dropWhile, List.takeWhile_append_of_pos h,
    List.dropWhile_append_of_pos h]
  cases rest with
  | nil => rw [List.takeWhile_nil, List.dropWhile_nil, List.append_nil]
  | cons c rest =>
      have hc : ¬c.isDigit = true := by
        rw [hrest c rfl]
        exact Bool.false_ne_true
      rw [List.takeWhile_cons_of_neg hc, List.dropWhile_cons_of_neg hc, List.append_nil]

theorem cutDigits_of_digits (h : ∀ c ∈ digits, c.isDigit = true) : cutDigits digits = (digits, []) := by
  have hcut := @cutDigits_append digits [] h nofun
  rwa [List.append_nil] at hcut

theorem cutSign_append (hsign : Sign negative sign) (hminus : rest.head? ≠ some '-')
    (hplus : rest.head? ≠ some '+') : cutSign (sign ++ rest) = (negative, rest) := by
  cases hsign with
  | unsigned =>
      rw [List.nil_append]
      unfold cutSign
      split
      · exact absurd rfl hminus
      · exact absurd rfl hplus
      · rfl
  | plus => rfl
  | minus => rfl

theorem ne_of_head?_isDigit {c : Char} (hdigits : ∀ c ∈ digits, c.isDigit = true)
    (hc : c.isDigit = false) : digits.head? ≠ some c := by
  intro hhead
  have hdigit := hdigits c (List.mem_of_mem_head? hhead)
  rw [hc] at hdigit
  cases hdigit

theorem exponent?_of_exponent (h : Exponent exponent tail) : exponent? tail = some exponent := by
  cases h with
  | absent => rfl
  | marked hmark hsign hdigits hsome =>
      have hcut := cutSign_append hsign (ne_of_head?_isDigit hdigits (by decide))
        (ne_of_head?_isDigit hdigits (by decide))
      rw [exponent?, if_pos hmark, hcut]
      simp only [cutDigits_of_digits hdigits, hsome, ne_eq, not_true_eq_false, or_self, if_false]

theorem Exponent.head? (h : Exponent exponent tail) : ∀ c ∈ tail.head?, c = 'e' ∨ c = 'E' := by
  cases h with
  | absent => exact nofun
  | marked hmark _ _ _ =>
      intro c hc
      rwa [← Option.some.inj hc]

-- What is in front of an exponent is cut where its digits and its point are.
theorem cutDigits_pointed (hpointed : Pointed whole fraction middle)
    (hwhole : ∀ c ∈ whole, c.isDigit = true) (hfraction : ∀ c ∈ fraction, c.isDigit = true)
    (htail : ∀ c ∈ tail.head?, c = 'e' ∨ c = 'E') :
    ∃ rest, cutDigits (middle ++ tail) = (whole, rest) ∧ cutFraction rest = (fraction, tail) := by
  have hnotDigit : ∀ c ∈ tail.head?, c.isDigit = false := by
    intro c hc
    rcases htail c hc with rfl | rfl <;> rfl
  cases hpointed with
  | whole =>
      refine ⟨tail, cutDigits_append hwhole hnotDigit, ?_⟩
      unfold cutFraction
      split
      · rcases htail '.' rfl with h | h <;> cases h
      · rfl
  | point =>
      refine ⟨'.' :: (fraction ++ tail), ?_, cutDigits_append hfraction hnotDigit⟩
      rw [List.append_assoc]
      refine cutDigits_append hwhole fun c hc => ?_
      obtain rfl : '.' = c := Option.some.inj hc
      rfl

theorem Pointed.head?_ne (hpointed : Pointed whole fraction middle)
    (hdigits : ∀ c ∈ whole ++ fraction, c.isDigit = true) (hsome : whole ++ fraction ≠ [])
    (tail : List Char) {c : Char} (hc : c.isDigit = false) (hpoint : c ≠ '.') :
    (middle ++ tail).head? ≠ some c := by
  cases whole with
  | nil =>
      cases hpointed with
      | whole => exact absurd rfl hsome
      | point => exact fun hhead => hpoint (Option.some.inj hhead).symm
  | cons first whole =>
      have hfirst : first.isDigit = true := hdigits first List.mem_cons_self
      have hne : first ≠ c := by
        rintro rfl
        rw [hc] at hfirst
        cases hfirst
      cases hpointed <;> exact fun hhead => hne (Option.some.inj hhead)

theorem parse?_of_writes {text : List Char} {number : Decimal} (h : Writes text number) :
    parse? (String.ofList text) = some (.decimal number) := by
  cases h with
  | @decimal negative sign whole fraction middle tail exponent hsign hpointed hdigits hsome hexponent =>
      have hminus : (middle ++ tail).head? ≠ some '-' :=
        hpointed.head?_ne hdigits hsome tail rfl (by decide)
      have hplus : (middle ++ tail).head? ≠ some '+' :=
        hpointed.head?_ne hdigits hsome tail rfl (by decide)
      obtain ⟨rest, hwhole, hfraction⟩ := cutDigits_pointed hpointed
        (fun c hc => hdigits c (List.mem_append_left _ hc))
        (fun c hc => hdigits c (List.mem_append_right _ hc)) hexponent.head?
      have hnonempty : ¬(whole = [] ∧ fraction = []) := by
        rintro ⟨rfl, rfl⟩
        exact hsome rfl
      have hdecimal : decimal? negative (middle ++ tail) =
          some ⟨negative, ofDigits (whole ++ fraction), exponent - fraction.length⟩ := by
        rw [decimal?, hwhole]
        simp only [hfraction, exponent?_of_exponent hexponent, Option.bind_eq_bind, Option.bind_some,
          if_neg hnonempty]
      rw [parse?, String.toList_ofList, cutSign_append hsign hminus hplus]
      simp only [hdecimal]

end Complete

section Sound

variable {text : List Char}

theorem sign_of_cutSign {negative : Bool} {rest : List Char} (h : cutSign text = (negative, rest)) :
    ∃ sign, Sign negative sign ∧ text = sign ++ rest := by
  unfold cutSign at h
  split at h
  · cases h
    exact ⟨['-'], .minus, rfl⟩
  · cases h
    exact ⟨['+'], .plus, rfl⟩
  · cases h
    exact ⟨[], .unsigned, rfl⟩

theorem digits_of_cutDigits {digits rest : List Char} (h : cutDigits text = (digits, rest)) :
    text = digits ++ rest ∧ ∀ c ∈ digits, c.isDigit = true := by
  rw [cutDigits, List.span_eq_takeWhile_dropWhile] at h
  obtain ⟨rfl, rfl⟩ := Prod.mk.inj h
  exact ⟨List.takeWhile_append_dropWhile.symm, List.all_eq_true.mp List.all_takeWhile⟩

theorem pointed_of_cutFraction (whole : List Char) {fraction rest : List Char}
    (h : cutFraction text = (fraction, rest)) :
    ∃ middle, Pointed whole fraction middle ∧ whole ++ text = middle ++ rest ∧
      ∀ c ∈ fraction, c.isDigit = true := by
  unfold cutFraction at h
  split at h
  · rename_i after
    obtain ⟨rfl, hdigits⟩ := digits_of_cutDigits h
    refine ⟨_, .point whole fraction, ?_, hdigits⟩
    rw [List.append_assoc, List.cons_append]
  · obtain ⟨rfl, rfl⟩ := Prod.mk.inj h
    exact ⟨whole, .whole whole, rfl, nofun⟩

theorem exponent_of_exponent? {exponent : Int} (h : exponent? text = some exponent) :
    Exponent exponent text := by
  unfold exponent? at h
  split at h
  · cases h
    exact .absent
  split at h
  · rename_i mark rest hmark
    rcases hcut : cutSign rest with ⟨negative, unsigned⟩
    rcases hcut' : cutDigits unsigned with ⟨digits, after⟩
    obtain ⟨sign, hsign, rfl⟩ := sign_of_cutSign hcut
    obtain ⟨rfl, hdigits⟩ := digits_of_cutDigits hcut'
    simp only [hcut, hcut'] at h
    split at h
    · cases h
    rename_i hwhole
    obtain ⟨hsome, hafter⟩ := not_or.mp hwhole
    cases h
    rw [not_not.mp hafter, List.append_nil]
    exact .marked hmark hsign hdigits hsome
  · cases h

theorem writes_of_decimal? {negative : Bool} {sign : List Char} {number : Decimal}
    (hsign : Sign negative sign) (h : decimal? negative text = some number) :
    Writes (sign ++ text) number := by
  rw [decimal?] at h
  rcases hwhole : cutDigits text with ⟨whole, rest⟩
  rcases hfraction : cutFraction rest with ⟨fraction, tail⟩
  simp only [hwhole, hfraction, Option.bind_eq_bind, Option.bind_eq_some_iff] at h
  obtain ⟨exponent, hexponent, h⟩ := h
  split at h
  · cases h
  rename_i hnonempty
  cases h
  obtain ⟨rfl, hdigits⟩ := digits_of_cutDigits hwhole
  obtain ⟨middle, hpointed, hmiddle, hdigits'⟩ := pointed_of_cutFraction whole hfraction
  rw [hmiddle]
  refine .decimal hsign hpointed (List.forall_mem_append.mpr ⟨hdigits, hdigits'⟩) ?_
    (exponent_of_exponent? hexponent)
  intro happend
  exact hnonempty (List.append_eq_nil_iff.mp happend)

theorem word?_ne_decimal (negative : Bool) (number : Decimal) :
    word? negative text ≠ some (.decimal number) := by
  unfold word?
  dsimp only
  split
  · exact nofun
  split <;> exact nofun

end Sound

theorem parse?_eq_decimal_iff {text : String} {number : Decimal} :
    parse? text = some (.decimal number) ↔ Writes text.toList number := by
  constructor
  · intro h
    rcases hcut : cutSign text.toList with ⟨negative, rest⟩
    obtain ⟨sign, hsign, htext⟩ := sign_of_cutSign hcut
    rw [parse?, hcut] at h
    dsimp only at h
    rw [htext]
    split at h
    · rename_i number' hdecimal
      cases h
      exact writes_of_decimal? hsign hdecimal
    · exact absurd h (word?_ne_decimal _ _)
  · intro h
    rw [← text.ofList_toList]
    exact parse?_of_writes h

-- The digits on both sides of a point are those of the significand.
theorem parse?_point {whole fraction : List Char} (hdigits : ∀ c ∈ whole ++ fraction, c.isDigit = true)
    (hsome : whole ++ fraction ≠ []) :
    parse? (String.ofList (whole ++ '.' :: fraction)) =
      some (.decimal ⟨false, ofDigits (whole ++ fraction), -fraction.length⟩) := by
  have hwrites := Writes.decimal .unsigned (.point whole fraction) hdigits hsome .absent
  rw [List.nil_append, List.append_nil, Int.zero_sub] at hwrites
  exact parse?_of_writes hwrites

end BoardSmoke.Literal
