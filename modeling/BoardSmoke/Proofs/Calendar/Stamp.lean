import BoardSmoke.Proofs.Calendar.Order
import BoardSmoke.Proofs.Text.Utf8

namespace BoardSmoke

-- Lists are compared part by part, as long as the parts are of one length.
theorem compare_append {α : Type} [Ord α] {first first' : List α} (h : first.length = first'.length)
    (second second' : List α) :
    compare (first ++ second) (first' ++ second') =
      (compare first first').then (compare second second') := by
  induction first generalizing first' with
  | nil =>
      obtain rfl := List.length_eq_zero_iff.mp h.symm
      rfl
  | cons a first ih =>
      cases first' with
      | nil => cases h
      | cons a' first' =>
          rw [List.cons_append, List.cons_append, List.compare_cons_cons, List.compare_cons_cons,
            ih (Nat.succ.inj h), Ordering.then_assoc]

theorem compare_sub {n m least : Nat} (hn : least ≤ n) (hm : least ≤ m) :
    compare (n - least) (m - least) = compare n m := by
  have hlt : n - least < m - least ↔ n < m := by omega
  have hsame : n - least = m - least ↔ n = m := by omega
  simp only [compare, compareOfLessAndEq, hlt, hsame]

namespace Utf8

theorem digit_bounds {c : Char} (h : c.isDigit = true) : 48 ≤ c.toNat ∧ c.toNat ≤ 57 := by
  simpa [Char.isDigit, UInt32.le_iff_toNat_le] using h

theorem encode_digits {digits : List Char} (h : ∀ c ∈ digits, c.isDigit = true) :
    encode digits = digits.map fun c => UInt8.ofNat c.toNat := by
  induction digits with
  | nil => rfl
  | cons c digits ih =>
      have hc := digit_bounds (h c List.mem_cons_self)
      have hbyte : String.utf8EncodeChar c = [UInt8.ofNat c.toNat] := by
        rw [String.utf8EncodeChar.eq_1]
        exact if_pos (by change c.toNat ≤ 127; omega)
      rw [encode, List.flatMap_cons, hbyte, List.map_cons,
        ← ih fun c hc => h c (List.mem_cons_of_mem _ hc)]
      rfl

theorem compare_toNat (byte byte' : UInt8) : compare byte.toNat byte'.toNat = compare byte byte' := by
  simp only [compare, compareOfLessAndEq, UInt8.lt_iff_toNat_lt, UInt8.toNat_inj]

theorem ofDigitChars_cons (c : Char) (digits : List Char) :
    Nat.ofDigitChars 10 (c :: digits) 0 =
      (c.toNat - 48) * 10 ^ digits.length + Nat.ofDigitChars 10 digits 0 := by
  have hzero : '0'.toNat = 48 := rfl
  rw [Nat.ofDigitChars_cons, Nat.ofDigitChars_eq_ofDigitChars_zero, hzero, Nat.mul_zero, Nat.zero_add,
    Nat.mul_comm]

theorem ofDigitChars_lt {digits : List Char} (h : ∀ c ∈ digits, c.isDigit = true) :
    Nat.ofDigitChars 10 digits 0 < 10 ^ digits.length := by
  induction digits with
  | nil => decide
  | cons c digits ih =>
      have hc := digit_bounds (h c List.mem_cons_self)
      have hrest := ih fun c hc => h c (List.mem_cons_of_mem _ hc)
      have hdigit : (c.toNat - 48) * 10 ^ digits.length ≤ 9 * 10 ^ digits.length :=
        Nat.mul_le_mul_right _ (by omega)
      rw [ofDigitChars_cons, List.length_cons, Nat.pow_succ]
      omega

theorem compare_encode_digits {digits digits' : List Char}
    (hlength : digits.length = digits'.length) (h : ∀ c ∈ digits, c.isDigit = true)
    (h' : ∀ c ∈ digits', c.isDigit = true) :
    compare (encode digits) (encode digits') =
      compare (Nat.ofDigitChars 10 digits 0) (Nat.ofDigitChars 10 digits' 0) := by
  rw [encode_digits h, encode_digits h']
  induction digits generalizing digits' with
  | nil =>
      obtain rfl := List.length_eq_zero_iff.mp hlength.symm
      rfl
  | cons c digits ih =>
      cases digits' with
      | nil => cases hlength
      | cons c' digits' =>
          have hlength := Nat.succ.inj hlength
          have hrest := fun c hc => h c (List.mem_cons_of_mem _ hc)
          have hrest' := fun c hc => h' c (List.mem_cons_of_mem _ hc)
          have hc := digit_bounds (h c List.mem_cons_self)
          have hc' := digit_bounds (h' c' List.mem_cons_self)
          have hdigit : compare (UInt8.ofNat c.toNat) (UInt8.ofNat c'.toNat) =
              compare ((c.toNat - 48 : Nat) : Int) ((c'.toNat - 48 : Nat) : Int) := by
            rw [← compare_toNat, UInt8.toNat_ofNat', UInt8.toNat_ofNat', Nat.mod_eq_of_lt (by omega),
              Nat.mod_eq_of_lt (by omega), compare_natCast, compare_sub hc.1 hc'.1]
          have hlt := ofDigitChars_lt hrest
          have hlt' := ofDigitChars_lt hrest'
          rw [← hlength] at hlt'
          rw [List.map_cons, List.map_cons, List.compare_cons_cons, ih hlength hrest hrest', hdigit,
            ofDigitChars_cons, ofDigitChars_cons, ← hlength, ← compare_natCast, ← compare_natCast,
            Int.natCast_add, Int.natCast_add, Int.natCast_mul, Int.natCast_mul,
            compare_base (by omega) (by omega)]

end Utf8

namespace LocalTime

-- What follows numbers of one width decides only where the numbers are the same.
theorem compare_encode_padded {width n m : Nat} (hwidth : 0 < width) (hn : n < 10 ^ width)
    (hm : m < 10 ^ width) (rest rest' : List Char) :
    compare (Utf8.encode (padded width n ++ rest)) (Utf8.encode (padded width m ++ rest')) =
      (compare n m).then (compare (Utf8.encode rest) (Utf8.encode rest')) := by
  have hlength : (padded width n).length = (padded width m).length :=
    (length_padded hwidth hn).trans (length_padded hwidth hm).symm
  have hdigits : ∀ n, ∀ c ∈ padded width n, c.isDigit = true :=
    fun n c hc => isDigit_of_mem_padded hc
  have hencoded : (Utf8.encode (padded width n)).length = (Utf8.encode (padded width m)).length := by
    rw [Utf8.encode_digits (hdigits n), Utf8.encode_digits (hdigits m), List.length_map,
      List.length_map, hlength]
  rw [Utf8.encode_append, Utf8.encode_append, compare_append hencoded,
    Utf8.compare_encode_digits hlength (hdigits n) (hdigits m), ofDigitChars_padded,
    ofDigitChars_padded]

-- A year that is shown without a sign has four digits.
theorem compare_yearDigits {year other : Int} (hyear : 0 ≤ year ∧ year ≤ 9999)
    (hother : 0 ≤ other ∧ other ≤ 9999) (rest rest' : List Char) :
    compare (Utf8.encode (yearDigits year ++ rest)) (Utf8.encode (yearDigits other ++ rest')) =
      (compare year other).then (compare (Utf8.encode rest) (Utf8.encode rest')) := by
  obtain ⟨n, rfl⟩ := Int.eq_ofNat_of_zero_le hyear.1
  obtain ⟨m, rfl⟩ := Int.eq_ofNat_of_zero_le hother.1
  rw [yearDigits, yearDigits, if_neg (by omega), if_neg (by omega), if_neg (by omega),
    if_neg (by omega), compare_encode_padded (by decide) (by omega) (by omega), compare_natCast,
    Int.natAbs_natCast, Int.natAbs_natCast]

-- Stamps are ordered as the local times that they show.
theorem compare_stamp {time other : LocalTime} (htime : time.TwoDigits) (hother : other.TwoDigits)
    (hyear : 0 ≤ time.year ∧ time.year ≤ 9999) (hyear' : 0 ≤ other.year ∧ other.year ≤ 9999)
    (rest rest' : List Char) :
    compare (Utf8.bytes time.stamp ++ Utf8.encode rest) (Utf8.bytes other.stamp ++ Utf8.encode rest') =
      (time.order other).then (compare (Utf8.encode rest) (Utf8.encode rest')) := by
  have hparts : ∀ (time : LocalTime) (rest : List Char), Utf8.bytes time.stamp ++ Utf8.encode rest =
      Utf8.encode (yearDigits time.year ++ (padded 2 time.month ++ (padded 2 time.day ++ (['_'] ++
        (padded 2 time.hour ++ (padded 2 time.minute ++ (padded 2 time.second ++ rest))))))) := by
    intro time rest
    rw [Utf8.bytes, stamp, String.toList_ofList, ← Utf8.encode_append]
    simp only [List.append_assoc]
  have hmark : ∀ rest rest', compare (Utf8.encode (['_'] ++ rest)) (Utf8.encode (['_'] ++ rest')) =
      compare (Utf8.encode rest) (Utf8.encode rest') := by
    intro rest rest'
    rw [Utf8.encode_append, Utf8.encode_append, compare_append rfl]
    rfl
  rw [hparts, hparts, compare_yearDigits hyear hyear',
    compare_encode_padded (by decide) htime.month hother.month,
    compare_encode_padded (by decide) htime.day hother.day, hmark,
    compare_encode_padded (by decide) htime.hour hother.hour,
    compare_encode_padded (by decide) htime.minute hother.minute,
    compare_encode_padded (by decide) htime.second hother.second]
  simp only [order, Ordering.then_assoc]

end LocalTime

end BoardSmoke
