import BoardSmoke.Text.Utf8

namespace BoardSmoke.Utf8

theorem encode_append (first second : List Char) :
    encode (first ++ second) = encode first ++ encode second :=
  List.flatMap_append

theorem bytes_append (first second : String) :
    bytes (first ++ second) = bytes first ++ bytes second := by
  rw [bytes, String.toList_append, encode_append, bytes, bytes]

theorem bytes_line (text : String) : bytes (text ++ "\n") = bytes text ++ [0x0A] :=
  bytes_append text "\n"

private theorem advance_last {bits n : Nat} {span : Span} {byte : UInt8}
    (hbyte : byte.toNat = n + 0x80) (hspan : span.low.toNat ≤ n + 0x80 ∧ n + 0x80 ≤ span.high.toNat) :
    advance (.inside bits span 0) byte = ([Char.ofNat (bits * 64 + n)], .start) := by
  simp [advance, Span.holds, UInt8.le_iff_toNat_le, hbyte, hspan]

private theorem advance_more {bits n later : Nat} {span : Span} {byte : UInt8}
    (hbyte : byte.toNat = n + 0x80) (hspan : span.low.toNat ≤ n + 0x80 ∧ n + 0x80 ≤ span.high.toNat) :
    advance (.inside bits span (later + 1)) byte =
      ([], .inside (bits * 64 + n) .continuation later) := by
  simp [advance, Span.holds, UInt8.le_iff_toNat_le, hbyte, hspan]

private theorem continuation_spans {n : Nat} (h : n < 0x40) :
    Span.continuation.low.toNat ≤ n + 0x80 ∧ n + 0x80 ≤ Span.continuation.high.toNat := by
  have hlow : Span.continuation.low.toNat = 0x80 := rfl
  have hhigh : Span.continuation.high.toNat = 0xBF := rfl
  omega

-- A character of two, three and four bytes, given the span of its second byte.
private theorem decodeFrom_two {n₁ n₀ : Nat} {first second : UInt8}
    (hlead : lead first = ([], .inside n₁ .continuation 0)) (hsecond : second.toNat = n₀ + 0x80)
    (h₀ : n₀ < 0x40) (rest : Bytes) :
    decodeFrom .start (first :: second :: rest) =
      Char.ofNat (n₁ * 64 + n₀) :: decodeFrom .start rest := by
  have hlast : advance (.inside n₁ .continuation 0) second = ([Char.ofNat (n₁ * 64 + n₀)], .start) :=
    advance_last hsecond (continuation_spans h₀)
  simp [decodeFrom, advance.eq_1, hlead, hlast]

private theorem decodeFrom_three {n₂ n₁ n₀ : Nat} {span : Span} {first second third : UInt8}
    (hlead : lead first = ([], .inside n₂ span 1)) (hsecond : second.toNat = n₁ + 0x80)
    (hspan : span.low.toNat ≤ n₁ + 0x80 ∧ n₁ + 0x80 ≤ span.high.toNat)
    (hthird : third.toNat = n₀ + 0x80) (h₀ : n₀ < 0x40) (rest : Bytes) :
    decodeFrom .start (first :: second :: third :: rest) =
      Char.ofNat ((n₂ * 64 + n₁) * 64 + n₀) :: decodeFrom .start rest := by
  have hmore : advance (.inside n₂ span 1) second =
      ([], .inside (n₂ * 64 + n₁) .continuation 0) := advance_more hsecond hspan
  have hlast : advance (.inside (n₂ * 64 + n₁) .continuation 0) third =
      ([Char.ofNat ((n₂ * 64 + n₁) * 64 + n₀)], .start) :=
    advance_last hthird (continuation_spans h₀)
  simp [decodeFrom, advance.eq_1, hlead, hmore, hlast]

private theorem decodeFrom_four {n₃ n₂ n₁ n₀ : Nat} {span : Span}
    {first second third fourth : UInt8}
    (hlead : lead first = ([], .inside n₃ span 2)) (hsecond : second.toNat = n₂ + 0x80)
    (hspan : span.low.toNat ≤ n₂ + 0x80 ∧ n₂ + 0x80 ≤ span.high.toNat)
    (hthird : third.toNat = n₁ + 0x80) (h₁ : n₁ < 0x40)
    (hfourth : fourth.toNat = n₀ + 0x80) (h₀ : n₀ < 0x40) (rest : Bytes) :
    decodeFrom .start (first :: second :: third :: fourth :: rest) =
      Char.ofNat (((n₃ * 64 + n₂) * 64 + n₁) * 64 + n₀) :: decodeFrom .start rest := by
  have hmore : advance (.inside n₃ span 2) second =
      ([], .inside (n₃ * 64 + n₂) .continuation 1) := advance_more hsecond hspan
  have hmore' : advance (.inside (n₃ * 64 + n₂) .continuation 1) third =
      ([], .inside ((n₃ * 64 + n₂) * 64 + n₁) .continuation 0) :=
    advance_more hthird (continuation_spans h₁)
  have hlast : advance (.inside ((n₃ * 64 + n₂) * 64 + n₁) .continuation 0) fourth =
      ([Char.ofNat (((n₃ * 64 + n₂) * 64 + n₁) * 64 + n₀)], .start) :=
    advance_last hfourth (continuation_spans h₀)
  simp [decodeFrom, advance.eq_1, hlead, hmore, hmore', hlast]

private theorem lead_two {n : Nat} {byte : UInt8} (hbyte : byte.toNat = n + 0xC0)
    (h : 2 ≤ n ∧ n < 0x20) : lead byte = ([], .inside n .continuation 0) := by
  simp only [lead, hbyte]
  rw [if_neg (by omega), if_pos (by omega), Nat.add_sub_cancel]

-- The span of a second byte leaves out what has a shorter form, and the surrogates.
private theorem lead_three {n : Nat} {byte : UInt8} (hbyte : byte.toNat = n + 0xE0) (h : n < 0x10) :
    ∃ span, lead byte = ([], .inside n span 1) ∧
      ∀ n' < 0x40, (n = 0 → 0x20 ≤ n') → (n = 0xD → n' < 0x20) →
        span.low.toNat ≤ n' + 0x80 ∧ n' + 0x80 ≤ span.high.toNat := by
  simp only [lead, hbyte]
  rw [if_neg (by omega), if_neg (by omega)]
  by_cases hzero : n = 0
  · rw [if_pos (by omega), hzero]
    refine ⟨_, rfl, fun n' _ _ _ => ?_⟩
    simp only [UInt8.reduceToNat]
    omega
  by_cases hsurrogate : n = 0xD
  · rw [if_neg (by omega), if_pos (by omega), hsurrogate]
    refine ⟨_, rfl, fun n' _ _ _ => ?_⟩
    simp only [UInt8.reduceToNat]
    omega
  · rw [if_neg (by omega), if_neg (by omega), if_pos (by omega), Nat.add_sub_cancel]
    exact ⟨_, rfl, fun n' hn' _ _ => continuation_spans hn'⟩

private theorem lead_four {n : Nat} {byte : UInt8} (hbyte : byte.toNat = n + 0xF0) (h : n < 5) :
    ∃ span, lead byte = ([], .inside n span 2) ∧
      ∀ n' < 0x40, (n = 0 → 0x10 ≤ n') → (n = 4 → n' < 0x10) →
        span.low.toNat ≤ n' + 0x80 ∧ n' + 0x80 ≤ span.high.toNat := by
  simp only [lead, hbyte]
  rw [if_neg (by omega), if_neg (by omega), if_neg (by omega), if_neg (by omega),
    if_neg (by omega)]
  by_cases hzero : n = 0
  · rw [if_pos (by omega), hzero]
    refine ⟨_, rfl, fun n' _ _ _ => ?_⟩
    simp only [UInt8.reduceToNat]
    omega
  by_cases hlast : n = 4
  · rw [if_neg (by omega), if_neg (by omega), if_pos (by omega), hlast]
    refine ⟨_, rfl, fun n' _ _ _ => ?_⟩
    simp only [UInt8.reduceToNat]
    omega
  · rw [if_neg (by omega), if_pos (by omega), Nat.add_sub_cancel]
    exact ⟨_, rfl, fun n' hn' _ _ => continuation_spans hn'⟩

private theorem toNat_ofNat_of_lt {n : Nat} (h : n < 0x100) : (UInt8.ofNat n).toNat = n := by
  rw [UInt8.toNat_ofNat', Nat.mod_eq_of_lt h]

theorem decodeFrom_utf8EncodeChar (c : Char) (rest : Bytes) :
    decodeFrom .start (String.utf8EncodeChar c ++ rest) = c :: decodeFrom .start rest := by
  have hvalid : c.toNat < 0xD800 ∨ (0xDFFF < c.toNat ∧ c.toNat < 0x110000) := c.valid
  have hchar : Char.ofNat c.toNat = c := Char.ofNat_toNat c
  unfold String.utf8EncodeChar
  rw [show c.val.toNat = c.toNat from rfl]
  generalize c.toNat = v at hvalid hchar ⊢
  have byte {n : Nat} (h : n < 0x100) : (UInt8.ofNat n).toNat = n := toNat_ofNat_of_lt h
  simp only
  by_cases hone : v ≤ 0x7F
  · rw [if_pos hone]
    simp [decodeFrom, advance, lead, byte (show v < 0x100 by omega), show v < 0x80 by omega, hchar]
  rw [if_neg hone]
  by_cases htwo : v ≤ 0x7FF
  · rw [if_pos htwo]
    refine (decodeFrom_two (lead_two (byte (by omega)) (by omega)) (byte (by omega)) (by omega)
      rest).trans ?_
    rw [show v / 64 % 0x20 * 64 + v % 0x40 = v by omega, hchar]
  rw [if_neg htwo]
  by_cases hthree : v ≤ 0xFFFF
  · rw [if_pos hthree]
    obtain ⟨span, hlead, hspan⟩ := lead_three (byte (show v / 4096 % 0x10 + 0xE0 < 0x100 by omega))
      (by omega)
    refine (decodeFrom_three hlead (byte (by omega))
      (hspan (v / 64 % 0x40) (by omega) (by omega) (by omega)) (byte (by omega)) (by omega)
      rest).trans ?_
    rw [show (v / 4096 % 0x10 * 64 + v / 64 % 0x40) * 64 + v % 0x40 = v by omega, hchar]
  · rw [if_neg hthree]
    obtain ⟨span, hlead, hspan⟩ := lead_four
      (byte (show v / 262144 % 0x08 + 0xF0 < 0x100 by omega)) (by omega)
    refine (decodeFrom_four hlead (byte (by omega))
      (hspan (v / 4096 % 0x40) (by omega) (by omega) (by omega)) (byte (by omega)) (by omega)
      (byte (by omega)) (by omega) rest).trans ?_
    rw [show ((v / 262144 % 0x08 * 64 + v / 4096 % 0x40) * 64 + v / 64 % 0x40) * 64 + v % 0x40 = v
      by omega, hchar]

theorem decode_encode_append (chars : List Char) (rest : Bytes) :
    decode (encode chars ++ rest) = chars ++ decode rest := by
  induction chars with
  | nil => rfl
  | cons c chars ih =>
      rw [encode, List.flatMap_cons, List.append_assoc, decode, decodeFrom_utf8EncodeChar]
      exact congrArg (c :: ·) ih

-- What was written first is read first, whatever follows.
theorem text_bytes_append (text' : String) (rest : Bytes) :
    text (bytes text' ++ rest) = text' ++ text rest := by
  rw [text, bytes, decode_encode_append, String.ofList_append, String.ofList_toList, text]

theorem decode_bytes (text' : String) : decode (bytes text') = text'.toList := by
  simpa [bytes, decode, decodeFrom, finish] using decode_encode_append text'.toList []

theorem text_bytes (text' : String) : text (bytes text') = text' := by
  rw [text, decode_bytes, String.ofList_toList]

-- A byte that continues a character is not a newline, wherever the reader stands.
private def Proper : Progress → Prop
  | .start => True
  | .inside _ span _ => 0x0A < span.low.toNat

private theorem lead_proper (byte : UInt8) : Proper (lead byte).2 := by
  simp only [lead]
  repeat' split
  all_goals first
    | trivial
    | (change 0x0A < UInt8.toNat _; decide)

private theorem advance_proper {progress : Progress} (h : Proper progress) (byte : UInt8) :
    Proper (advance progress byte).2 := by
  cases progress with
  | start => exact lead_proper byte
  | inside bits span later =>
      simp only [advance]
      split
      · cases later with
        | zero => trivial
        | succ later => exact (by decide : 0x0A < Span.continuation.low.toNat)
      · exact lead_proper byte

-- A newline ends whatever was being read.
private theorem decodeFrom_append_newline {progress : Progress} (h : Proper progress)
    (line rest : Bytes) :
    decodeFrom progress (line ++ 0x0A :: rest) =
      decodeFrom progress line ++ '\n' :: decodeFrom .start rest := by
  induction line generalizing progress with
  | nil =>
      cases progress with
      | start => rfl
      | inside bits span later =>
          have hlow : ¬span.low ≤ 0x0A := fun hle =>
            Nat.not_le_of_lt h (UInt8.le_iff_toNat_le.mp hle)
          have hnewline : lead 0x0A = (['\n'], .start) := rfl
          simp [decodeFrom, advance, Span.holds, hlow, hnewline, finish]
  | cons byte line ih => simp [decodeFrom, ih (advance_proper h byte)]

-- What stands behind a newline is read as if nothing stood before it.
theorem text_append_newline (line rest : Bytes) :
    text (line ++ [0x0A] ++ rest) = text line ++ "\n" ++ text rest := by
  have hstart : Proper .start := trivial
  have hcut : decode (line ++ 0x0A :: rest) = decode line ++ '\n' :: decode rest :=
    decodeFrom_append_newline hstart line rest
  apply String.toList_inj.mp
  rw [List.append_assoc, List.singleton_append]
  simp [text, hcut]

theorem bytes_injective {first second : String} (h : bytes first = bytes second) :
    first = second := by
  rw [← text_bytes first, h, text_bytes]

-- Only an ASCII character itself is written with its byte.
theorem ascii_notMem_utf8EncodeChar {c mark : Char} (hmark : mark.toNat < 0x80) (h : c ≠ mark) :
    UInt8.ofNat mark.toNat ∉ String.utf8EncodeChar c := by
  have hne : c.toNat ≠ mark.toNat := fun hc => h (Char.toNat_inj.mp hc)
  unfold String.utf8EncodeChar
  rw [show c.val.toNat = c.toNat from rfl]
  generalize c.toNat = v at hne
  generalize mark.toNat = m at hmark hne
  have other {n : Nat} (h : n % 0x100 ≠ m) : UInt8.ofNat m ≠ UInt8.ofNat n := by
    rw [ne_eq, ← UInt8.toNat_inj, UInt8.toNat_ofNat', UInt8.toNat_ofNat']
    omega
  simp only
  split
  · simp only [List.mem_singleton]
    exact other (by omega)
  split
  · simp only [List.mem_cons, List.not_mem_nil, not_or, not_false_eq_true, and_true]
    exact ⟨other (by omega), other (by omega)⟩
  split
  · simp only [List.mem_cons, List.not_mem_nil, not_or, not_false_eq_true, and_true]
    exact ⟨other (by omega), other (by omega), other (by omega)⟩
  · simp only [List.mem_cons, List.not_mem_nil, not_or, not_false_eq_true, and_true]
    exact ⟨other (by omega), other (by omega), other (by omega), other (by omega)⟩

theorem ascii_notMem_bytes {text : String} {mark : Char} (hmark : mark.toNat < 0x80)
    (h : mark ∉ text.toList) : UInt8.ofNat mark.toNat ∉ bytes text := by
  intro hmem
  obtain ⟨c, hc, hbyte⟩ := List.mem_flatMap.mp hmem
  exact ascii_notMem_utf8EncodeChar hmark (fun heq => h (heq ▸ hc)) hbyte

theorem newline_notMem_bytes {line : String} (h : '\n' ∉ line.toList) : 0x0A ∉ bytes line :=
  ascii_notMem_bytes (by decide) h

end BoardSmoke.Utf8
