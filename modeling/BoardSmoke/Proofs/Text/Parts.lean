import BoardSmoke.Proofs.Text.Utf8

namespace BoardSmoke.Utf8

-- Where a reader stands after some bytes.
def progressAfter : Progress → Bytes → Progress
  | progress, [] => progress
  | progress, byte :: rest => progressAfter (advance progress byte).2 rest

-- The bytes go on with the character that the reader stands in.
def Progress.goesOn : Progress → Bytes → Bool
  | .inside _ next _, byte :: _ => next.holds byte
  | _, _ => false

-- A part ends inside of a character, and the bytes after it go on with that.
def cutsApart : List Bytes → Bool
  | [] => false
  | part :: parts => (progressAfter .start part).goesOn parts.flatten || cutsApart parts

-- The end of the first bytes cuts off what they leave open, and the bytes after them do not.
theorem decodeFrom_append (progress : Progress) (first second : Bytes) :
    ∃ chars, decodeFrom progress first = chars ++ finish (progressAfter progress first) ∧
      decodeFrom progress (first ++ second) =
        chars ++ decodeFrom (progressAfter progress first) second := by
  induction first generalizing progress with
  | nil => exact ⟨[], rfl, rfl⟩
  | cons byte first ih =>
      obtain ⟨chars, hfirst, hboth⟩ := ih (advance progress byte).2
      refine ⟨(advance progress byte).1 ++ chars, ?_, ?_⟩
      · rw [List.append_assoc, progressAfter, ← hfirst]
        rfl
      · rw [List.append_assoc, progressAfter, ← hboth]
        rfl

-- What does not go on is read as if it stood alone.
theorem decodeFrom_of_not_goesOn {progress : Progress} {rest : Bytes}
    (h : progress.goesOn rest = false) :
    decodeFrom progress rest = finish progress ++ decode rest := by
  cases progress with
  | start => rfl
  | inside bits next later =>
      cases rest with
      | nil => rfl
      | cons byte rest =>
          have hbyte : next.holds byte = false := h
          simp [decodeFrom, advance, hbyte, finish, decode]

-- Inside of a character, only a byte that can do nothing else goes on with it.
private def Sound : Progress → Prop
  | .start => True
  | .inside _ next _ => 0x80 ≤ next.low.toNat ∧ next.high.toNat ≤ 0xBF

private theorem lead_sound (byte : UInt8) : Sound (lead byte).2 := by
  simp only [lead]
  repeat' split
  all_goals first
    | exact trivial
    | exact ⟨by decide, by decide⟩

private theorem advance_sound {progress : Progress} (h : Sound progress) (byte : UInt8) :
    Sound (advance progress byte).2 := by
  cases progress with
  | start => exact lead_sound byte
  | inside bits next later =>
      simp only [advance]
      split
      · cases later with
        | zero => trivial
        | succ later => exact ⟨by decide, by decide⟩
      · exact lead_sound byte

private theorem progressAfter_sound {progress : Progress} (h : Sound progress) (bytes : Bytes) :
    Sound (progressAfter progress bytes) := by
  induction bytes generalizing progress with
  | nil => exact h
  | cons byte bytes ih => exact ih (advance_sound h byte)

-- A byte that can only go on with a character is no character by itself.
private theorem decode_continuation {byte : UInt8} (hlow : 0x80 ≤ byte.toNat)
    (hhigh : byte.toNat ≤ 0xBF) (rest : Bytes) :
    decode (byte :: rest) = replacement :: decode rest := by
  have hlead : lead byte = ([replacement], .start) := by
    simp only [lead]
    rw [if_neg (by omega), if_neg (by omega), if_neg (by omega), if_neg (by omega),
      if_neg (by omega), if_neg (by omega), if_neg (by omega), if_neg (by omega)]
  simp [decode, decodeFrom, advance, hlead]

-- Bytes that go on with a character make fewer characters so than if they are read anew.
private theorem length_decodeFrom_lt {progress : Progress} (h : Sound progress) {rest : Bytes}
    (hgoesOn : progress.goesOn rest = true) :
    (decodeFrom progress rest).length < (finish progress).length + (decode rest).length := by
  induction rest generalizing progress with
  | nil => cases progress <;> cases hgoesOn
  | cons byte rest ih =>
      cases progress with
      | start => cases hgoesOn
      | inside bits next later =>
          have hbyte : next.holds byte = true := hgoesOn
          have hspan : next.low.toNat ≤ byte.toNat ∧ byte.toNat ≤ next.high.toNat := by
            simpa [Span.holds, UInt8.le_iff_toNat_le] using hbyte
          obtain ⟨hlow, hhigh⟩ := h
          rw [decode_continuation (by omega) (by omega)]
          cases later with
          | zero => simp [decodeFrom, advance, hbyte, finish, decode]
          | succ later =>
              have hsound : Sound (.inside (bits * 64 + (byte.toNat - 0x80)) .continuation later) :=
                ⟨by decide, by decide⟩
              have hstep : decodeFrom (.inside bits next (later + 1)) (byte :: rest) =
                  decodeFrom (.inside (bits * 64 + (byte.toNat - 0x80)) .continuation later) rest := by
                simp [decodeFrom, advance, hbyte]
              rw [hstep]
              cases hon : (Progress.inside (bits * 64 + (byte.toNat - 0x80)) .continuation
                  later).goesOn rest with
              | false => simp [decodeFrom_of_not_goesOn hon, finish]
              | true =>
                  have hless := ih hsound hon
                  simp only [finish, List.length_cons] at hless ⊢
                  omega

private theorem length_decode_append_le (part rest : Bytes) :
    (decode (part ++ rest)).length ≤ (decode part).length + (decode rest).length ∧
      ((decode (part ++ rest)).length = (decode part).length + (decode rest).length →
        (progressAfter .start part).goesOn rest = false) := by
  obtain ⟨chars, hpart, hboth⟩ := decodeFrom_append .start part rest
  have hstart : Sound .start := trivial
  have hsound : Sound (progressAfter .start part) := progressAfter_sound hstart part
  rw [decode, decode, hpart, hboth, List.length_append, List.length_append]
  cases hgoesOn : (progressAfter .start part).goesOn rest with
  | false =>
      rw [decodeFrom_of_not_goesOn hgoesOn, List.length_append]
      exact ⟨by omega, fun _ => rfl⟩
  | true =>
      have hless := length_decodeFrom_lt hsound hgoesOn
      exact ⟨by omega, by omega⟩

private theorem decode_append_of_not_goesOn {part rest : Bytes}
    (h : (progressAfter .start part).goesOn rest = false) :
    decode (part ++ rest) = decode part ++ decode rest := by
  obtain ⟨chars, hpart, hboth⟩ := decodeFrom_append .start part rest
  simp only [decode]
  rw [hboth, decodeFrom_of_not_goesOn h, ← List.append_assoc, ← hpart, decode]

-- Reading the whole makes no more characters than reading the parts.
private theorem length_decode_flatten_le (parts : List Bytes) :
    (decode parts.flatten).length ≤ (parts.flatMap decode).length := by
  induction parts with
  | nil => exact Nat.le_refl 0
  | cons part parts ih =>
      have hpart := (length_decode_append_le part parts.flatten).1
      rw [List.flatten_cons, List.flatMap_cons, List.length_append]
      omega

theorem flatMap_decode_eq_iff (parts : List Bytes) :
    parts.flatMap decode = decode parts.flatten ↔ cutsApart parts = false := by
  induction parts with
  | nil => exact iff_of_true rfl rfl
  | cons part parts ih =>
      rw [List.flatten_cons, List.flatMap_cons, cutsApart, Bool.or_eq_false_iff, ← ih]
      constructor
      · intro hsame
        have hlength := congrArg List.length hsame
        rw [List.length_append] at hlength
        obtain ⟨hle, honly⟩ := length_decode_append_le part parts.flatten
        have hparts := length_decode_flatten_le parts
        -- no characters can be spared in one place to make up for more of them in another
        have hwhole := honly (by omega)
        refine ⟨hwhole, ?_⟩
        rw [decode_append_of_not_goesOn hwhole] at hsame
        exact List.append_cancel_left hsame
      · rintro ⟨hwhole, hparts⟩
        rw [decode_append_of_not_goesOn hwhole, hparts]

theorem join_text_eq_iff (parts : List Bytes) :
    String.join (parts.map text) = text parts.flatten ↔ cutsApart parts = false := by
  have hjoin : (String.join (parts.map text)).toList = parts.flatMap decode := by
    induction parts with
    | nil => rfl
    | cons part parts ih => simp [ih, text]
  rw [← flatMap_decode_eq_iff, ← String.toList_inj, hjoin, text, String.toList_ofList]

end BoardSmoke.Utf8
