import BoardSmoke.Proofs.Text.Blank
import BoardSmoke.Proofs.Text.Utf8
import BoardSmoke.SmokeTest

namespace BoardSmoke

theorem Clock.deadline?_of_lt {start : Nat} {window : Duration}
    (h : start + window.nanoseconds < limit) :
    deadline? start window = some (start + window.nanoseconds) := if_pos h

namespace Console

variable {name value : String}

theorem commandLine_eq (command : String) : commandLine command = Utf8.bytes (command ++ "\n") := by
  rw [commandLine, Utf8.bytes_line]

theorem line_injective {first second : String}
    (h : Utf8.bytes (first ++ "\n") = Utf8.bytes (second ++ "\n")) : first = second := by
  rw [Utf8.bytes_line, Utf8.bytes_line] at h
  exact Utf8.bytes_injective (List.append_cancel_right h)

theorem show_ne_version : "param show " ++ name ≠ "ver all" := by
  intro h
  have hchars := congrArg String.toList h
  simp at hchars

theorem set_ne_version : "param set " ++ name ++ " " ++ value ≠ "ver all" := by
  intro h
  have hchars := congrArg String.toList h
  simp at hchars

theorem not_sets_show : ¬"param set".toList <+: ("param show " ++ name).toList := by
  simp

theorem set_ne_show {other : String} :
    "param set " ++ name ++ " " ++ value ≠ "param show " ++ other := by
  intro h
  have hchars := congrArg String.toList h
  simp at hchars

theorem show_injective {other : String} (h : "param show " ++ name = "param show " ++ other) :
    name = other := by
  have hchars := congrArg String.toList h
  exact String.toList_inj.mp (by simpa using hchars)

-- Of words, what a command sets can be told apart.
theorem set_injective {other otherValue : String} (hname : Text.IsWord name.toList)
    (hvalue : Text.IsWord value.toList) (hother : Text.IsWord other.toList)
    (hotherValue : Text.IsWord otherValue.toList)
    (h : "param set " ++ name ++ " " ++ value = "param set " ++ other ++ " " ++ otherValue) :
    name = other ∧ value = otherValue := by
  have hchars := congrArg String.toList h
  have hrest : name.toList ++ ' ' :: value.toList = other.toList ++ ' ' :: otherValue.toList := by
    simpa using hchars
  have hwords := congrArg Text.words hrest
  rw [Text.words_cons hname (by decide), Text.words_cons hother (by decide),
    Text.words_of_isWord hvalue, Text.words_of_isWord hotherValue] at hwords
  simpa [String.toList_inj] using hwords

theorem line_newline {command : String} (h : '\n' ∉ command.toList) :
    (Utf8.bytes (command ++ "\n")).count 0x0A = 1 ∧
      (Utf8.bytes (command ++ "\n")).getLast? = some 0x0A := by
  have hfree := List.count_eq_zero.mpr (Utf8.newline_notMem_bytes h)
  rw [Utf8.bytes_line]
  constructor
  · rw [List.count_append, hfree]
    rfl
  · rw [List.getLast?_concat]

-- A line that sets a parameter to a value is read as four words, the last of which is the value.
theorem words_setting (hname : Text.IsWord name.toList) (hvalue : Text.IsWord value.toList) :
    Text.words (Utf8.decode (Utf8.bytes ("param set " ++ name ++ " " ++ value ++ "\n"))) =
      ["param".toList, "set".toList, name.toList, value.toList] := by
  have hline : Utf8.decode (Utf8.bytes ("param set " ++ name ++ " " ++ value ++ "\n")) =
      "param".toList ++ ' ' :: ("set".toList ++ ' ' :: (name.toList ++ ' ' ::
        (value.toList ++ '\n' :: []))) := by
    rw [Utf8.decode_bytes]
    simp
  rw [hline, Text.words_cons (by decide) (by decide), Text.words_cons (by decide) (by decide),
    Text.words_cons hname (by decide), Text.words_cons hvalue (by decide)]
  rfl

end Console

end BoardSmoke
