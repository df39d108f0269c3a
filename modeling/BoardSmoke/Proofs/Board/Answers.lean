import BoardSmoke.Board
import BoardSmoke.Proofs.Console
import BoardSmoke.Proofs.Parameter

namespace BoardSmoke

open Text

abbrev Parameters := String → Option String

def Parameters.set (parameters : Parameters) (name value : String) : Parameters := fun other =>
  if other = name then some value else parameters other

namespace Parameters

@[simp] theorem set_same (parameters : Parameters) (name value : String) :
    parameters.set name value name = some value := if_pos rfl

theorem set_other (parameters : Parameters) {name other : String} (h : other ≠ name)
    (value : String) : parameters.set name value other = parameters other := if_neg h

@[simp] theorem set_set (parameters : Parameters) (name first second : String) :
    (parameters.set name first).set name second = parameters.set name second := by
  funext other
  by_cases h : other = name <;> simp [set, h]

theorem set_eq_self {parameters : Parameters} {name value : String}
    (h : parameters name = some value) : parameters.set name value = parameters := by
  funext other
  by_cases hother : other = name
  · rw [hother, set_same, h]
  · exact set_other _ hother value

theorem isSome_set (parameters : Parameters) {name other : String} (value : String)
    (h : (parameters other).isSome) : (parameters.set name value other).isSome := by
  by_cases hother : other = name
  · rw [hother, set_same]
    rfl
  · rwa [set_other _ hother]

end Parameters

-- A whole answer: the echo, if the board echoes, the output and the prompt.
def reply (echo : Bool) (command : String) (output : Bytes) : Bytes :=
  (if echo then Utf8.bytes (command ++ Shell.lineEnd) else []) ++ output ++ Shell.prompt

def shownValue (name value : String) : Bytes :=
  Utf8.bytes (name ++ " " ++ value ++ " " ++ Shell.lineEnd)

-- A board that holds the parameters `before` answers a command and then holds `after`. It gives the
-- version in any form, shows the parameters that it has and gives them values. Nothing is said of
-- other commands, but that no parameter gets lost.
structure Answers (echo : Bool) (before : Parameters) (command : String) (answer : Bytes)
    (after : Parameters) : Prop where
  version : command = "ver all" →
    (∃ output, answer = reply echo command output) ∧ after = before
  shown : ∀ {name value : String}, IsWord name.toList → command = "param show " ++ name →
    before name = some value → answer = reply echo command (shownValue name value) ∧ after = before
  changed : ∀ {name value : String}, IsWord name.toList → IsWord value.toList →
    command = "param set " ++ name ++ " " ++ value → (before name).isSome →
    answer = reply echo command [] ∧ after = before.set name value
  kept : ∀ name, (before name).isSome → (after name).isSome

-- A board that lacks a parameter says so, behind an echo, when it is to show it. It changes its
-- parameters only when it is told to set one. Nothing is said of its other answers.
structure Denies (name : String) (before : Parameters) (command : String) (answer : Bytes)
    (after : Parameters) : Prop where
  shown : command = "param show " ++ name → before name = none →
    answer = reply true command (Shell.notFound name)
  kept : '\n' ∉ command.toList → ¬"param set".toList <+: command.toList → after = before

section

variable {echo : Bool} {before : Parameters} {name value : String}

theorem answers_version (output : Bytes) :
    Answers echo before "ver all" (reply echo "ver all" output) before where
  version _ := ⟨⟨output, rfl⟩, rfl⟩
  shown _ h _ := absurd h.symm Console.show_ne_version
  changed _ _ h _ := absurd h.symm Console.set_ne_version
  kept _ h := h

theorem answers_shown (hheld : before name = some value) :
    Answers echo before ("param show " ++ name)
      (reply echo ("param show " ++ name) (shownValue name value)) before where
  version h := absurd h Console.show_ne_version
  shown _ h hheld' := by
    obtain rfl := Console.show_injective h
    obtain rfl := Option.some.inj (hheld.symm.trans hheld')
    exact ⟨rfl, rfl⟩
  changed _ _ h _ := absurd h.symm Console.set_ne_show
  kept _ h := h

theorem answers_changed (hname : IsWord name.toList) (hvalue : IsWord value.toList) :
    Answers echo before ("param set " ++ name ++ " " ++ value)
      (reply echo ("param set " ++ name ++ " " ++ value) []) (before.set name value) where
  version h := absurd h Console.set_ne_version
  shown _ h _ := absurd h Console.set_ne_show
  changed hother hotherValue h _ := by
    obtain ⟨rfl, rfl⟩ := Console.set_injective hname hvalue hother hotherValue h
    exact ⟨rfl, rfl⟩
  kept _ := Parameters.isSome_set before value

end

-- A line is starting where nothing stands, or behind a newline.
def StartsLine (heading : Bytes) : Prop := heading = [] ∨ ∃ line, heading = line ++ [Board.newline]

theorem startsLine_echo (command : String) (stale : Bytes) :
    StartsLine (stale ++ Utf8.bytes (command ++ Shell.lineEnd)) := by
  refine .inr ⟨stale ++ Utf8.bytes (command ++ "\r"), ?_⟩
  rw [List.append_assoc, show command ++ Shell.lineEnd = command ++ "\r" ++ "\n" by
    rw [String.append_assoc]; rfl, Utf8.bytes_append _ "\n"]
  rfl

private theorem text_trailer (kept : Nat) :
    (Utf8.text ((Utf8.bytes (String.ofList Parameter.trailer)).take kept)).toList =
      Parameter.trailer.take kept := by
  have hlength : (Utf8.bytes (String.ofList Parameter.trailer)).length = 8 := by decide
  by_cases hkept : kept ≤ 8
  · have hall : ∀ kept ≤ 8,
        (Utf8.text ((Utf8.bytes (String.ofList Parameter.trailer)).take kept)).toList =
          Parameter.trailer.take kept := by decide
    exact hall kept hkept
  · rw [List.take_of_length_le (by omega), List.take_of_length_le (by simp [Parameter.trailer]; omega)]
    decide

-- A value that starts a line is read off an answer, also when some of what stands behind the value
-- is still to come.
theorem value?_of_heard {heading heard unread : Bytes} {name value : String}
    (hname : IsWord name.toList) (hvalue : IsWord value.toList) (hstart : StartsLine heading)
    (hbytes : heard ++ unread = heading ++ shownValue name value ++ Shell.prompt)
    (hunread : unread.length ≤ Parameter.trailer.length) :
    Parameter.value? (Utf8.text heard) name = some value := by
  let trailer := Utf8.bytes (String.ofList Parameter.trailer)
  have hlength : trailer.length = 8 := by decide
  let kept := trailer.length - unread.length
  have hwhole : shownValue name value ++ Shell.prompt =
      Utf8.bytes (name ++ " " ++ value) ++ trailer := by
    rw [shownValue, Shell.prompt, ← Utf8.bytes_append, ← Utf8.bytes_append]
    congr 1
    apply String.toList_inj.mp
    simp only [String.toList_append, List.append_assoc, String.toList_ofList]
    rfl
  have hsplit : heard ++ unread =
      (heading ++ Utf8.bytes (name ++ " " ++ value) ++ trailer.take kept) ++ trailer.drop kept := by
    rw [hbytes, List.append_assoc, hwhole, List.append_assoc, List.append_assoc,
      List.take_append_drop]
  have hheard : heard = heading ++ Utf8.bytes (name ++ " " ++ value) ++ trailer.take kept := by
    refine List.append_inj_left' hsplit ?_
    rw [List.length_drop, Nat.sub_sub_self]
    exact hlength ▸ hunread
  have htail : (Utf8.text (trailer.take kept)).toList <+: Parameter.trailer := by
    rw [text_trailer]
    exact List.take_prefix _ _
  rcases hstart with rfl | ⟨line, rfl⟩
  · have hvalue? := Parameter.value?_append "" hname hvalue (.inl rfl) htail
    rwa [hheard, List.nil_append, Utf8.text_bytes_append]
  · have hvalue? := Parameter.value?_append (Utf8.text line ++ "\n") hname hvalue
      (.inr ⟨_, rfl⟩) htail
    rw [Board.newline, List.append_assoc] at hheard
    rwa [hheard, Utf8.text_append_newline, Utf8.text_bytes_append, ← String.append_assoc]

-- A parameter that the board holds is read off its answer, with or without an echo.
theorem Answers.shows {echo : Bool} {before after : Parameters} {answer : Bytes}
    {name value : String} (h : Answers echo before ("param show " ++ name) answer after)
    (hname : IsWord name.toList) (hvalue : IsWord value.toList)
    (hheld : before name = some value) :
    Parameter.value? (Utf8.text answer) name = some value ∧ after = before := by
  obtain ⟨rfl, hsame⟩ := h.shown hname rfl hheld
  refine ⟨value?_of_heard hname hvalue ?_ (List.append_nil _) (Nat.zero_le _), hsame⟩
  cases echo
  · exact .inl rfl
  · exact startsLine_echo _ []

end BoardSmoke
