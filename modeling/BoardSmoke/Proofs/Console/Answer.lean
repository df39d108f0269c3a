import BoardSmoke.Proofs.Board.Answers
import BoardSmoke.Proofs.Parameter.Lines
import BoardSmoke.Proofs.Playback
import BoardSmoke.Proofs.Session

namespace BoardSmoke

open Text Session

variable {ω : Type} {channel : Channel ω} {world : ω} {settle : Duration} {bytes : Bytes}

theorem text_newline (line : Bytes) : Utf8.text (line ++ [Board.newline]) = Utf8.text line ++ "\n" := by
  have hcut := Utf8.text_append_newline line []
  rwa [List.append_nil, show Utf8.text [] = "" from rfl, String.append_empty] at hcut

-- Bytes that stand where a line starts are read as if nothing stood before them.
theorem StartsLine.text_append {heading : Bytes} (h : StartsLine heading) (rest : Bytes) :
    Utf8.text (heading ++ rest) = Utf8.text heading ++ Utf8.text rest := by
  rcases h with rfl | ⟨line, rfl⟩
  · rw [List.nil_append, show Utf8.text [] = "" from rfl, String.empty_append]
  · rw [text_newline]
    exact Utf8.text_append_newline line rest

theorem StartsLine.text_cases {heading : Bytes} (h : StartsLine heading) :
    Utf8.text heading = "" ∨ ∃ line, Utf8.text heading = line ++ "\n" := by
  rcases h with rfl | ⟨line, rfl⟩
  · exact .inl rfl
  · exact .inr ⟨Utf8.text line, text_newline line⟩

theorem text_shownValue_append (name value : String) (rest : Bytes) :
    Utf8.text (shownValue name value ++ rest) =
      name ++ " " ++ value ++ " \r" ++ "\n" ++ Utf8.text rest := by
  have hline : name ++ " " ++ value ++ " " ++ Shell.lineEnd = name ++ " " ++ value ++ " \r" ++ "\n" := by
    apply String.toList_inj.mp
    simp [Shell.lineEnd]
  rw [shownValue, Utf8.text_bytes_append, hline]

namespace Parameter

-- The answer is found behind anything that ends before it starts, and in front of anything that gives
-- no value.
theorem value?_of_shown {name value : String} {before after : Bytes} (hname : IsWord name.toList)
    (hvalue : IsWord value.toList) (hbefore : StartsLine before)
    (hafter : value? (Utf8.text after) name = none) :
    value? (Utf8.text (before ++ (shownValue name value ++ after))) name = some value := by
  have hreturn : '\r' ∉ name.toList := fun hmem => absurd (hname.2 _ hmem) (by decide)
  have htext : Utf8.text (before ++ (shownValue name value ++ after)) =
      Utf8.text before ++ (name ++ " " ++ value) ++ " \r" ++ "\n" ++ Utf8.text after := by
    rw [hbefore.text_append, text_shownValue_append]
    simp only [String.append_assoc]
  have htail : " \r".toList <+: trailer := by decide
  rw [htext, value?_append_newline hreturn, hafter, Option.none_or]
  exact value?_append (Utf8.text before) hname hvalue hbefore.text_cases htail

end Parameter

namespace Console

-- The command is written, and the one read after the time to settle gives the bytes.
def Hears (channel : Channel ω) (command : String) (settle : Duration) (world : ω) (bytes : Bytes) :
    Prop :=
  ∃ written heard,
    channel.write (commandLine command) (channel.note ⟨.debug, .console,
      "Sending " ++ Text.quoted command ++ ", settling for " ++ settle.text⟩ world) =
        (.ok (), written) ∧
    channel.readAvailable.runIn (channel.sleep settle written) = (.ok bytes, heard)

theorem send_of_hears {command : String} (h : Hears channel command settle world bytes) :
    ∃ after, (send channel command settle).runIn world = (.ok (Utf8.text bytes), after) := by
  obtain ⟨written, heard, hwrite, hread⟩ := h
  have hcall := runIn_call_ok_iff.mpr hwrite
  have hslept : (act (channel.sleep settle) : Session ω Fault Unit).runIn written =
      (.ok (), channel.sleep settle written) := rfl
  refine ⟨channel.note ⟨.trace, .console, "Received " ++ toString bytes.length ++
    " bytes in response to " ++ Text.quoted command⟩ heard, ?_⟩
  refine (runIn_bind_of_ok rfl).trans ((runIn_bind_of_ok hcall).trans ?_)
  exact (runIn_bind_of_ok hslept).trans ((runIn_bind_of_ok hread).trans rfl)

theorem fetch_of_hears {name : String}
    (h : Hears channel (showCommand name) settle world bytes) :
    ((fetch channel name settle).runIn world).1 =
      .ok ⟨Parameter.value? (Utf8.text bytes) name, Utf8.text bytes⟩ := by
  obtain ⟨after, hsend⟩ := send_of_hears h
  rw [fetch, runIn_bind_of_ok hsend]
  rfl

-- Whatever the channel is, and whatever bytes come before the line with the answer: they may be no text,
-- or other answers. Behind it, no line may start with the name and have two words.
theorem fetch_finds_answer (channel : Channel ω) (settle : Duration) (world : ω)
    {name value : String} {before after : Bytes} (hname : IsWord name.toList)
    (hvalue : IsWord value.toList) (hbefore : StartsLine before)
    (hafter : ∀ line ∈ lines (Utf8.decode after), name.toList <+: line → (words line).length < 2)
    (hheard : Hears channel (showCommand name) settle world
      (before ++ (shownValue name value ++ after))) :
    ((fetch channel name settle).runIn world).1 =
      .ok ⟨some value, Utf8.text (before ++ (shownValue name value ++ after))⟩ := by
  have hnone : Parameter.value? (Utf8.text after) name = none := by
    rw [Parameter.value?_eq_getLast?, Option.map_eq_none_iff, List.getLast?_eq_none_iff,
      Parameter.valuesIn, List.filterMap_eq_nil_iff, Utf8.text, String.toList_ofList]
    exact fun line hline => Parameter.valueOnLine?_eq_none_iff.mpr (hafter line hline)
  rw [fetch_of_hears hheard, Parameter.value?_of_shown hname hvalue hbefore hnone]

-- Before the answer there are a byte of no text, half of a character and another value, and behind it
-- the name alone and the prompt.
theorem noisy_answer_found :
    let before : Bytes := 0xFF :: 0xE2 :: Utf8.bytes "\r\nP 9 \r\n"
    let after : Bytes := Utf8.bytes "P\r\nnsh> "
    let bytes := before ++ (shownValue "P" "1" ++ after)
    let world : Playback := ⟨0, [.ok bytes.length], [.ok ⟨bytes, bytes.length⟩]⟩
    IsWord "P".toList ∧ IsWord "1".toList ∧ StartsLine before ∧
      (∀ line ∈ lines (Utf8.decode after), "P".toList <+: line → (words line).length < 2) ∧
      Hears (Playback.bench 9).toChannel (showCommand "P") .zero world bytes ∧
      ((fetch (Playback.bench 9).toChannel "P" .zero).runIn world).1 =
        .ok ⟨some "1", Utf8.text bytes⟩ := by
  intro before after bytes world
  have hname : IsWord "P".toList := by decide
  have hvalue : IsWord "1".toList := by decide
  have hbefore : StartsLine before :=
    .inr ⟨0xFF :: 0xE2 :: Utf8.bytes "\r\nP 9 \r", by decide⟩
  have hafter : ∀ line ∈ lines (Utf8.decode after),
      "P".toList <+: line → (words line).length < 2 := by decide
  have hheard : Hears (Playback.bench 9).toChannel (showCommand "P") .zero world bytes :=
    ⟨world, ⟨0, [], []⟩, rfl, rfl⟩
  exact ⟨hname, hvalue, hbefore, hafter, hheard,
    fetch_finds_answer _ .zero world hname hvalue hbefore hafter hheard⟩

end Console

end BoardSmoke
