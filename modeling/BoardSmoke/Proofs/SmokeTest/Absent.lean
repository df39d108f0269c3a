import BoardSmoke.Proofs.Link.Scripted
import BoardSmoke.Proofs.Playback
import BoardSmoke.Proofs.SmokeTest.Commands
import BoardSmoke.Proofs.SmokeTest.Steps

namespace BoardSmoke

open Session Text

-- What a board that echoes answers when it lacks the parameter that it is to show.
def absentReply (name : String) : Bytes :=
  reply true ("param show " ++ name) (Shell.notFound name)

private theorem absentReply_toList (name : String) :
    (Utf8.text (absentReply name)).toList =
      ("param show ".toList ++ name.toList ++ ['\r']) ++ '\n' ::
        (("ERROR: param ".toList ++ name.toList ++ " not found".toList ++ ['\r']) ++ '\n' ::
          "nsh> ".toList) := by
  have hbytes : absentReply name = Utf8.bytes ("param show " ++ name ++ Shell.lineEnd ++
      ("ERROR: param " ++ name ++ " not found" ++ Shell.lineEnd) ++ "nsh> ") := by
    simp only [absentReply, reply, if_true, Shell.notFound, Shell.prompt, ← Utf8.bytes_append]
  rw [hbytes, Utf8.text_bytes]
  simp [Shell.lineEnd]

private theorem lines_absentReply {name : String} (hname : IsWord name.toList) :
    lines (Utf8.text (absentReply name)).toList =
      ["param".toList ++ ' ' :: ("show".toList ++ ' ' :: name.toList),
        "ERROR:".toList ++ ' ' :: ("param".toList ++ ' ' ::
          (name.toList ++ ' ' :: "not found".toList)),
        "nsh> ".toList] := by
  have hecho : '\n' ∉ "param show ".toList ++ name.toList ++ ['\r'] := by
    simp [hname.newline_notMem]
  have herror : '\n' ∉ "ERROR: param ".toList ++ name.toList ++ " not found".toList ++ ['\r'] := by
    simp [hname.newline_notMem]
  have hprompt : lines "nsh> ".toList = ["nsh> ".toList] :=
    lines_of_newline_notMem (by decide) (by decide)
  rw [absentReply_toList, lines_cons_of_newline_notMem hecho, lines_cons_of_newline_notMem herror,
    hprompt, dropReturn_append_return, dropReturn_append_return]
  simp

-- No value is read off the answer, unless the name is a start of its first or of its second line. Then
-- the second word of that line is taken for the value.
theorem Parameter.value?_absentReply {name : String} (hname : IsWord name.toList) :
    value? (Utf8.text (absentReply name)) name =
      if name.toList <+: "ERROR:".toList then some "param"
      else if name.toList <+: "param".toList then some "show" else none := by
  have hecho : valueOnLine? name.toList
      ("param".toList ++ ' ' :: ("show".toList ++ ' ' :: name.toList)) =
        if name.toList <+: "param".toList then some "show".toList else none := by
    simp only [valueOnLine?, List.isPrefixOf_iff_prefix,
      isPrefix_append_blank_iff hname.2 "param".toList (show isBlank ' ' = true by decide)]
    rw [words_cons (by decide) (by decide), words_cons (by decide) (by decide)]
    rfl
  have herror : valueOnLine? name.toList ("ERROR:".toList ++ ' ' :: ("param".toList ++ ' ' ::
      (name.toList ++ ' ' :: "not found".toList))) =
        if name.toList <+: "ERROR:".toList then some "param".toList else none := by
    simp only [valueOnLine?, List.isPrefixOf_iff_prefix,
      isPrefix_append_blank_iff hname.2 "ERROR:".toList (show isBlank ' ' = true by decide)]
    rw [words_cons (by decide) (by decide), words_cons (by decide) (by decide)]
    rfl
  have hprompt : valueOnLine? name.toList "nsh> ".toList = none :=
    valueOnLine?_eq_none (by decide)
  rw [value?, lines_absentReply hname]
  by_cases hsecond : name.toList <+: "ERROR:".toList
  · rw [if_pos hsecond] at herror ⊢
    rw [List.filterMap_cons, List.filterMap_cons, herror, List.filterMap_cons, hprompt]
    cases valueOnLine? name.toList _ with
    | none => rfl
    | some value => rfl
  · rw [if_neg hsecond] at herror ⊢
    rw [List.filterMap_cons, hecho, List.filterMap_cons, herror, List.filterMap_cons, hprompt]
    by_cases hfirst : name.toList <+: "param".toList
    · rw [if_pos hfirst, if_pos hfirst]
      rfl
    · rw [if_neg hfirst, if_neg hfirst]
      rfl

namespace SmokeTest

variable {ω : Type} {bench : Bench ω} {outlook : Outlook ω} {config : Config} {world : ω}

-- The parameter was left alone: its absence is reported, with the whole answer and a warning, no line
-- that sets a parameter was offered to the channel, and the board holds what it held before.
structure LeftAlone (bench : Bench ω) (outlook : Outlook ω) (config : Config) (world : ω)
    (report : Report) (after : ω) : Prop where
  missing : report.roundTrip = .missing (Utf8.text (absentReply config.parameter))
  warned : .parameterMissing config.parameter ∈ report.warnings
  unset : ∀ patience, ((run (bench.patient patience) config).runIn world).1 = .ok report →
    ∀ line ∈ attempted (effects (bench.patient patience) config world),
      ¬Utf8.bytes "param set" <+: line
  kept : (outlook.line after).parameters = (outlook.line world).parameters

-- How the parameter fared is decided by what is read off the board's denial.
theorem Fared.denied {before after : Parameters} {roundTrip : RoundTrip}
    (h : Fared (Denies config.parameter) config before roundTrip after)
    (hname : IsWord config.parameter.toList) (habsent : before config.parameter = none) :
    (Parameter.value? (Utf8.text (absentReply config.parameter)) config.parameter = none ∧
      roundTrip = .missing (Utf8.text (absentReply config.parameter)) ∧ after = before) ∨
    ∃ initial temporary updated restored,
      Parameter.value? (Utf8.text (absentReply config.parameter)) config.parameter = some initial ∧
      roundTrip = .completed initial temporary updated restored := by
  have hline : '\n' ∉ ("param show " ++ config.parameter).toList := by
    simp [hname.newline_notMem]
  cases h with
  | missing hshow hvalue =>
      obtain rfl := hshow.shown rfl habsent
      exact .inl ⟨hvalue, rfl, hshow.kept hline Console.not_sets_show⟩
  | completed hfirst hvalue _ _ _ _ _ =>
      obtain rfl := hfirst.shown rfl habsent
      exact .inr ⟨_, _, _, _, hvalue, rfl⟩

theorem absent_yields (h : bench.Working (Denies config.parameter) outlook)
    (hready : outlook.Ready world)
    (hdeadline : (Clock.deadline? (bench.now (captureStart bench config
      (bench.openChannel config (bench.flash world).2).2)).1 config.bootCapture).isSome = true) :
    ∃ report after,
      Yields (fun patience => run (bench.patient patience) config) world report after ∧
      report.warnings = Warning.ofBootLog report.bootLog ++
        Warning.ofRoundTrip config.parameter report.roundTrip ∧
      Fared (Denies config.parameter) config (outlook.line world).parameters report.roundTrip
        (outlook.line after).parameters := by
  obtain ⟨_, asked, report, after, hversion, hyields, hwarnings, hfared⟩ :=
    h.run_yields config hready hdeadline
  rw [hversion.kept (by decide) (by decide)] at hfared
  exact ⟨report, after, hyields, hwarnings, hfared⟩

private theorem not_sets_of_asks {line : Bytes}
    (h : line ∈ commandLines config none) : ¬Utf8.bytes "param set" <+: line := by
  have hlength : (Utf8.bytes "param set").length ≤ (Utf8.bytes "param show ").length := by decide
  rcases (by simpa [commandLines, commands] using h : line = _ ∨ line = _) with rfl | rfl
  · decide
  · intro hstart
    rw [Utf8.bytes_append, Utf8.bytes_append, List.append_assoc, List.prefix_iff_eq_take,
      List.take_append_of_le_length hlength] at hstart
    exact absurd hstart (by decide)

theorem leftAlone_of_missing {report : Report} {after : ω}
    (hwarnings : report.warnings = Warning.ofBootLog report.bootLog ++
      Warning.ofRoundTrip config.parameter report.roundTrip)
    (hmissing : report.roundTrip = .missing (Utf8.text (absentReply config.parameter)))
    (hkept : (outlook.line after).parameters = (outlook.line world).parameters) :
    LeftAlone bench outlook config world report after where
  missing := hmissing
  warned := by
    rw [hwarnings, hmissing, Warning.ofRoundTrip]
    exact List.mem_append_right _ (List.mem_singleton_self _)
  unset := by
    intro patience hreport line hline
    have hcourse := course_effects (bench.patient patience) config world
    rw [hreport] at hcourse
    rw [attempted_of_ok hcourse, hmissing, RoundTrip.initial?] at hline
    exact not_sets_of_asks hline
  kept := hkept

-- A parameter that the board lacks is left alone, unless its name is a start of "param", as in the
-- echo, or of "ERROR:". In those cases it is set twice.
theorem absent_left_alone_iff (h : bench.Working (Denies config.parameter) outlook)
    (hready : outlook.Ready world) (hname : IsWord config.parameter.toList)
    (habsent : (outlook.line world).parameters config.parameter = none)
    (hdeadline : (Clock.deadline? (bench.now (captureStart bench config
      (bench.openChannel config (bench.flash world).2).2)).1 config.bootCapture).isSome = true) :
    ∃ report after,
      Yields (fun patience => run (bench.patient patience) config) world report after ∧
      (LeftAlone bench outlook config world report after ↔
        ¬config.parameter.toList <+: "param".toList ∧
        ¬config.parameter.toList <+: "ERROR:".toList) := by
  obtain ⟨report, after, hyields, hwarnings, hfared⟩ := absent_yields h hready hdeadline
  refine ⟨report, after, hyields, ?_⟩
  have hread := Parameter.value?_absentReply hname
  rcases hfared.denied hname habsent with
    ⟨hnone, hmissing, hkept⟩ | ⟨_, _, _, _, hsome, htrip⟩
  · rw [hnone] at hread
    by_cases hsecond : config.parameter.toList <+: "ERROR:".toList
    · rw [if_pos hsecond] at hread
      cases hread
    rw [if_neg hsecond] at hread
    by_cases hfirst : config.parameter.toList <+: "param".toList
    · rw [if_pos hfirst] at hread
      cases hread
    exact iff_of_true (leftAlone_of_missing hwarnings hmissing hkept) ⟨hfirst, hsecond⟩
  · refine iff_of_false (fun hleft => ?_) fun ⟨hfirst, hsecond⟩ => ?_
    · cases htrip.symm.trans hleft.missing
    · rw [hsome, if_neg hsecond, if_neg hfirst] at hread
      cases hread

-- A board where P is 1 lacks Q.
theorem choppy_leaves_absent_alone :
    let config : Config := { Playback.config with parameter := "Q" }
    ∃ report after,
      Yields (fun patience => run ((Scripted.bench 0).patient patience) config)
        (Scripted.choppy, 0) report after ∧
      LeftAlone (Scripted.bench 0) (Scripted.outlook true) config (Scripted.choppy, 0) report after := by
  intro config
  have hname : IsWord config.parameter.toList := by decide
  have hready : (Scripted.outlook true).Ready (Scripted.choppy, 0) := ⟨_, Scripted.choppy_listens⟩
  obtain ⟨report, after, hyields, hleft⟩ := absent_left_alone_iff
    (Scripted.bench_working (Shell.allAnswer_denies hname) 0) hready hname (by decide) (by decide)
  exact ⟨report, after, hyields, hleft.mpr ⟨by decide, by decide⟩⟩

-- A parameter that the board lacks is not always left alone: one with the name E is taken to be
-- "param", which is the second word of the error.
theorem absent_not_always_left_alone :
    ¬∀ (bench : Bench (Scripted × Nat)) (outlook : Outlook (Scripted × Nat)) (config : Config)
      (world : Scripted × Nat),
      bench.Working (Denies config.parameter) outlook → outlook.Ready world →
      IsWord config.parameter.toList → (outlook.line world).parameters config.parameter = none →
      (Clock.deadline? (bench.now (captureStart bench config
        (bench.openChannel config (bench.flash world).2).2)).1 config.bootCapture).isSome = true →
      ∃ report after,
        Yields (fun patience => run (bench.patient patience) config) world report after ∧
        LeftAlone bench outlook config world report after := by
  intro h
  let config : Config := { Playback.config with parameter := "E" }
  have hname : IsWord config.parameter.toList := by decide
  have hworking : (Scripted.bench 0).Working (Denies config.parameter) (Scripted.outlook true) :=
    Scripted.bench_working (Shell.allAnswer_denies hname) 0
  have hready : (Scripted.outlook true).Ready (Scripted.choppy, 0) := ⟨_, Scripted.choppy_listens⟩
  have habsent : ((Scripted.outlook true).line (Scripted.choppy, 0)).parameters
      config.parameter = none := by
    decide
  obtain ⟨report, after, hyields, hleft⟩ :=
    h _ _ config _ hworking hready hname habsent (by decide)
  obtain ⟨report', after', hyields', _, hfared⟩ := absent_yields hworking hready (by decide)
  obtain ⟨rfl, rfl⟩ := hyields.unique hyields'
  have hvalue : Parameter.value? (Utf8.text (absentReply "E")) "E" = some "param" := by decide
  rcases hfared.denied hname habsent with ⟨hnone, _, _⟩ | ⟨_, _, _, _, _, htrip⟩
  · cases hvalue.symm.trans hnone
  · cases htrip.symm.trans hleft.missing

end SmokeTest

end BoardSmoke
