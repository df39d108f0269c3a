import BoardSmoke.CommandLine.Parser
import BoardSmoke.Proofs.Console
import BoardSmoke.Proofs.Number.Seconds

namespace BoardSmoke

namespace Utf8

theorem text_eq_of_text? {bytes : Bytes} {text' : String} (h : text? bytes = some text') :
    text bytes = text' := by
  simp only [text?] at h
  split at h
  · exact Option.some.inj h
  · cases h

theorem text?_bytes (text' : String) : text? (bytes text') = some text' := by
  have hbytes : encode text'.toList = bytes text' := rfl
  rw [text?, decode_bytes, if_pos hbytes, String.ofList_toList]

end Utf8

inductive SettingValue where
  | text (text : String)
  | path (path : Bytes)
  | natural (number : Nat)
  | seconds (duration : Duration)
  deriving DecidableEq

def Config.get (config : Config) : Setting → SettingValue
  | .serialDevice => .text config.device
  | .baudRate => .natural config.baudRate
  | .readTimeout => .seconds config.readTimeout
  | .buildTool => .text config.buildTool
  | .buildTarget => .text config.buildTarget
  | .bootCapture => .seconds config.bootCapture
  | .versionSettle => .seconds config.versionSettle
  | .paramSettle => .seconds config.showSettle
  | .setSettle => .seconds config.setSettle
  | .logRoot => .path config.logRoot
  | .paramName => .text config.parameter
  | .probeValue => .text config.probeValue
  | .fallbackValue => .text config.fallbackValue

namespace Setting

variable {now : Nat} {setting : Setting} {value : Bytes}

-- What a value is read as, whatever the other options are.
def read? (now : Nat) (setting : Setting) (value : Bytes) : Option SettingValue :=
  match setting.form with
  | .path => some (.path value)
  | .text => (Utf8.text? value).map .text
  | .natural =>
    (Utf8.text? value).bind fun text => (Natural.parse baudLimit text).toOption.map .natural
  | .seconds => (Utf8.text? value).bind fun text => (Seconds.parse now text).toOption.map .seconds

private theorem accepts_of_read {ε α : Type} {parser : String → Except ε α} {f : α → SettingValue}
    {read : SettingValue}
    (h : ((Utf8.text? value).bind fun text => (parser text).toOption.map f) = some read) :
    ∃ text a, Utf8.text? value = some text ∧ parser text = .ok a ∧ f a = read := by
  simp only [Option.bind_eq_some_iff, Option.map_eq_some_iff] at h
  obtain ⟨text, htext, a, ha, hread⟩ := h
  cases hparse : parser text with
  | error error => simp [hparse, Except.toOption] at ha
  | ok a' =>
      obtain rfl : a' = a := by simpa [hparse, Except.toOption] using ha
      exact ⟨text, a', htext, hparse, hread⟩

theorem check_of_read? {read : SettingValue} (h : setting.read? now value = some read) :
    setting.check now (Utf8.text value) = .ok () := by
  simp only [read?] at h
  cases hform : setting.form with
  | text => simp [check, hform]
  | path => simp [check, hform]
  | natural =>
      simp only [hform] at h
      obtain ⟨text, number, htext, hparse, -⟩ := accepts_of_read h
      simp only [check, hform, Utf8.text_eq_of_text? htext, hparse]
  | seconds =>
      simp only [hform] at h
      obtain ⟨text, duration, htext, hparse, -⟩ := accepts_of_read h
      simp only [check, hform, Utf8.text_eq_of_text? htext, hparse]

end Setting

namespace Seconds

-- The nanoseconds of a number of seconds, if no duration is too short for it.
def ofDecimal? (number : Decimal) : Option Nat :=
  number.steps?.bind fun steps =>
    if steps < limit * Binary64.stepsPerUnit then some (nanoseconds steps) else none

theorem parse_decimal {now count : Nat} {text : String} {number : Decimal}
    (hliteral : Literal.parse? text = some (.decimal number))
    (hsign : number.negative = false) (hcount : ofDecimal? number = some count)
    (hclock : now + count < Clock.limit) : parse now text = .ok ⟨count⟩ := by
  obtain ⟨steps, hsteps, hsize⟩ := Option.bind_eq_some_iff.mp hcount
  by_cases hfits : steps < limit * Binary64.stepsPerUnit
  · rw [if_pos hfits] at hsize
    have hnanoseconds := Option.some.inj hsize
    have hpositive : number.negative = true → steps = 0 := by
      rw [hsign]
      exact fun h => absurd h Bool.false_ne_true
    exact parse_eq_ok_iff.mpr ⟨number, steps, hliteral, hsteps, hpositive,
      ofSteps_eq_ok_iff.mpr ⟨hfits, by rwa [hnanoseconds], by rw [hnanoseconds]⟩⟩
  · rw [if_neg hfits] at hsize
    cases hsize

end Seconds

namespace Setting

variable {now : Nat}

private theorem read?_text {setting : Setting} {text : String} (hform : setting.form = .text) :
    setting.read? now (Utf8.bytes text) = some (.text text) := by
  simp only [read?, hform, Utf8.text?_bytes, Option.map_some]

private theorem read?_decimal {setting : Setting} {text : String} (number : Decimal) {count : Nat}
    (hform : setting.form = .seconds) (hliteral : Literal.parse? text = some (.decimal number))
    (hsign : number.negative = false)
    (hcount : Seconds.ofDecimal? number = some count) (hclock : now + count < Clock.limit) :
    setting.read? now (Utf8.bytes text) = some (.seconds ⟨count⟩) := by
  simp only [read?, hform]
  rw [Utf8.text?_bytes, Option.bind_some,
    Seconds.parse_decimal hliteral hsign hcount hclock]
  rfl

-- The defaults are the standard settings, as long as the clock reaches the longest of them.
theorem read?_defaultText (setting : Setting)
    (hclock : now + Config.standard.bootCapture.nanoseconds < Clock.limit) :
    setting.read? now (Utf8.bytes setting.defaultText) = some (Config.standard.get setting) := by
  have hreached {duration : Duration}
      (h : duration.nanoseconds ≤ Config.standard.bootCapture.nanoseconds) :
      now + duration.nanoseconds < Clock.limit := by omega
  cases setting with
  | readTimeout =>
      exact read?_decimal ⟨false, 5, -1⟩ rfl (by decide +kernel) rfl
        (by decide +kernel) (hreached (by decide))
  | bootCapture =>
      exact read?_decimal ⟨false, 6, 0⟩ rfl (by decide +kernel) rfl
        (by decide +kernel) (hreached (by decide))
  | versionSettle =>
      exact read?_decimal ⟨false, 25, -1⟩ rfl (by decide +kernel) rfl
        (by decide +kernel) (hreached (by decide))
  | paramSettle =>
      exact read?_decimal ⟨false, 10, -1⟩ rfl (by decide +kernel) rfl
        (by decide +kernel) (hreached (by decide))
  | setSettle =>
      exact read?_decimal ⟨false, 15, -1⟩ rfl (by decide +kernel) rfl
        (by decide +kernel) (hreached (by decide))
  | baudRate =>
      have hparse : (Natural.parse baudLimit "115200").toOption = some 115200 := by
        decide +kernel
      have htext : Utf8.text? (Utf8.bytes "115200") = some "115200" := Utf8.text?_bytes _
      simp only [read?, form, defaultText, htext, Option.bind_some, hparse]
      rfl
  | logRoot => rfl
  | _ => exact read?_text rfl

end Setting

namespace CommandLine

section Config

variable {now : Nat} {value : Setting → Bytes}

private theorem text_of_read {setting : Setting} (hform : setting.form = .text)
    (h : (setting.read? now (value setting)).isSome = true) :
    ∃ text, Utf8.text? (value setting) = some text := by
  simp only [Setting.read?, hform, Option.isSome_map] at h
  exact Option.isSome_iff_exists.mp h

private theorem parsed_of_read {ε α : Type} {parser : String → Except ε α} {f : α → SettingValue}
    {setting : Setting}
    (hparser : setting.read? now (value setting) =
      (Utf8.text? (value setting)).bind fun text => (parser text).toOption.map f)
    (h : (setting.read? now (value setting)).isSome = true) :
    ∃ text a, Utf8.text? (value setting) = some text ∧ parser text = .ok a := by
  obtain ⟨read, hread⟩ := Option.isSome_iff_exists.mp h
  obtain ⟨text, a, htext, hparse, -⟩ := Setting.accepts_of_read (hparser.symm.trans hread)
  exact ⟨text, a, htext, hparse⟩

private theorem ok_bind {α β : Type} (a : α) (next : α → Except Refusal β) :
    (Except.ok a >>= next) = next a := rfl

private theorem mapError_ok {ε α : Type} (f : ε → Refusal) (a : α) :
    (Except.ok a).mapError f = .ok a := rfl

-- Values that can be read make up the settings, each the one that it is for.
theorem config_ok (h : ∀ setting, (Setting.read? now setting (value setting)).isSome = true) :
    ∃ settings, config now value = .ok settings ∧
      ∀ setting, Setting.read? now setting (value setting) = some (settings.get setting) := by
  obtain ⟨device, hdevice⟩ := text_of_read rfl (h .serialDevice)
  obtain ⟨baudText, baudRate, hbaudText, hbaudRate⟩ := parsed_of_read rfl (h .baudRate)
  obtain ⟨readText, readTimeout, hreadText, hreadTimeout⟩ := parsed_of_read rfl (h .readTimeout)
  obtain ⟨buildTool, hbuildTool⟩ := text_of_read rfl (h .buildTool)
  obtain ⟨buildTarget, hbuildTarget⟩ := text_of_read rfl (h .buildTarget)
  obtain ⟨bootText, bootCapture, hbootText, hbootCapture⟩ := parsed_of_read rfl (h .bootCapture)
  obtain ⟨versionText, versionSettle, hversionText, hversionSettle⟩ :=
    parsed_of_read rfl (h .versionSettle)
  obtain ⟨showText, showSettle, hshowText, hshowSettle⟩ := parsed_of_read rfl (h .paramSettle)
  obtain ⟨setText, setSettle, hsetText, hsetSettle⟩ := parsed_of_read rfl (h .setSettle)
  obtain ⟨parameter, hparameter⟩ := text_of_read rfl (h .paramName)
  obtain ⟨probeValue, hprobeValue⟩ := text_of_read rfl (h .probeValue)
  obtain ⟨fallbackValue, hfallbackValue⟩ := text_of_read rfl (h .fallbackValue)
  refine ⟨⟨device, baudRate, readTimeout, buildTool, buildTarget, bootCapture, versionSettle,
    showSettle, setSettle, value .logRoot, parameter, probeValue, fallbackValue⟩, ?_,
    fun setting => ?_⟩
  · simp only [config, ok_bind, mapError_ok, hdevice, hbaudText, hbaudRate, hreadText,
      hreadTimeout, hbuildTool, hbuildTarget, hbootText, hbootCapture, hversionText, hversionSettle,
      hshowText, hshowSettle, hsetText, hsetSettle, hparameter, hprobeValue, hfallbackValue]
  · cases setting <;>
      simp [Setting.read?, Setting.form, Config.get, Except.toOption, hdevice, hbaudText,
        hbaudRate, hreadText, hreadTimeout, hbuildTool, hbuildTarget, hbootText, hbootCapture,
        hversionText, hversionSettle, hshowText, hshowSettle, hsetText, hsetSettle, hparameter,
        hprobeValue, hfallbackValue]

end Config

end CommandLine

end BoardSmoke
