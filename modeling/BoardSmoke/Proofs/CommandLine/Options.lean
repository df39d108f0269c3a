import BoardSmoke.Proofs.CommandLine.Setting
import BoardSmoke.Proofs.CommandLine.Spelling

namespace BoardSmoke.CommandLine

variable {now : Nat} {environment : String → Option Bytes} {options : List (Setting × Bytes)}
  {arguments : List Bytes} {setting : Setting} {value : Bytes}

theorem mem_all (setting : Setting) : setting ∈ Setting.all := by
  cases setting <;> decide

-- Either all is accepted, or something that is not ends the checks.
theorem forM_ok_or_error {ε α : Type} (f : α → Except ε Unit) (list : List α) :
    (list.forM f = .ok () ∧ ∀ a ∈ list, f a = .ok ()) ∨
      ∃ a ∈ list, ∃ error, f a = .error error ∧ list.forM f = .error error := by
  induction list with
  | nil => exact .inl ⟨rfl, List.forall_mem_nil _⟩
  | cons a list ih =>
      cases ha : f a with
      | error error =>
          refine .inr ⟨a, List.mem_cons_self, error, ha, ?_⟩
          change (f a >>= fun _ => list.forM f) = _
          rw [ha]
          rfl
      | ok _ =>
          have hrest : (a :: list).forM f = list.forM f := by
            change (f a >>= fun _ => list.forM f) = _
            rw [ha]
            rfl
          rw [hrest]
          rcases ih with ⟨hok, hall⟩ | ⟨b, hmem, error, hb, herror⟩
          · exact .inl ⟨hok, List.forall_mem_cons.mpr ⟨ha, hall⟩⟩
          · exact .inr ⟨b, List.mem_cons_of_mem _ hmem, error, hb, herror⟩

def asGiven (options : List (Setting × Bytes)) : List Given :=
  options.map fun option => ⟨option.1, some option.2⟩

theorem filter_asGiven (options : List (Setting × Bytes)) (setting : Setting) :
    (asGiven options).filter (·.setting = setting) =
      asGiven (options.filter (·.1 = setting)) := by
  rw [asGiven, List.filter_map]
  rfl

theorem filter_of_notMem (hnone : setting ∉ options.map Prod.fst) :
    options.filter (·.1 = setting) = [] := by
  rw [List.filter_eq_nil_iff]
  intro option hoption
  simp only [decide_eq_true_eq]
  rintro rfl
  exact hnone (List.mem_map.mpr ⟨option, hoption, rfl⟩)

theorem filter_of_once (honce : (options.map Prod.fst).Nodup)
    (hmem : (setting, value) ∈ options) :
    options.filter (·.1 = setting) = [(setting, value)] := by
  induction options with
  | nil => cases hmem
  | cons option options ih =>
      obtain ⟨hfirst, hlater⟩ := List.nodup_cons.mp honce
      rcases List.mem_cons.mp hmem with rfl | hmem
      · rw [List.filter_cons_of_pos (by simp), filter_of_notMem hfirst]
      · have hother : option.1 ≠ setting := by
          rintro rfl
          exact hfirst (List.mem_map.mpr ⟨_, hmem, rfl⟩)
        rw [List.filter_cons_of_neg (by simpa using hother), ih hlater hmem]

theorem values_of_mem (honce : (options.map Prod.fst).Nodup) (hmem : (setting, value) ∈ options) :
    values environment (asGiven options) setting =
      value :: (environment setting.environment).toList := by
  rw [values, filter_asGiven, filter_of_once honce hmem]
  rfl

theorem values_of_notMem (hnone : setting ∉ options.map Prod.fst) :
    values environment (asGiven options) setting =
      [(environment setting.environment).getD (Utf8.bytes setting.defaultText)] := by
  rw [values, filter_asGiven, filter_of_notMem hnone]
  cases environment setting.environment <;> rfl

-- A setting has the value of its option, or else of its variable, or else the standard one.
structure Settled (now : Nat) (environment : String → Option Bytes)
    (options : List (Setting × Bytes)) (config : Config) (setting : Setting) : Prop where
  given : ∀ value, (setting, value) ∈ options →
    setting.read? now value = some (config.get setting)
  variable_ : setting ∉ options.map Prod.fst → ∀ value ∈ environment setting.environment,
    setting.read? now value = some (config.get setting)
  standard : setting ∉ options.map Prod.fst → environment setting.environment = none →
    config.get setting = Config.standard.get setting

-- What the command line takes precedence over is accepted nevertheless.
def OverriddenAccepted (now : Nat) (environment : String → Option Bytes)
    (options : List (Setting × Bytes)) : Prop :=
  ∀ option ∈ options, ∀ value ∈ environment option.1.environment,
    option.1.check now (Utf8.text value) = .ok ()

-- Each option has a value of its own that can be read, and so has each variable that counts.
structure Assigned (now : Nat) (environment : String → Option Bytes)
    (options : List (Setting × Bytes)) : Prop where
  once : (options.map Prod.fst).Nodup
  plain : ∀ option ∈ options, IsPlain option.2
  given : ∀ option ∈ options, (option.1.read? now option.2).isSome = true
  variable_ : ∀ setting, setting ∉ options.map Prod.fst →
    ∀ value ∈ environment setting.environment, (setting.read? now value).isSome = true

namespace Assigned

-- The value that counts can be read, and what is read settles the setting.
theorem read_valueOf (h : Assigned now environment options)
    (hclock : now + Config.standard.bootCapture.nanoseconds < Clock.limit) (setting : Setting) :
    (setting.read? now (valueOf environment (asGiven options) setting)).isSome = true ∧
      ∀ config : Config, setting.read? now (valueOf environment (asGiven options) setting) =
        some (config.get setting) → Settled now environment options config setting := by
  by_cases hmem : setting ∈ options.map Prod.fst
  · obtain ⟨⟨setting, value⟩, hoption, rfl⟩ := List.mem_map.mp hmem
    rw [valueOf, values_of_mem h.once hoption, List.headD_cons]
    refine ⟨h.given _ hoption, fun config hread => ⟨fun other hother => ?_,
      fun hnone => absurd hmem hnone, fun hnone => absurd hmem hnone⟩⟩
    have hsame := (filter_of_once h.once hoption).symm.trans (filter_of_once h.once hother)
    cases hsame
    exact hread
  · rw [valueOf, values_of_notMem hmem, List.headD_cons]
    cases hvariable : environment setting.environment with
    | some value =>
        refine ⟨h.variable_ setting hmem value hvariable, fun config hread =>
          ⟨fun _ hoption => absurd (List.mem_map.mpr ⟨_, hoption, rfl⟩) hmem, ?_, ?_⟩⟩
        · rintro _ _ hother
          rw [hvariable] at hother
          cases hother
          exact hread
        · intro _ hnone
          rw [hvariable] at hnone
          cases hnone
    | none =>
        rw [Option.getD_none, Setting.read?_defaultText setting hclock]
        refine ⟨rfl, fun config hread =>
          ⟨fun _ hoption => absurd (List.mem_map.mpr ⟨_, hoption, rfl⟩) hmem, ?_, ?_⟩⟩
        · rintro _ _ hother
          rw [hvariable] at hother
          cases hother
        · exact fun _ _ => (Option.some.inj hread).symm

-- An option that is given once is only checked for its values.
theorem validate_eq (h : Assigned now environment options) (setting : Setting) :
    validate now environment (asGiven options) setting =
      (values environment (asGiven options) setting).forM fun value =>
        (setting.check now (Utf8.text value)).mapError (.invalidValue setting) := by
  have hcount : ¬1 < ((asGiven options).filter (·.setting = setting)).length := by
    rw [filter_asGiven]
    by_cases hmem : setting ∈ options.map Prod.fst
    · obtain ⟨⟨setting, value⟩, hoption, rfl⟩ := List.mem_map.mp hmem
      rw [filter_of_once h.once hoption]
      exact Nat.lt_irrefl 1
    · rw [filter_of_notMem hmem]
      exact Nat.not_lt_zero 1
  simp only [validate, if_neg hcount]
  exact bind_pure_unit

theorem mem_values_iff (h : Assigned now environment options) :
    value ∈ values environment (asGiven options) setting ↔
      value = valueOf environment (asGiven options) setting ∨
        setting ∈ options.map Prod.fst ∧ environment setting.environment = some value := by
  rw [valueOf]
  by_cases hmem : setting ∈ options.map Prod.fst
  · obtain ⟨⟨setting, own⟩, hoption, rfl⟩ := List.mem_map.mp hmem
    rw [values_of_mem h.once hoption]
    simp [hmem]
  · rw [values_of_notMem hmem]
    simp [hmem]

-- A setting is accepted, or its variable is overridden and not accepted.
theorem validate_ok_or (h : Assigned now environment options)
    (hclock : now + Config.standard.bootCapture.nanoseconds < Clock.limit) (setting : Setting) :
    (validate now environment (asGiven options) setting = .ok () ∧
      (setting ∈ options.map Prod.fst → ∀ value ∈ environment setting.environment,
        setting.check now (Utf8.text value) = .ok ())) ∨
    setting ∈ options.map Prod.fst ∧ ∃ value ∈ environment setting.environment, ∃ reason,
      setting.check now (Utf8.text value) = .error reason ∧
      validate now environment (asGiven options) setting = .error (.invalidValue setting reason) := by
  obtain ⟨read, hread⟩ := Option.isSome_iff_exists.mp (h.read_valueOf hclock setting).1
  have haccepted := Setting.check_of_read? hread
  rw [h.validate_eq setting]
  rcases forM_ok_or_error (fun value =>
    (setting.check now (Utf8.text value)).mapError (Refusal.invalidValue setting))
    (values environment (asGiven options) setting) with
      ⟨hok, hall⟩ | ⟨value, hvalue, refusal, hrefusal, herror⟩
  · refine .inl ⟨hok, fun hmem value hvariable => ?_⟩
    have hvalue := hall value (h.mem_values_iff.mpr (.inr ⟨hmem, hvariable⟩))
    cases hcheck : setting.check now (Utf8.text value) with
    | ok _ => rfl
    | error reason =>
        rw [hcheck] at hvalue
        cases hvalue
  · rcases h.mem_values_iff.mp hvalue with rfl | ⟨hmem, hvariable⟩
    · rw [haccepted] at hrefusal
      cases hrefusal
    · cases hcheck : setting.check now (Utf8.text value) with
      | ok _ =>
          rw [hcheck] at hrefusal
          cases hrefusal
      | error reason =>
          rw [hcheck] at hrefusal
          cases hrefusal
          exact .inr ⟨hmem, value, hvariable, reason, hcheck, herror⟩

end Assigned

-- Options in any order and spelling, each given at most once, settle every setting, as long as what they
-- override in the environment is accepted, too. If it is not, that is refused.
theorem parse_settles_iff (hspells : Spells options arguments)
    (h : Assigned now environment options)
    (hclock : now + Config.standard.bootCapture.nanoseconds < Clock.limit) :
    ((∃ config, parse now environment arguments = .ok config ∧
        ∀ setting, Settled now environment options config setting) ↔
      OverriddenAccepted now environment options) ∧
    (¬OverriddenAccepted now environment options →
      ∃ option ∈ options, ∃ reason,
        parse now environment arguments = .error (.invalidValue option.1 reason)) := by
  have hscan : scan (Usage.help environment) [] none arguments = .ok (asGiven options) :=
    scan_spells (Usage.help environment) [] hspells h.plain
  have hparse : parse now environment arguments =
      (Setting.all.forM (validate now environment (asGiven options)) >>= fun _ =>
        config now (valueOf environment (asGiven options))) := by
    rw [parse, hscan]
    rfl
  rcases forM_ok_or_error (validate now environment (asGiven options)) Setting.all with
    ⟨hok, hall⟩ | ⟨setting, -, refusal, hrefusal, herror⟩
  · obtain ⟨settings, hconfig, hsettings⟩ :=
      config_ok fun setting => (h.read_valueOf hclock setting).1
    have hparsed : parse now environment arguments = .ok settings := by
      rw [hparse, hok]
      exact hconfig
    have hsettled (setting : Setting) : Settled now environment options settings setting :=
      (h.read_valueOf hclock setting).2 settings (hsettings setting)
    have haccepted : OverriddenAccepted now environment options := by
      intro option hoption value hvariable
      have hvalidate := hall option.1 (mem_all option.1)
      rcases h.validate_ok_or hclock option.1 with
        ⟨-, haccepted⟩ | ⟨-, _, _, reason, -, hrefused⟩
      · exact haccepted (List.mem_map_of_mem hoption) value hvariable
      · cases hvalidate.symm.trans hrefused
    exact ⟨iff_of_true ⟨settings, hparsed, hsettled⟩ haccepted, fun hnot => absurd haccepted hnot⟩
  · rcases h.validate_ok_or hclock setting with
      ⟨haccepted, -⟩ | ⟨hmem, value, hvariable, reason, hcheck, hrefused⟩
    · cases haccepted.symm.trans hrefusal
    obtain ⟨option, hoption, rfl⟩ := List.mem_map.mp hmem
    cases hrefused.symm.trans hrefusal
    have hparsed : parse now environment arguments = .error (.invalidValue option.1 reason) := by
      rw [hparse, herror]
      rfl
    refine ⟨iff_of_false ?_ fun haccepted => ?_, fun _ => ⟨option, hoption, reason, hparsed⟩⟩
    · rintro ⟨config, hconfig, -⟩
      cases hparsed.symm.trans hconfig
    · cases hcheck.symm.trans (haccepted option hoption value hvariable)

def assigning (assignments : List (String × String)) (name : String) : Option Bytes :=
  (assignments.lookup name).map Utf8.bytes

-- Three spellings, one variable that is overridden, and one that counts.
theorem three_spellings_settle :
    let environment := assigning [("READ_TIMEOUT", "2"), ("SET_SETTLE", "0.25")]
    let options := [(Setting.baudRate, Utf8.bytes "57600"), (.readTimeout, Utf8.bytes "1"),
      (.paramName, Utf8.bytes "P")]
    let arguments := ["-b", "57600", "--read-timeout=1", "--param", "P"].map Utf8.bytes
    ∃ config, parse 0 environment arguments = .ok config ∧
      ∀ setting, Settled 0 environment options config setting := by
  intro environment options arguments
  have harguments : arguments = [letterArgument 'b', Utf8.bytes "57600"] ++
      ([longArgument .readTimeout ++ equals :: Utf8.bytes "1"] ++
        ([longArgument .paramName, Utf8.bytes "P"] ++ [])) := by
    decide
  have hspells : Spells options arguments := by
    rw [harguments]
    exact .next (.letter rfl) (.next .joined (.next .apart .done))
  have hassigned : Assigned 0 environment options := by
    refine ⟨by decide, ?_, ?_, fun setting hnone value hvalue => ?_⟩
    · simp only [options, List.forall_mem_cons]
      exact ⟨⟨by decide, by decide⟩, ⟨by decide, by decide⟩, ⟨by decide, by decide⟩,
        List.forall_mem_nil _⟩
    · simp only [options, List.forall_mem_cons]
      exact ⟨by decide +kernel, by decide +kernel, by decide +kernel, List.forall_mem_nil _⟩
    · cases setting with
      | setSettle =>
          cases hvalue
          decide +kernel
      | readTimeout => exact absurd (by decide) hnone
      | _ => cases hvalue
  refine (parse_settles_iff hspells hassigned (by decide)).1.mpr ?_
  simp only [options, OverriddenAccepted, List.forall_mem_cons]
  refine ⟨nofun, ?_, nofun, List.forall_mem_nil _⟩
  rintro value hvalue
  cases hvalue
  have haccepted : (Setting.read? 0 .readTimeout (Utf8.bytes "2")).isSome = true := by
    decide +kernel
  obtain ⟨read, hread⟩ := Option.isSome_iff_exists.mp haccepted
  exact Setting.check_of_read? hread

-- A variable that is overridden is not always left out of account.
theorem overridden_not_always_ignored :
    ¬∀ (now : Nat) (environment : String → Option Bytes) (options : List (Setting × Bytes))
      (arguments : List Bytes), Spells options arguments → Assigned now environment options →
      now + Config.standard.bootCapture.nanoseconds < Clock.limit →
      ∃ config, parse now environment arguments = .ok config ∧
        ∀ setting, Settled now environment options config setting := by
  intro h
  let environment := assigning [("READ_TIMEOUT", "bad")]
  let options := [(Setting.readTimeout, Utf8.bytes "1")]
  let arguments := ["--read-timeout", "1"].map Utf8.bytes
  have hspells : Spells options arguments := .next .apart .done
  have hassigned : Assigned 0 environment options := by
    refine ⟨by decide, ?_, ?_, fun setting hnone value hvalue => ?_⟩
    · rintro option hoption
      cases List.mem_singleton.mp hoption
      exact ⟨by decide, by decide⟩
    · rintro option hoption
      cases List.mem_singleton.mp hoption
      decide +kernel
    · cases setting with
      | readTimeout => exact absurd (by decide) hnone
      | _ => cases hvalue
  obtain ⟨config, hconfig, -⟩ := h 0 environment options arguments hspells hassigned (by decide)
  have hrefused : (parse 0 environment arguments).toOption.isSome = false := by
    decide +kernel
  rw [hconfig] at hrefused
  cases hrefused

end BoardSmoke.CommandLine
