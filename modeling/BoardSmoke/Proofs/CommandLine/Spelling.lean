import BoardSmoke.CommandLine.Parser

namespace BoardSmoke.CommandLine

-- A value that is not mistaken for an option, and with nothing in front that would be dropped.
structure IsPlain (value : Bytes) : Prop where
  not_hyphen : value.head? ≠ some hyphen
  not_equals : value.head? ≠ some equals

def longArgument (setting : Setting) : Bytes := endOfOptions ++ Utf8.bytes setting.long

def letterArgument (letter : Char) : Bytes := hyphen :: Utf8.bytes (String.singleton letter)

-- The arguments that give a value to an option.
inductive Spelling (setting : Setting) (value : Bytes) : List Bytes → Prop
  | apart : Spelling setting value [longArgument setting, value]
  | joined : Spelling setting value [longArgument setting ++ equals :: value]
  | letter {letter : Char} (hletter : setting.letter? = some letter) :
      Spelling setting value [letterArgument letter, value]

-- The arguments spell these options, in this order.
inductive Spells : List (Setting × Bytes) → List Bytes → Prop
  | done : Spells [] []
  | next {setting : Setting} {value : Bytes} {options : List (Setting × Bytes)}
      {spelling arguments : List Bytes} (hspelling : Spelling setting value spelling)
      (hlater : Spells options arguments) :
      Spells ((setting, value) :: options) (spelling ++ arguments)

theorem ofLong?_long (setting : Setting) :
    Setting.ofLong? (Utf8.bytes setting.long) = some setting := by
  cases setting <;> decide

theorem bytes_long_plain (setting : Setting) :
    (Utf8.bytes setting.long).all (· ≠ equals) = true := by
  cases setting <;> decide

theorem bare_longArgument (setting : Setting) (rest : Bytes) :
    bare (longArgument setting ++ rest) = Utf8.bytes setting.long ++ rest := by
  cases setting <;> rfl

theorem startsWithHyphen_longArgument (setting : Setting) (rest : Bytes) :
    startsWithHyphen (longArgument setting ++ rest) = true := by
  simp [startsWithHyphen, longArgument, endOfOptions, hyphen]

theorem longArgument_ne_endOfOptions (setting : Setting) (rest : Bytes) :
    longArgument setting ++ rest ≠ endOfOptions := by
  intro h
  have hlength := congrArg List.length h
  have hlong : 0 < (Utf8.bytes setting.long).length := by
    cases setting <;> decide
  simp only [longArgument, List.length_append] at hlength
  omega

theorem isPrefixOf_longArgument (setting : Setting) (rest : Bytes) :
    endOfOptions.isPrefixOf (longArgument setting ++ rest) = true := by
  rw [List.isPrefixOf_iff_prefix, longArgument, List.append_assoc]
  exact List.prefix_append _ _

theorem takeWhile_bytes_long (setting : Setting) :
    (Utf8.bytes setting.long).takeWhile (· ≠ equals) = Utf8.bytes setting.long := by
  cases setting <;> decide

theorem longOption_apart (help : String) (given : List Given) (setting : Setting)
    (rest : List Bytes) :
    longOption help given (longArgument setting) rest = .ok (⟨setting, none⟩, true) := by
  have hbare := bare_longArgument setting []
  rw [List.append_nil, List.append_nil] at hbare
  simp only [longOption, hbare, takeWhile_bytes_long, ofLong?_long, List.drop_length]
  rfl

theorem longOption_joined (help : String) (given : List Given) (setting : Setting)
    (rest : List Bytes) {value : Bytes} (hvalue : value.head? ≠ some equals) :
    longOption help given (longArgument setting ++ equals :: value) rest =
      .ok (⟨setting, some value⟩, false) := by
  have hname : (Utf8.bytes setting.long ++ equals :: value).takeWhile (· ≠ equals) =
      Utf8.bytes setting.long := by
    rw [List.takeWhile_append_of_pos (List.all_eq_true.mp (bytes_long_plain setting))]
    simp
  have htrimmed : trimEquals (equals :: value) = value := by
    cases value with
    | nil => rfl
    | cons byte rest => simp_all [trimEquals]
  simp only [longOption, bare_longArgument, hname, ofLong?_long, List.drop_left]
  simp [option, htrimmed]

theorem shortOption_letter (help : String) (given : List Given) {setting : Setting} {letter : Char}
    (hletter : setting.letter? = some letter) :
    shortOption help given (letterArgument letter) = .ok (⟨setting, none⟩, true) := by
  cases setting <;> cases hletter <;> rfl

-- A plain value is taken by the option that waits for it.
theorem scan_value (help : String) (given : List Given) (setting : Setting) {value : Bytes}
    (rest : List Bytes) (h : IsPlain value) :
    scan help given (some setting) (value :: rest) =
      scan help (given ++ [⟨setting, some value⟩]) none rest := by
  have hend : value ≠ endOfOptions := by
    rintro rfl
    exact h.not_hyphen rfl
  have hhyphen : startsWithHyphen value = false := by
    simp [startsWithHyphen, h.not_hyphen]
  simp only [scan.eq_def help given (some setting) (value :: rest), if_neg hend, hhyphen,
    Bool.false_eq_true, if_false]

-- An option takes its value or waits for it.
theorem scan_option {help : String} {given : List Given} {argument : Bytes} {rest : List Bytes}
    {option : Given} {waits : Bool} (hend : argument ≠ endOfOptions)
    (hhyphen : startsWithHyphen argument = true)
    (hstep : (if endOfOptions.isPrefixOf argument then longOption help given argument rest
      else shortOption help given argument) = .ok (option, waits)) :
    scan help given none (argument :: rest) =
      if waits then scan help given (some option.setting) rest
      else scan help (given ++ [option]) none rest := by
  have hseen : given ++ ((none : Option Setting).map (Given.mk · none)).toList = given :=
    List.append_nil given
  rw [scan.eq_def]
  simp only [if_neg hend, hhyphen, if_true, hseen, hstep]

theorem scan_longArgument (help : String) (given : List Given) (setting : Setting)
    (rest : List Bytes) :
    scan help given none (longArgument setting :: rest) = scan help given (some setting) rest := by
  have hend := longArgument_ne_endOfOptions setting []
  have hhyphen := startsWithHyphen_longArgument setting []
  have hdouble := isPrefixOf_longArgument setting []
  rw [List.append_nil] at hend hhyphen hdouble
  have hstep : (if endOfOptions.isPrefixOf (longArgument setting) then
      longOption help given (longArgument setting) rest
      else shortOption help given (longArgument setting)) = .ok (⟨setting, none⟩, true) := by
    rw [if_pos hdouble, longOption_apart]
  exact scan_option hend hhyphen hstep

theorem scan_joined (help : String) (given : List Given) (setting : Setting) {value : Bytes}
    (rest : List Bytes) (h : IsPlain value) :
    scan help given none ((longArgument setting ++ equals :: value) :: rest) =
      scan help (given ++ [⟨setting, some value⟩]) none rest := by
  have hstep : (if endOfOptions.isPrefixOf (longArgument setting ++ equals :: value) then
      longOption help given (longArgument setting ++ equals :: value) rest
      else shortOption help given (longArgument setting ++ equals :: value)) =
        .ok (⟨setting, some value⟩, false) := by
    rw [if_pos (isPrefixOf_longArgument _ _), longOption_joined _ _ _ _ h.not_equals]
  exact scan_option (longArgument_ne_endOfOptions _ _) (startsWithHyphen_longArgument _ _) hstep

theorem scan_letterArgument (help : String) (given : List Given) {setting : Setting}
    {letter : Char} (hletter : setting.letter? = some letter) (rest : List Bytes) :
    scan help given none (letterArgument letter :: rest) = scan help given (some setting) rest := by
  have hshape : letterArgument letter ≠ endOfOptions ∧
      startsWithHyphen (letterArgument letter) = true ∧
      endOfOptions.isPrefixOf (letterArgument letter) = false := by
    cases setting <;> cases hletter <;> decide
  obtain ⟨hend, hhyphen, hdouble⟩ := hshape
  have hstep : (if endOfOptions.isPrefixOf (letterArgument letter) then
      longOption help given (letterArgument letter) rest
      else shortOption help given (letterArgument letter)) = .ok (⟨setting, none⟩, true) := by
    rw [hdouble, if_neg Bool.false_ne_true, shortOption_letter _ _ hletter]
  exact scan_option hend hhyphen hstep

theorem scan_spelling (help : String) (given : List Given) {setting : Setting} {value : Bytes}
    {spelling : List Bytes} (h : Spelling setting value spelling) (hvalue : IsPlain value)
    (rest : List Bytes) :
    scan help given none (spelling ++ rest) =
      scan help (given ++ [⟨setting, some value⟩]) none rest := by
  cases h with
  | apart => exact (scan_longArgument help given setting _).trans (scan_value _ _ _ _ hvalue)
  | joined => exact scan_joined help given setting rest hvalue
  | letter hletter =>
      exact (scan_letterArgument help given hletter _).trans (scan_value _ _ _ _ hvalue)

-- Options are read as they are spelled, one after the other.
theorem scan_spells (help : String) (given : List Given) {options : List (Setting × Bytes)}
    {arguments : List Bytes} (h : Spells options arguments)
    (hplain : ∀ option ∈ options, IsPlain option.2) :
    scan help given none arguments =
      .ok (given ++ options.map fun option => ⟨option.1, some option.2⟩) := by
  induction h generalizing given with
  | done => rfl
  | next hspelling _ ih =>
      rw [List.forall_mem_cons] at hplain
      rw [scan_spelling help given hspelling hplain.1, ih _ hplain.2]
      simp

end BoardSmoke.CommandLine
