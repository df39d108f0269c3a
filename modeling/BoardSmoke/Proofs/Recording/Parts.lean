import BoardSmoke.Proofs.Recording.SmokeTest

namespace BoardSmoke.SmokeTest

open Course

-- A change of the parameter that was gone through: it was set to another value, shown, set back and
-- shown again.
structure Change (config : Config) (initial : String) (roundTrip : RoundTrip) where
  changed : List Effect
  shownChanged : List Effect
  restored : List Effect
  shownRestored : List Effect
  -- The responses to the four commands.
  changedResponse : String
  second : String
  restoredResponse : String
  third : String
  setting_changed : setting config
    (RoundTrip.temporaryValue initial config.probeValue config.fallbackValue) changed
    (.ok changedResponse)
  showing_second : showing config shownChanged (.ok second)
  setting_restored : setting config initial restored (.ok restoredResponse)
  showing_third : showing config shownRestored (.ok third)
  roundTrip_eq : roundTrip = .completed initial
    (RoundTrip.temporaryValue initial config.probeValue config.fallbackValue)
    (Parameter.value? second config.parameter) (Parameter.value? third config.parameter)

def Change.effects {config : Config} {initial : String} {roundTrip : RoundTrip}
    (change : Change config initial roundTrip) : List Effect :=
  change.changed ++ (change.shownChanged ++ (change.restored ++ change.shownRestored))

theorem changing_ok {config : Config} {initial : String} {roundTrip : RoundTrip}
    {effects : List Effect} (h : changing config initial effects (.ok roundTrip)) :
    ∃ change : Change config initial roundTrip, effects = change.effects := by
  obtain ⟨r₁, changed, _, hchanged, hrest₁, rfl⟩ := andThen_ok_iff.mp h
  obtain ⟨r₂, shownChanged, _, hsecond, hrest₂, rfl⟩ := andThen_ok_iff.mp hrest₁
  obtain ⟨r₃, restored, _, hrestored, hrest₃, rfl⟩ := andThen_ok_iff.mp hrest₂
  obtain ⟨r₄, shownRestored, _, hthird, ⟨rfl, htrip⟩, rfl⟩ := andThen_ok_iff.mp hrest₃
  exact ⟨⟨changed, shownChanged, restored, shownRestored, r₁, r₂, r₃, r₄, hchanged, hsecond,
    hrestored, hthird, Except.ok.inj htrip⟩, by rw [Change.effects, List.append_nil]⟩

-- What is done with the parameter after it was shown: nothing, or it is changed and changed back.
def treating (config : Config) (response : String) : Course RunError RoundTrip :=
  match Parameter.value? response config.parameter with
  | none => .still (.ok (.missing response))
  | some initial => changing config initial

theorem trying_eq (config : Config) : trying config = (showing config).andThen (treating config) :=
  rfl

theorem treating_ok {config : Config} {response : String} {effects : List Effect}
    {roundTrip : RoundTrip} (h : treating config response effects (.ok roundTrip)) :
    (Parameter.value? response config.parameter = none ∧ effects = [] ∧
      roundTrip = .missing response) ∨
    ∃ initial, Parameter.value? response config.parameter = some initial ∧
      ∃ change : Change config initial roundTrip, effects = change.effects := by
  rw [treating] at h
  cases hvalue : Parameter.value? response config.parameter with
  | none =>
      simp only [hvalue] at h
      exact .inl ⟨rfl, h.1, Except.ok.inj h.2⟩
  | some initial =>
      simp only [hvalue] at h
      exact .inr ⟨initial, rfl, changing_ok h⟩

-- A test that went all the way.
structure Parts (config : Config) (report : Report) where
  captured : List Effect
  versioned : List Effect
  shown : List Effect
  treated : List Effect
  saved : List Effect
  -- The first response that is about the parameter.
  response : String
  capturing : capturing config captured (.ok (report.bootLog, report.bootLogPath))
  version : asking "ver all" config.versionSettle versioned (.ok report.versionOutput)
  showing : showing config shown (.ok response)
  treating : treating config response treated (.ok report.roundTrip)
  saving : Archive.saving config.logRoot Archive.versionLogName report.versionOutput saved
    (.ok report.versionLogPath)
  warnings : report.warnings =
    Warning.ofBootLog report.bootLog ++ Warning.ofRoundTrip config.parameter report.roundTrip

def Parts.effects {config : Config} {report : Report} (parts : Parts config report) : List Effect :=
  .flash (.ok ()) :: .openChannel (.ok ()) ::
    (parts.captured ++ (parts.versioned ++ (parts.shown ++ (parts.treated ++
      (parts.saved ++ [.close])))))

theorem course_ok {config : Config} {report : Report} {effects : List Effect}
    (h : course config effects (.ok report)) :
    ∃ parts : Parts config report, effects = parts.effects := by
  obtain ⟨_, flashed, _, hflash, hrest₁, rfl⟩ := andThen_ok_iff.mp h
  obtain ⟨_, opened, _, hopen, hrest₂, rfl⟩ := andThen_ok_iff.mp hrest₁
  obtain ⟨⟨bootLog, bootLogPath⟩, captured, _, hcapture, hrest₃, rfl⟩ := andThen_ok_iff.mp hrest₂
  obtain ⟨version, versioned, _, hversion, hrest₄, rfl⟩ := andThen_ok_iff.mp hrest₃
  obtain ⟨roundTrip, tried, _, htried, hrest₅, rfl⟩ := andThen_ok_iff.mp hrest₄
  obtain ⟨path, saved, _, hsaved, hrest₆, rfl⟩ := andThen_ok_iff.mp hrest₅
  obtain ⟨_, _, _, ⟨rfl, _⟩, ⟨rfl, hreport⟩, rfl⟩ := andThen_ok_iff.mp hrest₆
  cases hreport
  obtain rfl := call_ok_iff.mp hflash
  obtain rfl := call_ok_iff.mp hopen
  rw [trying_eq] at htried
  obtain ⟨response, shown, treated, hshown, htreated, rfl⟩ := andThen_ok_iff.mp htried
  refine ⟨⟨captured, versioned, shown, treated, saved, response, hcapture, hversion, hshown,
    htreated, hsaved, rfl⟩, ?_⟩
  simp only [Parts.effects, List.append_assoc, List.singleton_append, List.append_nil]

end BoardSmoke.SmokeTest
