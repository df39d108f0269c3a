import BoardSmoke.Proofs.Recording.SmokeTest

namespace BoardSmoke

namespace Course

variable {ε ε' α β : Type}

theorem mapError_call_andThen_iff {effect : Except ε α → Effect} {f : ε → ε'}
    {next : α → Course ε' β} {effects : List Effect} {result : Except (Stop ε') β} :
    ((call effect).mapError f).andThen next effects result ↔
      (∃ error, effects = [effect (.error error)] ∧ result = .error (.failed (f error))) ∨
      ∃ value later, effects = effect (.ok value) :: later ∧ next value later result := by
  constructor
  · rintro (⟨stop, ⟨_, ⟨outcome, rfl, rfl⟩, hstop⟩, rfl⟩ |
      ⟨a, _, later, ⟨_, ⟨outcome, rfl, rfl⟩, ha⟩, hnext, rfl⟩)
    · cases outcome with
      | ok value => cases hstop
      | error error =>
          cases hstop
          exact .inl ⟨error, rfl, rfl⟩
    · cases outcome with
      | ok value =>
          cases ha
          exact .inr ⟨a, later, rfl, hnext⟩
      | error error => cases ha
  · rintro (⟨error, rfl, rfl⟩ | ⟨value, later, rfl, hnext⟩)
    · exact andThen_of_stop ⟨_, ⟨.error error, rfl, rfl⟩, rfl⟩
    · exact .inr ⟨value, [effect (.ok value)], later, ⟨.ok value, ⟨.ok value, rfl, rfl⟩, rfl⟩, hnext,
        rfl⟩

end Course

open Course

-- An effect on the board, the channel to it or the clock.
def Effect.isOffDisk : Effect → Bool
  | .makeFolders .. | .writeFile .. => false
  | _ => true

theorem Effect.isOffDisk_of_isReceiving (effect : Effect) (h : effect.isReceiving = true) :
    effect.isOffDisk := by
  cases effect <;> simp [Effect.isReceiving, Effect.isOffDisk] at h ⊢

namespace Console

theorem exchange_offDisk (command : String) (settle : Duration) :
    Only (·.isOffDisk) (exchange command settle) := by
  refine only_andThen (only_call fun _ => rfl) fun _ => ?_
  refine only_andThen (only_act rfl) fun _ => ?_
  exact only_andThen (Channel.reading_only Effect.isOffDisk_of_isReceiving) fun _ => only_still _

end Console

namespace SmokeTest

variable {config : Config}

def listening (config : Config) : Course RunError String :=
  (Course.call .flash).andThen fun _ =>
    (Course.call .openChannel).andThen fun _ =>
      ((Course.call .reset).mapError .channelFailed).andThen fun _ =>
        (Console.draining config.bootCapture).mapError .channelFailed

-- What is done on the console: the version is asked for and the parameter is tried out.
def exercising (config : Config) : Course RunError (String × RoundTrip) :=
  (asking "ver all" config.versionSettle).andThen fun versionOutput =>
    (trying config).andThen fun roundTrip => .still (.ok (versionOutput, roundTrip))

-- What is done when nothing is left to find out.
def concluding (config : Config) (bootLog : String) (bootLogPath : Bytes) (versionOutput : String)
    (roundTrip : RoundTrip) : Course RunError Report :=
  (Archive.saving config.logRoot Archive.versionLogName versionOutput).andThen
    fun versionLogPath => (Course.act .close).andThen fun _ => .still (.ok {
      bootLog, bootLogPath, versionOutput, versionLogPath, roundTrip
      warnings := Warning.ofBootLog bootLog ++ Warning.ofRoundTrip config.parameter roundTrip })

theorem course_phases (config : Config) :
    course config = (listening config).andThen fun bootLog =>
      (Archive.savingBootLog config.logRoot bootLog).andThen fun bootLogPath =>
        (exercising config).andThen fun (versionOutput, roundTrip) =>
          concluding config bootLog bootLogPath versionOutput roundTrip := by
  simp only [course, capturing, listening, exercising, concluding, andThen_assoc, still_andThen]

theorem listening_offDisk (config : Config) : Only (·.isOffDisk) (listening config) := by
  refine only_andThen (only_call fun _ => rfl) fun _ => ?_
  refine only_andThen (only_call fun _ => rfl) fun _ => ?_
  refine only_andThen (only_mapError (only_call fun _ => rfl)) fun _ => ?_
  exact only_mapError (Console.draining_only Effect.isOffDisk_of_isReceiving _)

theorem asking_offDisk (command : String) (settle : Duration) :
    Only (·.isOffDisk) (asking command settle) :=
  only_mapError (Console.exchange_offDisk command settle)

theorem changing_offDisk (config : Config) (initial : String) :
    Only (·.isOffDisk) (changing config initial) := by
  refine only_andThen (asking_offDisk _ _) fun _ => ?_
  refine only_andThen (asking_offDisk _ _) fun updated => ?_
  refine only_andThen (asking_offDisk _ _) fun _ => ?_
  exact only_andThen (asking_offDisk _ _) fun restored => only_still _

theorem exercising_offDisk (config : Config) : Only (·.isOffDisk) (exercising config) := by
  refine only_andThen (asking_offDisk _ _) fun versionOutput => ?_
  refine only_andThen (only_andThen (asking_offDisk _ _) fun response => ?_) fun _ => only_still _
  cases Parameter.value? response config.parameter with
  | none => exact only_still _
  | some initial => exact changing_offDisk config initial

end SmokeTest

end BoardSmoke
