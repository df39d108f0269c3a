import BoardSmoke.Program
import BoardSmoke.Proofs.Spares

namespace BoardSmoke

namespace Workbench

def warned (bench : Workbench) : List Record := bench.records.filter (·.level = .warn)

theorem warned_note (record : Record) (bench : Workbench) :
    (bench.note record).warned =
      if record.level = .warn then bench.warned ++ [record] else bench.warned := by
  have hrecords : (bench.note record).records = bench.records ++ [record] := by
    simp [note, notify, records, Notice.record?]
  rw [warned, hrecords, List.filter_append]
  by_cases hlevel : record.level = .warn <;> simp [hlevel, warned]

theorem warned_log {level : Level} (hlevel : level ≠ .warn) (source : Source) (text : String)
    (bench : Workbench) : (bench.log level source text).warned = bench.warned :=
  (warned_note _ bench).trans (if_neg hlevel)

theorem warned_notify_text (text : String) (bench : Workbench) :
    (bench.notify (.text text)).warned = bench.warned := by
  simp [warned, records, notify, Notice.record?]

theorem warned_launch (tool : String) (arguments : List String) (bench : Workbench) :
    (launch tool arguments bench).2.warned = bench.warned := by
  rw [launch]
  cases Launch.launch bench.tree tool arguments with
  | error fault => rfl
  | ok outcome => exact warned_notify_text _ _

theorem warned_upload (uploader : Uploader) (bench : Workbench) :
    (upload uploader bench).2.warned = bench.warned := by
  have hnoted (level : Level) (hlevel : level ≠ .warn) (text : String) (world : Workbench) :
      (journal.note ⟨level, .upload, text⟩ world).warned = world.warned :=
    (warned_note _ world).trans (if_neg hlevel)
  rw [upload, Uploader.upload]
  dsimp only
  generalize hworld : journal.note ⟨.debug, .upload, _⟩ (journal.note ⟨.info, .upload, _⟩ bench) = world
  have hsame : world.warned = bench.warned := by
    rw [← hworld, hnoted .debug (by decide), hnoted .info (by decide)]
  have hlaunched := warned_launch uploader.tool [uploader.target, "upload"] world
  rcases hlaunch : launch uploader.tool [uploader.target, "upload"] world with
    ⟨fault | status, launched⟩
  · rw [hlaunch] at hlaunched
    exact hlaunched.trans hsame
  · rw [hlaunch] at hlaunched
    dsimp only
    split
    · exact (hnoted .debug (by decide) _ launched).trans (hlaunched.trans hsame)
    · exact hlaunched.trans hsame

theorem warned_openDevice (name : String) (baudRate : Nat) (readTimeout : Duration)
    (bench : Workbench) :
    (openDevice name baudRate readTimeout bench).2.warned = bench.warned := by
  rw [openDevice]
  generalize hlogged : bench.log .debug .serial _ = logged
  have hsame : logged.warned = bench.warned := hlogged ▸ warned_log (by decide) _ _ bench
  split <;> exact hsame

theorem warned_openConfigured (config : Config) (bench : Workbench) :
    (openConfigured config bench).2.warned = bench.warned :=
  (warned_openDevice _ _ _ _).trans (warned_log (by decide) _ _ bench)

theorem warned_close (bench : Workbench) : bench.close.warned = bench.warned := by
  rw [close]
  split
  · rfl
  · rfl
  · exact warned_log (by decide) _ _ bench

-- Nothing else on a workbench writes a warning to the log.
theorem bench_warns (config : Config) :
    (Workbench.bench (upload (.ofConfig config)) openConfigured).Warns warned where
  note := warned_note
  now _ := rfl
  sleep _ _ := rfl
  write _ _ := rfl
  available _ := rfl
  read _ _ := rfl
  reset _ := rfl
  close := warned_close
  makeFolders _ _ := rfl
  writeFile _ _ _ := rfl
  flash _ := warned_upload _ _
  openChannel config _ := warned_openConfigured config _
  localTime _ := rfl

end Workbench

end BoardSmoke
