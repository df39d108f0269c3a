import BoardSmoke.Proofs.Archive
import BoardSmoke.Proofs.Playback
import BoardSmoke.Proofs.Recording.Phases

namespace BoardSmoke

open Course

namespace FileTree

variable {tree middle after : FileTree} {before later effects : List Effect}

-- The tree after a change, if it succeeds as it did.
def afterChange? (outcome : Except Fault Unit) (change : Except Fault Unit × FileTree) :
    Option FileTree :=
  match outcome, change with
  | .ok (), (.ok (), after) => some after
  | _, _ => none

-- The tree after an effect, if that is not a failure on the disk and comes out on the tree as it did.
def afterEffect? (tree : FileTree) : Effect → Option FileTree
  | .makeFolders path outcome => afterChange? outcome (tree.makeFolders path)
  | .writeFile path content outcome => afterChange? outcome (tree.writeFile path content)
  | _ => some tree

def after? (tree : FileTree) (effects : List Effect) : Option FileTree :=
  effects.foldlM afterEffect? tree

theorem afterChange?_eq_some_iff {outcome : Except Fault Unit}
    {change : Except Fault Unit × FileTree} :
    afterChange? outcome change = some after ↔ outcome = .ok () ∧ change = (.ok (), after) := by
  rcases outcome with fault | _ <;> rcases change with ⟨fault' | _, tree⟩ <;> simp [afterChange?]

theorem after?_cons {effect : Effect} :
    tree.after? (effect :: effects) = some after ↔
      ∃ middle, tree.afterEffect? effect = some middle ∧ middle.after? effects = some after := by
  rw [after?, List.foldlM_cons, Option.bind_eq_bind, Option.bind_eq_some_iff]
  rfl

theorem after?_append :
    tree.after? (before ++ later) = some after ↔
      ∃ middle, tree.after? before = some middle ∧ middle.after? later = some after := by
  rw [after?, List.foldlM_append, Option.bind_eq_bind, Option.bind_eq_some_iff]
  rfl

theorem after?_of_offDisk (h : ∀ effect ∈ effects, effect.isOffDisk) :
    tree.after? effects = some tree := by
  induction effects with
  | nil => rfl
  | cons effect effects ih =>
      obtain ⟨heffect, hlater⟩ := List.forall_mem_cons.mp h
      refine after?_cons.mpr ⟨tree, ?_, ih hlater⟩
      cases effect with
      | makeFolders path outcome => cases heffect
      | writeFile path content outcome => cases heffect
      | _ => rfl

theorem eq_of_only {ε α : Type} {course : Course ε α} {result : Except (Stop ε) α}
    (honly : Only (·.isOffDisk) course) (h : course effects result)
    (hafter : tree.after? effects = some after) : after = tree :=
  Option.some.inj (hafter.symm.trans (after?_of_offDisk (honly _ _ h)))

end FileTree

namespace Archive

variable {root : Bytes} {name : Name} {text : String} {tree after : FileTree}
  {effects : List Effect} {result : Except (Stop RunError) Bytes}

-- What is done when a text is saved and nothing fails.
def saved (root : Bytes) (name : Name) (text : String) : List Effect :=
  [.makeFolders root (.ok ()), .writeFile (Path.join root name) (Utf8.bytes text) (.ok ())]

theorem saving_after? (h : saving root name text effects result)
    (hafter : tree.after? effects = some after) :
    result = .ok (Path.join root name) ∧ effects = saved root name text := by
  rcases mapError_call_andThen_iff.mp h with ⟨fault, rfl, rfl⟩ | ⟨_, later, rfl, hwrite⟩
  · obtain ⟨_, hmake, _⟩ := FileTree.after?_cons.mp hafter
    cases hmake
  · obtain ⟨made, _, hlater⟩ := FileTree.after?_cons.mp hafter
    rcases mapError_call_andThen_iff.mp hwrite with ⟨fault, rfl, rfl⟩ | ⟨_, _, rfl, rfl, rfl⟩
    · obtain ⟨_, hwritten, _⟩ := FileTree.after?_cons.mp hlater
      cases hwritten
    · exact ⟨rfl, rfl⟩

theorem archived_of_saved (hafter : tree.after? (saved root name text) = some after)
    (hclear : (tree.makeFolders root).2.isClear root name) (hname : Path.IsFileName name) :
    tree.Archived root [(name, text)] after := by
  obtain ⟨made, hmake, hlater⟩ := FileTree.after?_cons.mp hafter
  obtain ⟨written, hwrite, hnil⟩ := FileTree.after?_cons.mp hlater
  cases hnil
  have hmade := (FileTree.afterChange?_eq_some_iff.mp hmake).2
  rw [hmade] at hclear
  obtain ⟨folder, hfiling⟩ := FileTree.filing_of_writeFile hmade hclear hname
    (FileTree.afterChange?_eq_some_iff.mp hwrite).2
  exact .filed (List.cons_ne_nil _ _) hfiling

end Archive

namespace SmokeTest

open Archive

-- One of several tests with the same settings, on a bench of its own.
structure Trial where
  {ω : Type}
  bench : Bench ω
  world : ω

namespace Trial

def effects (trial : Trial) (config : Config) : List Effect :=
  SmokeTest.effects trial.bench config trial.world

def result (trial : Trial) (config : Config) : Except (Stop RunError) Report :=
  ((run trial.bench config).runIn trial.world).1

end Trial

variable {config : Config} {effects : List Effect} {result : Except (Stop RunError) Report}
  {filed : List (Name × String)} {tree after : FileTree}

-- What a test files when nothing fails on the disk. One that stops while it listens files nothing, one
-- that stops later has filed its boot log, and one that gives a report the version output, too.
inductive Files (config : Config) :
    List Effect → Except (Stop RunError) Report → List (Name × String) → Prop
  | nothing {effects : List Effect} {stop : Stop RunError}
      (hlistening : listening config effects (.error stop)) :
      Files config effects (.error stop) []
  | bootLog {listened exercised : List Effect} {text : String} {time : LocalTime}
      {stop : Stop RunError} (hlistening : listening config listened (.ok text))
      (hexercising : exercising config exercised (.error stop)) :
      Files config (listened ++ .localTime time ::
        (saved config.logRoot (bootLogName time) text ++ exercised))
        (.error stop) [(bootLogName time, text)]
  | both {listened exercised : List Effect} {time : LocalTime} {report : Report}
      (hlistening : listening config listened (.ok report.bootLog))
      (hexercising : exercising config exercised (.ok (report.versionOutput, report.roundTrip)))
      (hbootLogPath : report.bootLogPath = Path.join config.logRoot (bootLogName time))
      (hversionLogPath : report.versionLogPath = Path.join config.logRoot versionLogName) :
      Files config (listened ++ .localTime time ::
        (saved config.logRoot (bootLogName time) report.bootLog ++ (exercised ++
          (saved config.logRoot versionLogName report.versionOutput ++ [.close]))))
        (.ok report)
        [(bootLogName time, report.bootLog), (versionLogName, report.versionOutput)]

-- Nothing that a test does on the disk fails, so it goes on until something else does.
theorem files_of_course (h : course config effects result) (hafter : tree.after? effects = some after) :
    ∃ filed, Files config effects result filed := by
  rw [course_phases] at h
  rcases h with ⟨stop, hlistening, rfl⟩ | ⟨text, listened, rest₁, hlistening, h₁, rfl⟩
  · exact ⟨[], .nothing hlistening⟩
  obtain ⟨tree₁, _, hafter₁⟩ := FileTree.after?_append.mp hafter
  rw [savingBootLog, andThen_assoc] at h₁
  obtain ⟨time, rest₂, rfl, h₂⟩ := query_andThen_iff.mp h₁
  obtain ⟨tree₂, _, hafter₂⟩ := FileTree.after?_cons.mp hafter₁
  rcases h₂ with ⟨stop, hsaving, rfl⟩ | ⟨bootLogPath, saved, rest₃, hsaving, h₃, rfl⟩
  · obtain ⟨hok, _⟩ := saving_after? hsaving hafter₂
    cases hok
  obtain ⟨tree₃, hsaved, hafter₃⟩ := FileTree.after?_append.mp hafter₂
  obtain ⟨hpath, rfl⟩ := saving_after? hsaving hsaved
  obtain rfl := Except.ok.inj hpath
  rcases h₃ with ⟨stop, hexercising, rfl⟩ | ⟨⟨version, trip⟩, exercised, rest₄, hexercising, h₄, rfl⟩
  · exact ⟨_, .bootLog hlistening hexercising⟩
  obtain ⟨tree₄, _, hafter₄⟩ := FileTree.after?_append.mp hafter₃
  rcases h₄ with ⟨stop, hsaving, rfl⟩ | ⟨versionLogPath, saved, rest₅, hsaving, h₅, rfl⟩
  · obtain ⟨hok, _⟩ := saving_after? hsaving hafter₄
    cases hok
  obtain ⟨tree₅, hsaved, _⟩ := FileTree.after?_append.mp hafter₄
  obtain ⟨hpath, rfl⟩ := saving_after? hsaving hsaved
  obtain rfl := Except.ok.inj hpath
  obtain ⟨rest₆, rfl, rfl, rfl⟩ := act_andThen_iff.mp h₅
  let report : Report := {
    bootLog := text, bootLogPath := Path.join config.logRoot (bootLogName time)
    versionOutput := version, versionLogPath := Path.join config.logRoot versionLogName
    roundTrip := trip
    warnings := Warning.ofBootLog text ++ Warning.ofRoundTrip config.parameter trip }
  have hboth := @Files.both config listened exercised time report hlistening hexercising rfl rfl
  exact ⟨_, hboth⟩

def logNames (effects : List Effect) : List Name :=
  versionLogName :: effects.filterMap fun
    | .localTime time => some (bootLogName time)
    | _ => none

theorem bootLogName_mem_logNames (time : LocalTime) (h : .localTime time ∈ effects) :
    bootLogName time ∈ logNames effects :=
  List.mem_cons_of_mem _ (List.mem_filterMap.mpr ⟨_, h, rfl⟩)

theorem logNames_subset {wider : List Effect} (h : effects ⊆ wider) :
    logNames effects ⊆ logNames wider :=
  List.cons_subset_cons _ (List.filterMap_subset _ h)

theorem Files.archived (h : Files config effects result filed)
    (hafter : tree.after? effects = some after)
    (hclear : ∀ name ∈ logNames effects,
      (tree.makeFolders config.logRoot).2.isClear config.logRoot name) :
    tree.Archived config.logRoot filed after := by
  cases h with
  | nothing hlistening =>
      obtain rfl := FileTree.eq_of_only (listening_offDisk config) hlistening hafter
      exact .nothing
  | @bootLog listened exercised text time stop hlistening hexercising =>
      have hname := hclear _ (bootLogName_mem_logNames time (by simp))
      obtain ⟨_, hlistened, hafter₁⟩ := FileTree.after?_append.mp hafter
      obtain rfl := FileTree.eq_of_only (listening_offDisk config) hlistening hlistened
      obtain ⟨_, htime, hafter₂⟩ := FileTree.after?_cons.mp hafter₁
      obtain rfl := Option.some.inj htime
      obtain ⟨booted, hsaved, hafter₃⟩ := FileTree.after?_append.mp hafter₂
      obtain rfl := FileTree.eq_of_only (exercising_offDisk config) hexercising hafter₃
      exact archived_of_saved hsaved hname (bootLogName_isFileName time)
  | @both listened exercised time report hlistening hexercising _ _ =>
      have hname := hclear _ (bootLogName_mem_logNames time (by simp))
      obtain ⟨_, hlistened, hafter₁⟩ := FileTree.after?_append.mp hafter
      obtain rfl := FileTree.eq_of_only (listening_offDisk config) hlistening hlistened
      obtain ⟨_, htime, hafter₂⟩ := FileTree.after?_cons.mp hafter₁
      obtain rfl := Option.some.inj htime
      obtain ⟨booted, hsaved, hafter₃⟩ := FileTree.after?_append.mp hafter₂
      have hfirst := archived_of_saved hsaved hname (bootLogName_isFileName time)
      obtain ⟨_, hexercised, hafter₄⟩ := FileTree.after?_append.mp hafter₃
      obtain rfl := FileTree.eq_of_only (exercising_offDisk config) hexercising hexercised
      obtain ⟨versioned, hsaved', hclosed⟩ := FileTree.after?_append.mp hafter₄
      obtain rfl := Option.some.inj hclosed
      have hversion := hfirst.isClear (hclear versionLogName List.mem_cons_self)
      exact hfirst.append (archived_of_saved hsaved' hversion versionLogName_isFileName)

-- The two files of a report are different ones, and hold what was captured.
theorem Files.reported {report : Report} (h : Files config effects (.ok report) filed)
    (harchived : tree.Archived config.logRoot filed after) :
    report.bootLogPath ≠ report.versionLogPath ∧
      after.readFile report.bootLogPath = .ok (Utf8.bytes report.bootLog) ∧
      after.readFile report.versionLogPath = .ok (Utf8.bytes report.versionOutput) := by
  cases h with
  | @both _ _ time _ _ _ hbootLogPath hversionLogPath =>
      have hname := bootLogName_ne_versionLogName time
      rw [hbootLogPath, hversionLogPath]
      refine ⟨fun hpath => hname (Path.join_injective hpath), ?_, ?_⟩
      · refine harchived.readFile (bootLogName_isFileName time) ?_
        rw [latest?_cons, latest?_singleton, if_neg hname, if_pos rfl]
        rfl
      · refine harchived.readFile versionLogName_isFileName ?_
        rw [latest?_cons, latest?_singleton, if_pos rfl]
        rfl

theorem Files.latest?_version (h : Files config effects result filed) :
    latest? filed versionLogName = result.toOption.map Report.versionOutput := by
  cases h with
  | nothing _ => rfl
  | @bootLog _ _ _ time _ _ _ =>
      rw [latest?_singleton, if_neg (bootLogName_ne_versionLogName time).symm]
      rfl
  | both _ _ _ _ =>
      rw [latest?_cons, latest?_singleton, if_pos rfl]
      rfl

-- What a test leaves of a tree.
structure Leaves (config : Config) (trial : Trial) (filed : List (Name × String))
    (before after : FileTree) : Prop where
  files : Files config (trial.effects config) (trial.result config) filed
  archived : before.Archived config.logRoot filed after
  reported : ∀ report, trial.result config = .ok report →
    report.bootLogPath ≠ report.versionLogPath ∧
      after.readFile report.bootLogPath = .ok (Utf8.bytes report.bootLog) ∧
      after.readFile report.versionLogPath = .ok (Utf8.bytes report.versionOutput)

-- One test after the other, with everything that they file.
inductive History (config : Config) :
    List Trial → List (Name × String) → FileTree → FileTree → Prop
  | none {tree : FileTree} : History config [] [] tree tree
  | next {trial : Trial} {trials : List Trial} {filed later : List (Name × String)}
      {before after last : FileTree} (h : Leaves config trial filed before after)
      (hlater : History config trials later after last) :
      History config (trial :: trials) (filed ++ later) before last

def lastVersion? (config : Config) (trials : List Trial) : Option String :=
  trials.reverse.findSome? fun trial => (trial.result config).toOption.map Report.versionOutput

theorem History.archived {trials : List Trial} {last : FileTree}
    (h : History config trials filed tree last) : tree.Archived config.logRoot filed last := by
  induction h with
  | none => exact .nothing
  | next h _ ih => exact h.archived.append ih

theorem History.latest?_version {trials : List Trial} {last : FileTree}
    (h : History config trials filed tree last) :
    latest? filed versionLogName = lastVersion? config trials := by
  induction h with
  | none => rfl
  | next h _ ih =>
      rw [latest?_append, ih, h.files.latest?_version, lastVersion?, lastVersion?, List.reverse_cons,
        List.findSome?_append]
      simp

-- From test to test, the log folder holds what was filed last under each name, and all else is what it
-- was.
theorem tests_file_logs (config : Config) (trials : List Trial) {tree last : FileTree}
    (hlast : tree.after? (trials.flatMap (·.effects config)) = some last)
    (hclear : ∀ name ∈ logNames (trials.flatMap (·.effects config)),
      (tree.makeFolders config.logRoot).2.isClear config.logRoot name) :
    ∃ filed, History config trials filed tree last ∧
      tree.Archived config.logRoot filed last ∧
      latest? filed versionLogName = lastVersion? config trials := by
  have hhistory : ∃ filed, History config trials filed tree last := by
    induction trials generalizing tree with
    | nil =>
        cases hlast
        exact ⟨[], .none⟩
    | cons trial trials ih =>
        rw [List.flatMap_cons] at hlast hclear
        obtain ⟨after, hafter, hlater⟩ := FileTree.after?_append.mp hlast
        obtain ⟨filed, hfiles⟩ :=
          files_of_course (course_effects trial.bench config trial.world) hafter
        have harchived := hfiles.archived hafter fun name hname =>
          hclear name (logNames_subset (List.subset_append_left _ _) hname)
        obtain ⟨later, hhistory⟩ := ih hlater fun name hname =>
          harchived.isClear (hclear name (logNames_subset (List.subset_append_right _ _) hname))
        refine ⟨_, .next ⟨hfiles, harchived, fun report hreport => ?_⟩ hhistory⟩
        rw [Trial.result] at hreport
        rw [hreport] at hfiles
        exact hfiles.reported harchived
  obtain ⟨filed, hhistory⟩ := hhistory
  exact ⟨filed, hhistory, hhistory.archived, hhistory.latest?_version⟩

-- A board that cannot be flashed, as there is no build tool.
def toolMissing : RunError := .toolNotLaunched "make" (.plain .notFound)

def unflashed : Trial :=
  ⟨{ Playback.bench 4 with flash := fun world => (.error toolMissing, world) }, Playback.halting⟩

-- The connection is lost when the parameter is asked for.
def interrupted : Trial :=
  ⟨Playback.bench 4, 0, [.ok 4, .ok 4, .ok 0, .ok 5, .error (.plain .brokenPipe)],
    [Playback.whole "BOOT", Playback.whole "nsh> "]⟩

def halted : Trial := ⟨Playback.bench 4, Playback.halting⟩

-- Three tests within one second: one files nothing, one its boot log, and one files both logs.
theorem halted_files_logs :
    let config := Playback.bootingConfig
    let trials := [unflashed, interrupted, halted]
    let tree : FileTree := ⟨[], []⟩
    ∃ last, tree.after? (trials.flatMap (·.effects config)) = some last ∧
      (∀ name ∈ logNames (trials.flatMap (·.effects config)),
        (tree.makeFolders config.logRoot).2.isClear config.logRoot name) ∧
      ∃ filed, History config trials filed tree last ∧
        tree.Archived config.logRoot filed last ∧
        latest? filed versionLogName = lastVersion? config trials := by
  intro config trials tree
  have hafter : (tree.after? (trials.flatMap (·.effects config))).isSome := by decide +kernel
  have hclear : ∀ name ∈ logNames (trials.flatMap (·.effects config)),
      (tree.makeFolders config.logRoot).2.isClear config.logRoot name := by decide +kernel
  obtain ⟨last, hlast⟩ := Option.isSome_iff_exists.mp hafter
  exact ⟨last, hlast, hclear, tests_file_logs config trials hlast hclear⟩

end SmokeTest

end BoardSmoke
