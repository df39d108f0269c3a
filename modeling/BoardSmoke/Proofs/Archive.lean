import BoardSmoke.Proofs.Calendar
import BoardSmoke.Proofs.FileTree.Filing
import BoardSmoke.Proofs.Session
import BoardSmoke.Proofs.Text.Utf8
import BoardSmoke.Workbench
import Mathlib.Data.Prod.Basic

namespace BoardSmoke

-- A moment with the offset of local clocks at that moment, both in seconds, and the nanoseconds since
-- the second began. A leap second goes on in the second before it.
structure Timestamp where
  epoch : Int
  nanoseconds : Nat
  offset : Int
  within : nanoseconds < 2 * Duration.perSecond := by decide

namespace Timestamp

def localTime (timestamp : Timestamp) : LocalTime :=
  let time := LocalTime.ofEpoch timestamp.epoch timestamp.offset
  { time with second := time.second + timestamp.nanoseconds / Duration.perSecond }

def moment (timestamp : Timestamp) : Int × Nat := (timestamp.epoch, timestamp.nanoseconds)

theorem localTime_twoDigits (timestamp : Timestamp) : timestamp.localTime.TwoDigits := by
  obtain ⟨hmonth, hday, hhour, hminute, hsecond, _⟩ :=
    LocalTime.ofEpoch_spec timestamp.epoch timestamp.offset
  have hleap : timestamp.nanoseconds / Duration.perSecond < 2 :=
    Nat.div_lt_of_lt_mul (Nat.mul_comm 2 _ ▸ timestamp.within)
  have hfields : ∀ (time : LocalTime) (count : Nat), time.month ≤ 12 → time.day ≤ 31 → time.hour < 24 →
      time.minute < 60 → time.second < 60 → count < 2 →
      LocalTime.TwoDigits { time with second := time.second + count } := by
    intro time count _ _ _ _ _ _
    constructor <;> dsimp only <;> omega
  exact hfields _ _ hmonth hday hhour hminute hsecond hleap

end Timestamp

namespace Archive

open Session

theorem bootLogName_eq (time : LocalTime) :
    bootLogName time =
      Utf8.bytes "boot_" ++ (Utf8.bytes time.stamp ++ Utf8.bytes ".log") := by
  rw [bootLogName, Utf8.bytes_append, Utf8.bytes_append, List.append_assoc]

theorem head?_bootLogName (time : LocalTime) :
    (bootLogName time).head? = (Utf8.bytes "boot_").head? := by
  rw [bootLogName_eq, List.head?_append_of_ne_nil _ (by decide)]

theorem bootLogName_isFileName (time : LocalTime) : Path.IsFileName (bootLogName time) := by
  have hne : ∀ name : Name, (Utf8.bytes "boot_").head? ≠ name.head? → bootLogName time ≠ name :=
    fun name hhead hname => hhead (hname ▸ (head?_bootLogName time).symm)
  have hslash : '/' ∉ ("boot_" ++ time.stamp ++ ".log").toList := by
    simp [LocalTime.slash_notMem_stamp]
  exact ⟨hne [] (by decide), Utf8.ascii_notMem_bytes (by decide) hslash, hne _ (by decide),
    hne _ (by decide)⟩

theorem versionLogName_isFileName : Path.IsFileName versionLogName := by
  constructor <;> decide +kernel

theorem bootLogName_ne_versionLogName (time : LocalTime) : bootLogName time ≠ versionLogName := by
  intro h
  have hhead := head?_bootLogName time
  rw [h] at hhead
  exact absurd hhead (by decide)

theorem bootLogName_injective {time other : LocalTime} (htime : time.TwoDigits)
    (hother : other.TwoDigits) (h : bootLogName time = bootLogName other) : time = other := by
  rw [bootLogName_eq, bootLogName_eq] at h
  have hstamp := List.append_cancel_right (List.append_cancel_left h)
  exact LocalTime.stamp_injective htime hother (Utf8.bytes_injective hstamp)

inductive Deposit where
  | bootLog (text : String) (time : Timestamp)
  | versionOutput (text : String)

namespace Deposit

def filing : Deposit → Name × String
  | .bootLog text time => (bootLogName time.localTime, text)
  | .versionOutput text => (versionLogName, text)

def save (root : Bytes) : Deposit → Session Workbench RunError Bytes
  | .bootLog text time =>
    saveBootLog Workbench.journal Workbench.disk root text time.localTime
  | .versionOutput text => saveVersionOutput Workbench.journal Workbench.disk root text

theorem save_eq (root : Bytes) (deposit : Deposit) :
    deposit.save root =
      Archive.save Workbench.journal Workbench.disk root deposit.filing.1 deposit.filing.2 := by
  cases deposit <;> simp only [Deposit.save, filing, saveBootLog, saveVersionOutput]

theorem filing_isFileName (deposit : Deposit) : Path.IsFileName deposit.filing.1 := by
  cases deposit <;> simp only [filing, bootLogName_isFileName, versionLogName_isFileName]

end Deposit

def saveAll (root : Bytes) (deposits : List Deposit) : Session Workbench RunError (List Bytes) :=
  deposits.mapM (Deposit.save root)

theorem onTree_ok_iff {operation : FileTree → Except Fault Unit × FileTree}
    {bench after : Workbench} :
    Workbench.onTree operation bench = (.ok (), after) ↔
      ∃ tree, operation bench.tree = (.ok (), tree) ∧ after = { bench with tree } := by
  rw [Workbench.onTree]
  rcases operation bench.tree with ⟨fault | _, tree⟩ <;> simp [eq_comm]

theorem makeFolders_ok_iff {path : Bytes} {bench after : Workbench} :
    Workbench.disk.makeFolders path bench = (.ok (), after) ↔
      ∃ tree, bench.tree.makeFolders path = (.ok (), tree) ∧ after = { bench with tree } := by
  simp only [Workbench.disk, onTree_ok_iff]

theorem writeFile_ok_iff {path content : Bytes} {bench after : Workbench} :
    Workbench.disk.writeFile path content bench = (.ok (), after) ↔
      ∃ tree, bench.tree.writeFile path content = (.ok (), tree) ∧ after = { bench with tree } := by
  simp only [Workbench.disk, onTree_ok_iff]

theorem save_runIn {root : Bytes} {name : Name} {text : String} {bench after : Workbench}
    {path : Bytes}
    (h : (save Workbench.journal Workbench.disk root name text).runIn bench = (.ok path, after)) :
    path = Path.join root name ∧ ∃ made,
      bench.tree.makeFolders root = (.ok (), made) ∧
      made.writeFile (Path.join root name) (Utf8.bytes text) = (.ok (), after.tree) := by
  obtain ⟨_, _, hmake, h⟩ := runIn_bind_ok_iff.mp h
  have hmake := runIn_call_ok_iff.mp (runIn_mapError_ok_iff.mp hmake)
  obtain ⟨made, hmade, rfl⟩ := makeFolders_ok_iff.mp hmake
  obtain ⟨_, noted, hnote, h⟩ := runIn_bind_ok_iff.mp h
  obtain ⟨_, _, hwrite, h⟩ := runIn_bind_ok_iff.mp h
  have hwrite := runIn_call_ok_iff.mp (runIn_mapError_ok_iff.mp hwrite)
  obtain ⟨written, hwritten, rfl⟩ := writeFile_ok_iff.mp hwrite
  cases hnote
  obtain ⟨hpath, rfl⟩ := Prod.mk.inj h
  exact ⟨(Except.ok.inj hpath).symm, made, hmade, hwritten⟩

-- Everything that is saved is filed under its name, one thing after the other.
theorem saveAll_archived {root : Bytes} {deposits : List Deposit} {bench after : Workbench}
    {paths : List Bytes} (h : (saveAll root deposits).runIn bench = (.ok paths, after))
    (hclear : ∀ deposit ∈ deposits,
      (bench.tree.makeFolders root).2.isClear root deposit.filing.1) :
    paths = deposits.map (fun deposit => Path.join root deposit.filing.1) ∧
      FileTree.Archived root (deposits.map Deposit.filing) bench.tree after.tree := by
  induction deposits generalizing bench paths with
  | nil =>
      cases h
      exact ⟨rfl, .nothing⟩
  | cons deposit deposits ih =>
      rw [saveAll, List.mapM_cons] at h
      obtain ⟨path, saved, hsave, h⟩ := runIn_bind_ok_iff.mp h
      obtain ⟨later, last, hlater, h⟩ := runIn_bind_ok_iff.mp h
      cases h
      rw [Deposit.save_eq] at hsave
      obtain ⟨rfl, made, hmake, hwrite⟩ := save_runIn hsave
      have hfirst := hclear deposit List.mem_cons_self
      rw [hmake] at hfirst
      obtain ⟨folder, hfiling⟩ :=
        FileTree.filing_of_writeFile hmake hfirst deposit.filing_isFileName hwrite
      have harchived := FileTree.Archived.filed (List.cons_ne_nil _ _) hfiling
      obtain ⟨rfl, hrest⟩ := ih hlater fun deposit hdeposit =>
        harchived.isClear (hclear deposit (List.mem_cons_of_mem _ hdeposit))
      exact ⟨rfl, harchived.append hrest⟩

-- A boot log is still read from the path that was given for it, whatever is saved later, as long as no
-- later boot log has the same local time to the second.
theorem boot_log_kept (root : Bytes) (earlier later : List Deposit) (text : String)
    (time : Timestamp) {bench after : Workbench} {paths : List Bytes}
    (hrun : (saveAll root (earlier ++ .bootLog text time :: later)).runIn bench =
      (.ok paths, after))
    (hclear : ∀ deposit ∈ earlier ++ .bootLog text time :: later,
      (bench.tree.makeFolders root).2.isClear root deposit.filing.1)
    (hlater : ∀ text' other, .bootLog text' other ∈ later → other.localTime ≠ time.localTime) :
    ∃ path, paths[earlier.length]? = some path ∧
      after.tree.readFile path = .ok (Utf8.bytes text) := by
  obtain ⟨rfl, harchived⟩ := saveAll_archived hrun hclear
  refine ⟨Path.join root (bootLogName time.localTime), by simp [Deposit.filing], ?_⟩
  refine harchived.readFile (bootLogName_isFileName time.localTime) ?_
  have hunfiled : latest? (later.map Deposit.filing) (bootLogName time.localTime) = none := by
    rw [latest?_eq_none_iff]
    intro filing hfiling hname
    obtain ⟨deposit, hdeposit, rfl⟩ := List.mem_map.mp hfiling
    cases deposit with
    | bootLog text' other =>
        simp only [Deposit.filing] at hname
        exact hlater text' other hdeposit (bootLogName_injective other.localTime_twoDigits
          time.localTime_twoDigits hname)
    | versionOutput text' =>
        simp only [Deposit.filing] at hname
        exact bootLogName_ne_versionLogName time.localTime hname.symm
  rw [List.map_append, List.map_cons, List.append_cons, latest?_append, hunfiled, latest?_append]
  simp only [Deposit.filing, latest?_singleton, if_true]
  rfl

namespace Morning

def root : Bytes := Utf8.bytes "logs"

def bench : Workbench := { Workbench.empty "work" (.ofEpoch 0 0) with tree := ⟨[], []⟩ }

-- A link leads from the version output to the boot log of 42 seconds past.
def linkedBench : Workbench :=
  let place (name : String) : Place := [root, Utf8.bytes name]
  { bench with tree := ⟨[([root], .folder),
      (place "latest_ver_all.log", .link (Utf8.bytes "boot_20240309_070542.log"))], []⟩ }

-- Some seconds past five past seven in UTC.
def time (seconds : Int) (nanoseconds : Nat) (h : nanoseconds < 2 * Duration.perSecond := by decide) :
    Timestamp :=
  { epoch := 1709967900 + seconds, nanoseconds, offset := 0, within := h }

def first : Deposit := .bootLog "first" (time 42 0)

def later : List Deposit := [.versionOutput "version", .bootLog "second" (time 43 0)]

end Morning

open Morning in
theorem morning_log_kept :
    let saved := (saveAll root ([] ++ first :: later)).runIn bench
    ∃ paths,
      saved.1 = .ok paths ∧
      (∀ deposit ∈ [] ++ first :: later,
        (bench.tree.makeFolders root).2.isClear root deposit.filing.1) ∧
      (∀ text other, .bootLog text other ∈ later → other.localTime ≠ (time 42 0).localTime) ∧
      ∃ path, paths[([] : List Deposit).length]? = some path ∧
        saved.2.tree.readFile path = .ok (Utf8.bytes "first") := by
  have hsaved : ((saveAll root ([] ++ first :: later)).runIn bench).1 =
      .ok (["logs/boot_20240309_070542.log", "logs/latest_ver_all.log",
        "logs/boot_20240309_070543.log"].map Utf8.bytes) := by decide +kernel
  have hclear : ∀ deposit ∈ [] ++ first :: later,
      (bench.tree.makeFolders root).2.isClear root deposit.filing.1 := by decide +kernel
  have hlater : ∀ text other, .bootLog text other ∈ later →
      other.localTime ≠ (time 42 0).localTime := by
    intro text other hother
    simp only [later, List.mem_cons, reduceCtorEq, false_or, List.not_mem_nil, or_false,
      Deposit.bootLog.injEq] at hother
    rw [hother.2]
    decide
  exact ⟨_, hsaved, hclear, hlater, boot_log_kept root [] later "first" (time 42 0)
    (Prod.fst_eq_iff.mp hsaved) hclear hlater⟩

def readBack (root : Bytes) (deposits : List Deposit) (bench : Workbench) :
    List (Except Errno Bytes) :=
  match (saveAll root deposits).runIn bench with
  | (.ok paths, after) => paths.map after.tree.readFile
  | _ => []

open Morning in
-- A boot log is lost when another one is written half a second later, or an hour later when the
-- clocks are set back by an hour, or when the version output is linked to it.
theorem boot_log_not_always_kept :
    let hourLater : Timestamp := { time 3642 0 with offset := -3600 }
    (time 42 0).moment ≠ (time 42 500000000).moment ∧
    readBack root [.bootLog "first" (time 42 0), .bootLog "second" (time 42 500000000)] bench =
      [.ok (Utf8.bytes "second"), .ok (Utf8.bytes "second")] ∧
    (time 42 0).moment ≠ hourLater.moment ∧
    readBack root [.bootLog "first" (time 42 0), .bootLog "second" hourLater] bench =
      [.ok (Utf8.bytes "second"), .ok (Utf8.bytes "second")] ∧
    readBack root [.bootLog "first" (time 42 0), .versionOutput "version"] linkedBench =
      [.ok (Utf8.bytes "version"), .ok (Utf8.bytes "version")] := by
  decide +kernel

end Archive

end BoardSmoke
