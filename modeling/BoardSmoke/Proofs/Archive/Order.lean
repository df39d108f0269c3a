import BoardSmoke.Proofs.Archive
import BoardSmoke.Proofs.Calendar.Stamp

namespace BoardSmoke

namespace Timestamp

-- Except in a leap second, clocks show the second that the moment is in.
theorem localTime_of_lt {timestamp : Timestamp} (h : timestamp.nanoseconds < Duration.perSecond) :
    timestamp.localTime = LocalTime.ofEpoch timestamp.epoch timestamp.offset := by
  have hnoleap : ∀ (time : LocalTime) (count : Nat), count = 0 →
      { time with second := time.second + count } = time := by
    rintro time _ rfl
    rfl
  exact hnoleap _ _ (Nat.div_eq_of_lt h)

end Timestamp

namespace Archive

open Session

variable {ω : Type}

theorem save_path {journal : Journal ω} {disk : Disk ω} {root : Bytes} {name : Name} {text : String}
    {world after : ω} {path : Bytes}
    (h : (save journal disk root name text).runIn world = (.ok path, after)) :
    path = Path.join root name := by
  obtain ⟨_, _, _, h⟩ := runIn_bind_ok_iff.mp h
  obtain ⟨_, _, _, h⟩ := runIn_bind_ok_iff.mp h
  obtain ⟨_, _, _, h⟩ := runIn_bind_ok_iff.mp h
  obtain ⟨hpath, _⟩ := Prod.mk.inj h
  exact (Except.ok.inj hpath).symm

-- All that the names of boot logs differ in is the stamp.
theorem compare_bootLogName {time other : LocalTime} (htime : time.Proper) (hother : other.Proper)
    (hyear : 0 ≤ time.year ∧ time.year ≤ 9999) (hyear' : 0 ≤ other.year ∧ other.year ≤ 9999) :
    compare (bootLogName time) (bootLogName other) = time.order other := by
  have hend : Utf8.bytes ".log" = Utf8.encode ".log".toList := rfl
  have hsame : ∀ bytes : Bytes, compare bytes bytes = .eq := fun _ => Std.ReflCmp.compare_self
  rw [bootLogName_eq, bootLogName_eq, compare_append rfl, hsame, Ordering.eq_then, hend,
    LocalTime.compare_stamp htime.twoDigits hother.twoDigits hyear hyear', hsame, Ordering.then_eq]

-- Boot logs that are taken under one offset, in the years that have four digits, sort by name as by the
-- second that they were taken in.
theorem boot_logs_sort_by_time (journal : Journal ω) (disk : Disk ω) (root : Bytes)
    {text text' : String} {first second : Timestamp} {world world' after after' : ω}
    {path path' : Bytes} (hoffset : first.offset = second.offset)
    (hfirst : first.nanoseconds < Duration.perSecond)
    (hsecond : second.nanoseconds < Duration.perSecond)
    (hyear : 0 ≤ first.localTime.year ∧ first.localTime.year ≤ 9999)
    (hyear' : 0 ≤ second.localTime.year ∧ second.localTime.year ≤ 9999)
    (hsaved : (saveBootLog journal disk root text first.localTime).runIn world = (.ok path, after))
    (hsaved' :
      (saveBootLog journal disk root text' second.localTime).runIn world' = (.ok path', after')) :
    path = Path.join root (bootLogName first.localTime) ∧
      path' = Path.join root (bootLogName second.localTime) ∧
      compare (bootLogName first.localTime) (bootLogName second.localTime) =
        compare first.epoch second.epoch ∧
      (bootLogName first.localTime = bootLogName second.localTime ↔ first.epoch = second.epoch) := by
  have hcompare : compare (bootLogName first.localTime) (bootLogName second.localTime) =
      compare first.epoch second.epoch := by
    rw [Timestamp.localTime_of_lt hfirst] at hyear ⊢
    rw [Timestamp.localTime_of_lt hsecond] at hyear' ⊢
    have hproper := LocalTime.ofEpoch_proper first.epoch first.offset
    have hproper' := LocalTime.ofEpoch_proper second.epoch second.offset
    rw [compare_bootLogName hproper hproper' hyear hyear', ← LocalTime.compare_rank hproper hproper',
      LocalTime.compare_rank_ofEpoch, hoffset, ← cmp_eq_compare, cmp_add_right, cmp_eq_compare]
  refine ⟨save_path hsaved, save_path hsaved', hcompare, ?_⟩
  rw [← Std.compare_eq_iff_eq, hcompare, Std.compare_eq_iff_eq]

-- In 1900 there was no leap day between the last second of February and the first one of March.
theorem february_log_sorts_first :
    let february : Timestamp := { epoch := -2203894801, nanoseconds := 999999999, offset := 3600 }
    let march : Timestamp := { epoch := -2203894800, nanoseconds := 0, offset := 3600 }
    let save (time : Timestamp) :=
      (saveBootLog Workbench.journal Workbench.disk Morning.root "" time.localTime).runIn Morning.bench
    ∃ path path', (save february).1 = .ok path ∧ (save march).1 = .ok path' ∧
      path = Path.join Morning.root (bootLogName february.localTime) ∧
      path' = Path.join Morning.root (bootLogName march.localTime) ∧
      compare (bootLogName february.localTime) (bootLogName march.localTime) =
        compare february.epoch march.epoch ∧
      (bootLogName february.localTime = bootLogName march.localTime ↔
        february.epoch = march.epoch) := by
  intro february march save
  have hfebruary : (save february).1 = .ok (Utf8.bytes "logs/boot_19000228_235959.log") := by
    decide +kernel
  have hmarch : (save march).1 = .ok (Utf8.bytes "logs/boot_19000301_000000.log") := by
    decide +kernel
  have hyears : (0 ≤ february.localTime.year ∧ february.localTime.year ≤ 9999) ∧
      0 ≤ march.localTime.year ∧ march.localTime.year ≤ 9999 := by decide +kernel
  exact ⟨_, _, hfebruary, hmarch, boot_logs_sort_by_time Workbench.journal Workbench.disk Morning.root
    rfl (by decide) (by decide) hyears.1 hyears.2 (Prod.fst_eq_iff.mp hfebruary)
    (Prod.fst_eq_iff.mp hmarch)⟩

end Archive

end BoardSmoke
