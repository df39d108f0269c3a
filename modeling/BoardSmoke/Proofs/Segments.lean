import BoardSmoke.Proofs.Follows
import BoardSmoke.Proofs.Rounds

namespace BoardSmoke

open Session

namespace Channel

-- A read that gives nothing and is not interrupted. A filling ends with it.
def GivesNothing : Except Fault Reading → Prop
  | .ok reading => reading.count = 0
  | .error fault => fault.isInterruption = false

-- How a filling ends with such a read: without more bytes, or with the failure, unless that is a timeout.
def ending : Except Fault Reading → Except (Stop Fault) Bytes
  | .ok _ => .ok []
  | .error fault => if fault.isTimeout then .ok [] else .error (.failed fault)

theorem ending_ne_unfinished (outcome : Except Fault Reading) :
    ending outcome ≠ .error .unfinished := by
  cases outcome with
  | ok reading => exact nofun
  | error fault =>
      rw [ending]
      split <;> exact nofun

end Channel

-- A machine whose world is a buffer and all the rest. A read takes the front of the buffer. When there is
-- nothing to take, a read has one outcome, whatever room it is offered, and gives nothing.
structure Bench.Buffered (machine : Bench (Bytes × σ)) : Prop where
  read_front : ∀ room buffer rest, 0 < room → buffer ≠ [] →
    machine.read room (buffer, rest) =
      (.ok ⟨buffer.take room, (buffer.take room).length⟩, buffer.drop room, rest)
  read_dry : ∀ room rest, 0 < room → machine.read room ([], rest) = machine.read 1 ([], rest)
  dry_gives_nothing : ∀ rest, Channel.GivesNothing (machine.read 1 ([], rest)).1

-- The operation has the outcome of the machine's operation, and moves the core of the world as the
-- machine moves.
def Session.Tracks (core : ω → κ) (operation : ω → α × ω) (plain : κ → α × κ) : Prop :=
  ∀ world, ((operation world).1, core (operation world).2) = plain (core world)

-- A bench that is the machine at its core, but for its reads, its log and the time it tells. A read is
-- interrupted, which leaves all as it is, or it is a read of the machine with some of the room. There are
-- never more interruptions in a row than are left.
structure Bench.Segments (bench : Bench ω) (machine : Bench (Bytes × σ)) (core : ω → Bytes × σ)
    (left : ω → Nat) : Prop where
  read : ∀ room world, 0 < room →
    (∃ fault, (bench.read room world).1 = .error fault ∧ fault.isInterruption = true ∧
      core (bench.read room world).2 = core world ∧ left (bench.read room world).2 < left world) ∨
    ∃ part, 0 < part ∧ part ≤ room ∧
      ((bench.read room world).1, core (bench.read room world).2) = machine.read part (core world)
  note : ∀ record world, core (bench.note record world) = core world
  now : Tracks core bench.now machine.now
  sleep : ∀ duration world, core (bench.sleep duration world) = machine.sleep duration (core world)
  write : ∀ line, Tracks core (bench.write line) (machine.write line)
  available : Tracks core bench.available machine.available
  reset : Tracks core bench.reset machine.reset
  close : ∀ world, core (bench.close world) = machine.close (core world)
  makeFolders : ∀ path, Tracks core (bench.makeFolders path) (machine.makeFolders path)
  writeFile : ∀ path content,
    Tracks core (bench.writeFile path content) (machine.writeFile path content)
  flash : Tracks core bench.flash machine.flash
  openChannel : ∀ config, Tracks core (bench.openChannel config) (machine.openChannel config)
  localTime : ∀ world, core (bench.localTime world).2 = (machine.localTime (core world)).2

namespace Channel

variable {ω : Type} (channel : Channel ω)

theorem fill_patient (patience rounds : Nat) (buffer : Bytes) :
    (channel.patient patience).fill rounds buffer = channel.fill rounds buffer := by
  induction rounds generalizing buffer with
  | zero => cases buffer <;> rfl
  | succ rounds ih =>
      cases buffer with
      | nil => rfl
      | cons byte rest =>
          simp only [fill, ih]
          rfl

theorem runIn_fill_succ (rounds : Nat) {buffer : Bytes} (hroom : buffer ≠ []) (world : ω) :
    (channel.fill (rounds + 1) buffer).runIn world =
      match channel.read buffer.length world with
      | (.ok reading, middle) =>
        if reading.count = 0 then (.ok [], middle)
        else
          let filled := overlay buffer reading.placed
          let later := (channel.fill rounds (filled.drop reading.count)).runIn middle
          (later.1.map (filled.take reading.count ++ ·), later.2)
      | (.error fault, middle) =>
        if fault.isTimeout then (.ok [], middle)
        else if fault.isInterruption then (channel.fill rounds buffer).runIn middle
        else (.error (.failed fault), middle) := by
  cases buffer with
  | nil => exact absurd rfl hroom
  | cons byte rest =>
      rw [fill, runIn_bind, runIn_attempt]
      rcases channel.read (byte :: rest).length world with ⟨fault | reading, middle⟩
      · dsimp only
        split
        · rfl
        · split <;> rfl
      · dsimp only
        split
        · rfl
        · rw [runIn_bind]
          rcases (channel.fill rounds _).runIn middle with ⟨stop | later, after⟩ <;> rfl

theorem runIn_fill_interrupted (rounds : Nat) {buffer : Bytes} (hroom : buffer ≠ []) {fault : Fault}
    {world middle : ω} (hread : channel.read buffer.length world = (.error fault, middle))
    (hfault : fault.isInterruption = true) :
    (channel.fill (rounds + 1) buffer).runIn world = (channel.fill rounds buffer).runIn middle := by
  rw [runIn_fill_succ channel rounds hroom, hread]
  simp only [Fault.not_isTimeout_of_isInterruption hfault, hfault, Bool.false_eq_true, if_false,
    if_true]

theorem runIn_fill_ending (rounds : Nat) {buffer : Bytes} (hroom : buffer ≠ [])
    {outcome : Except Fault Reading} {world middle : ω}
    (hread : channel.read buffer.length world = (outcome, middle)) (hnothing : GivesNothing outcome) :
    (channel.fill (rounds + 1) buffer).runIn world = (ending outcome, middle) := by
  rw [runIn_fill_succ channel rounds hroom, hread]
  cases outcome with
  | ok reading => exact if_pos hnothing
  | error fault =>
      have hinterruption : ¬fault.isInterruption = true := Bool.eq_false_iff.mp hnothing
      simp only [hinterruption, ending]
      split <;> rfl

theorem runIn_fill_part (rounds : Nat) {buffer taken : Bytes} {world middle : ω}
    (hread : channel.read buffer.length world = (.ok ⟨taken, taken.length⟩, middle))
    (hpos : 0 < taken.length) (hfits : taken.length ≤ buffer.length) :
    (channel.fill (rounds + 1) buffer).runIn world =
      let later := (channel.fill rounds (buffer.drop taken.length)).runIn middle
      (later.1.map (taken ++ ·), later.2) := by
  have hroom : buffer ≠ [] := List.ne_nil_of_length_pos (Nat.lt_of_lt_of_le hpos hfits)
  rw [runIn_fill_succ channel rounds hroom, hread]
  simp only [Nat.ne_of_gt hpos, if_false, take_overlay hfits, drop_overlay hfits]

theorem fill_nil (rounds : Nat) : channel.fill rounds [] = pure [] := by
  cases rounds <;> rfl

-- More rounds make no difference to a buffer that was filled with fewer.
theorem runIn_fill_of_le {rounds rounds' : Nat} (hle : rounds ≤ rounds') {buffer : Bytes} {world : ω}
    (hends : ((channel.fill rounds buffer).runIn world).1 ≠ .error .unfinished) :
    (channel.fill rounds' buffer).runIn world = (channel.fill rounds buffer).runIn world := by
  by_cases hroom : buffer = []
  · rw [hroom, fill_nil, fill_nil]
  induction rounds generalizing rounds' buffer world with
  | zero =>
      cases buffer with
      | nil => exact absurd rfl hroom
      | cons byte rest => exact absurd rfl hends
  | succ rounds ih =>
      obtain ⟨more, rfl⟩ : ∃ more, rounds' = more + 1 := ⟨rounds' - 1, by omega⟩
      have hmore : rounds ≤ more := by omega
      rw [runIn_fill_succ channel rounds hroom] at hends
      rw [runIn_fill_succ channel more hroom, runIn_fill_succ channel rounds hroom]
      rcases hread : channel.read buffer.length world with ⟨fault | reading, middle⟩
      case error =>
        simp only [hread] at hends ⊢
        split
        · rfl
        split
        · next htimeout hinterruption =>
            rw [if_neg htimeout, if_pos hinterruption] at hends
            exact ih hmore hends hroom
        · rfl
      case ok =>
        simp only [hread] at hends ⊢
        split
        · rfl
        · next hcount =>
            rw [if_neg hcount] at hends
            by_cases hleft : (overlay buffer reading.placed).drop reading.count = []
            · rw [hleft, fill_nil, fill_nil]
            · rw [ih hmore (fun hstop => hends (by rw [hstop]; rfl)) hleft]

end Channel

namespace Bench

variable {σ : Type} {machine : Bench (Bytes × σ)}

-- What `total` bytes are that a machine is asked for, in as many reads as it takes: the front of the
-- buffer, or all of the buffer up to the read that finds it empty.
def drawn (machine : Bench (Bytes × σ)) (total : Nat) :
    Bytes × σ → Except (Stop Fault) Bytes × Bytes × σ
  | (buffer, rest) =>
    if total ≤ buffer.length then (.ok (buffer.take total), buffer.drop total, rest)
    else
      let (outcome, after) := machine.read 1 ([], rest)
      ((Channel.ending outcome).map (buffer ++ ·), after)

theorem drawn_zero (machine : Bench (Bytes × σ)) (world : Bytes × σ) :
    machine.drawn 0 world = (.ok [], world) := by
  rw [drawn, if_pos (Nat.zero_le _)]
  rfl

theorem drawn_nil (machine : Bench (Bytes × σ)) {total : Nat} (rest : σ) (htotal : 0 < total) :
    machine.drawn total ([], rest) =
      (Channel.ending (machine.read 1 ([], rest)).1, (machine.read 1 ([], rest)).2) := by
  have hshort : ¬total ≤ ([] : Bytes).length := Nat.not_le.mpr htotal
  rw [drawn, if_neg hshort]
  dsimp only
  cases Channel.ending (machine.read 1 ([], rest)).1 <;> rfl

theorem drawn_ne_unfinished (total : Nat) (world : Bytes × σ) :
    (machine.drawn total world).1 ≠ .error .unfinished := by
  obtain ⟨buffer, rest⟩ := world
  rw [drawn]
  split
  · exact nofun
  · have hending := Channel.ending_ne_unfinished (machine.read 1 ([], rest)).1
    dsimp only
    cases hcase : Channel.ending (machine.read 1 ([], rest)).1 with
    | ok bytes => exact nofun
    | error stop =>
        rw [hcase] at hending
        exact hending

theorem drawn_part (machine : Bench (Bytes × σ)) {total part : Nat} (buffer : Bytes) (rest : σ)
    (hpart : part ≤ total) :
    machine.drawn total (buffer, rest) =
      let later := machine.drawn (total - (buffer.take part).length) (buffer.drop part, rest)
      (later.1.map (buffer.take part ++ ·), later.2) := by
  have hlength : (buffer.take part).length = min part buffer.length := List.length_take
  have hleft : (buffer.drop part).length = buffer.length - part := List.length_drop
  simp only [drawn]
  by_cases htotal : total ≤ buffer.length
  · have hcount : (buffer.take part).length = part := by omega
    have hrest : total - part ≤ (buffer.drop part).length := by omega
    have hfront : buffer.take total = buffer.take part ++ (buffer.drop part).take (total - part) := by
      rw [← List.take_add, Nat.add_sub_cancel' hpart]
    have hback : (buffer.drop part).drop (total - part) = buffer.drop total := by
      rw [List.drop_drop, Nat.add_sub_cancel' hpart]
    rw [hcount, if_pos htotal, if_pos hrest, hfront, hback]
    rfl
  · have hrest : ¬total - (buffer.take part).length ≤ (buffer.drop part).length := by omega
    rw [if_neg htotal, if_neg hrest]
    cases Channel.ending (machine.read 1 ([], rest)).1 with
    | ok bytes => simp only [Except.map, ← List.append_assoc, List.take_append_drop]
    | error stop => rfl

end Bench

namespace Bench.Segments

variable {ω σ : Type} {bench : Bench ω} {machine : Bench (Bytes × σ)} {core : ω → Bytes × σ}
  {left : ω → Nat}

-- Some number of rounds is enough to fill a buffer. What is put there is what the machine gives.
theorem fill_ends (hmachine : machine.Buffered) (h : bench.Segments machine core left)
    (buffer : Bytes) (world : ω) :
    ∃ rounds after,
      (bench.fill rounds buffer).runIn world =
        ((machine.drawn buffer.length (core world)).1, after) ∧
      core after = (machine.drawn buffer.length (core world)).2 := by
  -- a part leaves less of the buffer to be filled, an interruption leaves fewer of them to come
  induction hsize : buffer.length using Nat.strongRecOn generalizing buffer world with
  | ind size ihSize =>
  induction hleft : left world using Nat.strongRecOn generalizing world with
  | ind interruptions ihLeft =>
  subst hsize hleft
  by_cases hroom : buffer = []
  · rw [hroom, List.length_nil, machine.drawn_zero]
    exact ⟨0, world, rfl, rfl⟩
  have hlength : 0 < buffer.length := List.length_pos_iff.mpr hroom
  have hcases := h.read buffer.length world hlength
  rcases hread : bench.read buffer.length world with ⟨outcome, middle⟩
  rw [hread] at hcases
  obtain ⟨fault, rfl, hfault, hcore, hless⟩ | ⟨part, hpos, hpart, hpartRead⟩ := hcases
  case inl =>
    obtain ⟨rounds, after, hrun, hafter⟩ := ihLeft _ hless middle rfl
    refine ⟨rounds + 1, after, ?_, by rw [hafter, hcore]⟩
    rw [Channel.runIn_fill_interrupted _ _ hroom hread hfault, hrun, hcore]
  rcases hworld : core world with ⟨buffered, rest⟩
  rw [hworld] at hpartRead
  by_cases hdry : buffered = []
  case pos =>
    rw [hdry, hmachine.read_dry part rest hpos] at hpartRead
    have hnothing := hmachine.dry_gives_nothing rest
    rw [← hpartRead] at hnothing
    rw [hdry, machine.drawn_nil rest hlength, ← hpartRead]
    exact ⟨1, middle, Channel.runIn_fill_ending _ _ hroom hread hnothing, rfl⟩
  case neg =>
    rw [hmachine.read_front part buffered rest hpos hdry] at hpartRead
    obtain ⟨rfl, hmiddle⟩ := Prod.mk.inj hpartRead
    have htaken : 0 < (buffered.take part).length := by
      rw [List.length_take]
      exact Nat.lt_min.mpr ⟨hpos, List.length_pos_iff.mpr hdry⟩
    have hfits : (buffered.take part).length ≤ buffer.length :=
      Nat.le_trans (List.length_take_le _ _) hpart
    obtain ⟨rounds, after, hrun, hafter⟩ :=
      ihSize _ (by rw [List.length_drop]; omega) (buffer.drop (buffered.take part).length) middle rfl
    rw [List.length_drop, hmiddle] at hrun hafter
    have hdrawn := machine.drawn_part buffered rest hpart
    refine ⟨rounds + 1, after, ?_, by rw [hafter, hdrawn]⟩
    rw [Channel.runIn_fill_part _ _ hread htaken hfits, hrun, hdrawn]

-- However many rounds a buffer was filled in, what was put there is what the machine gives.
theorem runIn_fill (hmachine : machine.Buffered) (h : bench.Segments machine core left) {rounds : Nat}
    {buffer : Bytes} {world : ω}
    (hends : ((bench.fill rounds buffer).runIn world).1 ≠ .error .unfinished) :
    ((bench.fill rounds buffer).runIn world).1 = (machine.drawn buffer.length (core world)).1 ∧
      core ((bench.fill rounds buffer).runIn world).2 =
        (machine.drawn buffer.length (core world)).2 := by
  obtain ⟨enough, after, hrun, hafter⟩ := h.fill_ends hmachine buffer world
  have hmost := Channel.runIn_fill_of_le _ (Nat.le_max_left rounds enough) hends
  have hmost' := Channel.runIn_fill_of_le bench.toChannel (Nat.le_max_right rounds enough)
    (by rw [hrun]; exact machine.drawn_ne_unfinished _ _)
  rw [← hmost, hmost', hrun]
  exact ⟨rfl, hafter⟩

end Bench.Segments

-- The bound on the rounds of the loops has nothing to do with it.
theorem Bench.Segments.patient {ω σ : Type} {bench : Bench ω} {machine : Bench (Bytes × σ)}
    {core : ω → Bytes × σ} {left : ω → Nat} (h : bench.Segments machine core left) (patience : Nat) :
    (bench.patient patience).Segments machine core left where
  read := h.read
  note := h.note
  now := h.now
  sleep := h.sleep
  write := h.write
  available := h.available
  reset := h.reset
  close := h.close
  makeFolders := h.makeFolders
  writeFile := h.writeFile
  flash := h.flash
  openChannel := h.openChannel
  localTime := h.localTime

end BoardSmoke
