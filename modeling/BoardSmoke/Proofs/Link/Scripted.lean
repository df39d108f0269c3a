import BoardSmoke.Link.Scripted
import BoardSmoke.Proofs.Board.Working
import BoardSmoke.Proofs.Board.Shell

namespace BoardSmoke

namespace Scripted

-- A bench with a scripted link, where all else succeeds and time passes by sleeping only.
def bench (patience : Nat) : Bench (Scripted × Nat) where
  note _ world := world
  now world := (world.2, world)
  sleep duration world := (world.1, world.2 + duration.nanoseconds)
  write line world := ((world.1.write line).1, (world.1.write line).2, world.2)
  available world := (world.1.available.1, world.1.available.2, world.2)
  read room world := ((world.1.read room).1, (world.1.read room).2, world.2)
  reset world := (world.1.reset.1, world.1.reset.2, world.2)
  close world := (world.1.close, world.2)
  patience := patience
  makeFolders _ world := (.ok (), world)
  writeFile _ _ world := (.ok (), world)
  flash world := (.ok (), world)
  openChannel _ world := (.ok (), world)
  localTime world := (⟨2025, 1, 1, 0, 0, 0⟩, world)

-- A read that takes something, or is interrupted.
def Harmless : ReadStep → Prop
  | .plain => True
  | .fails fault => fault.isInterruption = true
  | .atMost count => 0 < count
  | .yields .. => False

-- The link has a shell that listens at its end, and its script only cuts and interrupts reads.
structure Listens (echo : Bool) (shell : Shell) (link : Scripted) : Prop where
  board : link.board = ⟨[], .shell shell⟩
  ignored : shell.ignored = []
  echo : shell.echo = echo
  availables : link.availables = []
  writes : link.writes = []
  resets : link.resets = []
  reads : ∀ step ∈ link.reads, Harmless step
  longestRead : ∀ count ∈ link.longestRead, 0 < count

def held (link : Scripted) : Parameters :=
  match link.board.responder with
  | .shell shell => shell.held
  | .replies _ => fun _ => none

def outlook (echo : Bool) : Outlook (Scripted × Nat) where
  Ready world := ∃ shell, Listens echo shell world.1
  line world := ⟨world.1.held, [], world.1.buffer⟩
  interruptions world := world.1.reads.length
  time world := world.2

variable {echo : Bool} {shell : Shell} {link : Scripted} {time : Nat}

theorem Listens.held_eq (h : Listens echo shell link) : link.held = shell.held := by
  rw [held, h.board]

theorem takes_of_buffer {link' : Scripted} {time' : Nat} {first : Bytes}
    (h : Listens echo shell link) (h' : Listens echo shell link')
    (hbuffer : first ++ link'.buffer = link.buffer) (htime : time ≤ time') :
    (outlook echo).Takes first (link, time) (link', time') where
  ready := ⟨shell, h'⟩
  parameters := h'.held_eq.trans h.held_eq.symm
  unread := by simpa [outlook, Line.unread] using hbuffer
  underway := List.suffix_refl _
  time := htime

theorem available_eq (h : Listens echo shell link) :
    link.available = (.ok link.buffer.length, { link with availables := [] }.called
      ("avail " ++ toString link.buffer.length)) := by
  simp only [available, h.availables]
  rfl

theorem reset_eq (h : Listens echo shell link) :
    link.reset = (.ok (), { link.called "reset" with
      resets := [], buffer := link.boot.getD [], boot := none }) := by
  simp only [reset, h.resets]
  rfl

theorem read_eq (h : Listens echo shell link) {room : Nat} (hroom : 0 < room)
    (hbuffer : room ≤ link.buffer.length) :
    (∃ fault step rest, link.reads = step :: rest ∧ fault.isInterruption = true ∧
      link.read room = (.error fault, { link with reads := rest }.called "read!")) ∨
    ∃ count, 0 < count ∧ count ≤ room ∧
      link.read room = (.ok ⟨link.buffer.take count, count⟩,
        { link with reads := link.reads.tail, buffer := link.buffer.drop count }.called
          ("read " ++ toString room ++ " " ++ toString count)) := by
  have hlongest : 0 < link.longestRead.getD room := by
    cases hlimit : link.longestRead with
    | none => exact hroom
    | some limit => exact h.longestRead limit hlimit
  have htake {limit : Nat} (hlimit : 0 < limit) :
      0 < min limit room ∧ min limit room ≤ room ∧
        (link.buffer.take (min limit room)).length = min limit room := by
    rw [List.length_take]
    omega
  cases hreads : link.reads with
  | nil =>
      obtain ⟨hpos, hle, hlength⟩ := htake hlongest
      refine .inr ⟨min (link.longestRead.getD room) room, hpos, hle, ?_⟩
      simp only [read, hreads, List.headD_nil, List.tail_nil, hlength]
  | cons step rest =>
      have hharmless := h.reads step (hreads ▸ List.mem_cons_self)
      cases step with
      | plain =>
          obtain ⟨hpos, hle, hlength⟩ := htake hlongest
          refine .inr ⟨min (link.longestRead.getD room) room, hpos, hle, ?_⟩
          simp only [read, hreads, List.headD_cons, List.tail_cons, hlength]
      | fails fault => exact .inl ⟨fault, _, rest, rfl, hharmless, by simp [read, hreads]⟩
      | atMost limit =>
          obtain ⟨hpos, hle, hlength⟩ := htake hharmless
          refine .inr ⟨min limit room, hpos, hle, ?_⟩
          simp only [read, hreads, List.headD_cons, List.tail_cons, hlength]
      | yields bytes claim => exact absurd hharmless id

-- A command is answered at once, by a shell that listens as well as before.
theorem write_eq {answers : Parameters → String → Bytes → Parameters → Prop}
    (hanswers : Shell.AllAnswer echo answers) (h : Listens echo shell link) (command : String) :
    ∃ answer shell', link.write (Utf8.bytes (command ++ "\n")) = (.ok (), { link.called
        ("write " ++ hex (Utf8.bytes (command ++ "\n"))) with
          writes := [], buffer := link.buffer ++ answer, board := ⟨[], .shell shell'⟩ }) ∧
      shell'.ignored = [] ∧ shell'.echo = echo ∧
      answers shell.held command answer shell'.held := by
  obtain ⟨answer, shell', hreceive, hignored, hecho, hanswer⟩ :=
    hanswers shell command h.ignored h.echo
  refine ⟨answer, shell', ?_, hignored, hecho, hanswer⟩
  simp only [write, h.writes, h.board, hreceive]
  rfl

-- A read is interrupted, and there is one step less that can interrupt the next one, or it takes
-- something.
theorem read_takes (h : Listens echo shell link) {room : Nat} (hroom : 0 < room)
    (hbuffer : room ≤ link.buffer.length) :
    (∃ fault, (link.read room).1 = .error fault ∧ fault.isInterruption = true ∧
      (outlook echo).Passes (link, time) ((link.read room).2, time) ∧
      (link.read room).2.reads.length < link.reads.length) ∨
    ∃ first, (link.read room).1 = .ok ⟨first, first.length⟩ ∧ 0 < first.length ∧
      first.length ≤ room ∧ (outlook echo).Takes first (link, time) ((link.read room).2, time) := by
  obtain ⟨fault, step, rest, hreads, hfault, hread⟩ | ⟨count, hcount, hle, hread⟩ :=
    read_eq h hroom hbuffer
  · have h' : Listens echo shell (link.read room).2 := by
      rw [hread]
      exact { h with reads := fun step hstep => h.reads step (hreads ▸ List.mem_cons_of_mem _ hstep) }
    refine .inl ⟨fault, by rw [hread], hfault, takes_of_buffer h h' ?_ (Nat.le_refl _), ?_⟩
    · rw [hread]
      rfl
    · simp only [hread, called, hreads, List.length_cons]
      omega
  · have h' : Listens echo shell (link.read room).2 := by
      rw [hread]
      exact { h with reads := fun step hstep => h.reads step (List.mem_of_mem_tail hstep) }
    have hlength : (link.buffer.take count).length = count := by
      rw [List.length_take]
      exact Nat.min_eq_left (Nat.le_trans hle hbuffer)
    refine .inr ⟨link.buffer.take count, by rw [hread, hlength], by rwa [hlength],
      by rwa [hlength], takes_of_buffer h h' ?_ (Nat.le_refl _)⟩
    rw [hread]
    exact List.take_append_drop _ _

theorem bench_working {answers : Parameters → String → Bytes → Parameters → Prop}
    (hanswers : Shell.AllAnswer echo answers) (patience : Nat) :
    (bench patience).Working answers (outlook echo) where
  flash h := ⟨rfl, h, rfl⟩
  openChannel _ h := ⟨rfl, h, rfl⟩
  reset := by
    rintro ⟨link, time⟩ ⟨shell, h : Listens echo shell link⟩
    have h' : Listens echo shell link.reset.2 := by
      rw [reset_eq h]
      exact { h with resets := rfl }
    refine ⟨?_, ⟨shell, h'⟩, h'.held_eq.trans h.held_eq.symm⟩
    simp only [bench, reset_eq h]
  available := by
    rintro ⟨link, time⟩ ⟨shell, h : Listens echo shell link⟩
    have h' : Listens echo shell link.available.2 := by
      rw [available_eq h]
      exact { h with availables := rfl }
    refine ⟨?_, takes_of_buffer h h' ?_ (Nat.le_refl _)⟩
    · simp only [bench, outlook, available_eq h]
      rfl
    · rw [available_eq h]
      rfl
  read := by
    rintro ⟨link, time⟩ room ⟨shell, h⟩ hroom hbuffer
    exact read_takes h hroom hbuffer
  write := by
    rintro ⟨link, time⟩ command ⟨shell, h : Listens echo shell link⟩
    obtain ⟨answer, shell', hwrite, hignored, hecho, hanswer⟩ := write_eq hanswers h command
    have h' : Listens echo shell' (link.write (Utf8.bytes (command ++ "\n"))).2 := by
      rw [hwrite]
      exact { h with board := rfl, ignored := hignored, echo := hecho, writes := rfl }
    have hheld : (link.write (Utf8.bytes (command ++ "\n"))).2.held = shell'.held := h'.held_eq
    refine ⟨answer, ?_, ⟨shell', h'⟩, ?_, ?_, rfl⟩
    · simp only [bench, hwrite]
    · simp only [bench, outlook, hheld, h.held_eq]
      exact hanswer
    · simp only [bench, hwrite, outlook, Line.unread, List.append_nil]
  now h := ⟨rfl, Outlook.passes_self h⟩
  sleep := by
    rintro ⟨link, time⟩ duration ⟨shell, h : Listens echo shell link⟩
    exact ⟨Nat.le_refl _, takes_of_buffer h h rfl (Nat.le_add_right _ _)⟩
  note _ h := Outlook.passes_self h
  localTime h := Outlook.passes_self h
  makeFolders _ h := ⟨rfl, Outlook.passes_self h⟩
  writeFile _ _ h := ⟨rfl, Outlook.passes_self h⟩
  close _ := rfl

theorem bench_prompt (patience : Nat) : (bench patience).Prompt echo (outlook echo) :=
  bench_working (Shell.allAnswer_answers echo) patience

-- A link to a shell where P is 1, with input from before the reset, and reads that are interrupted
-- and cut.
def choppy : Scripted where
  buffer := Utf8.bytes "P 5"
  boot := some (Utf8.bytes "boot")
  longestRead := some 3
  availables := []
  reads := [.fails (.worded .interrupted "interrupted"), .atMost 1]
  writes := []
  resets := []
  board := ⟨[], .shell ⟨Utf8.bytes "v1\r\n", [("P", "1")], true, [], 0⟩⟩
  calls := []

theorem choppy_listens :
    Listens true ⟨Utf8.bytes "v1\r\n", [("P", "1")], true, [], 0⟩ choppy where
  board := rfl
  ignored := rfl
  echo := rfl
  availables := rfl
  writes := rfl
  resets := rfl
  reads := by simp [choppy, Harmless, Fault.isInterruption, Fault.kind]
  longestRead := by simp [choppy]

end Scripted

end BoardSmoke
