import BoardSmoke.Proofs.Board.Answers

namespace BoardSmoke.Shell

open Text

variable {shell : Shell} {name value : String}

def held (shell : Shell) : Parameters := fun name => shell.parameters.lookup name

private theorem lookup_assigned (parameters : List (String × String)) (name value other : String) :
    (parameters.map fun (key, old) => (key, if key = name then value else old)).lookup other =
      if other = name then (parameters.lookup name).map fun _ => value
      else parameters.lookup other := by
  induction parameters with
  | nil => simp
  | cons entry rest ih =>
      obtain ⟨key, old⟩ := entry
      by_cases hother : other = key
      · subst hother
        by_cases hname : other = name <;> simp [hname]
      · by_cases hname : other = name
        · subst hname
          have hkey : (other == key) = false := by simpa using hother
          simpa [List.lookup_cons, hkey] using ih
        · have hkey : (other == key) = false := by simpa using hother
          simpa [List.lookup_cons, hkey, hname] using ih

theorem held_assign (h : (shell.held name).isSome = true) :
    (shell.assign name value).held = shell.held.set name value := by
  funext other
  simp only [held, assign, lookup_assigned, Parameters.set]
  obtain ⟨old, hold⟩ := Option.isSome_iff_exists.mp h
  rw [held] at hold
  rw [hold]
  rfl

theorem isSome_held_assign {other : String} (h : (shell.held other).isSome = true) :
    ((shell.assign name value).held other).isSome = true := by
  simp only [held, assign, lookup_assigned] at h ⊢
  by_cases hother : other = name
  · subst hother
    simpa using h
  · simpa [hother] using h

theorem after?_append (start : String) (rest : List Char) :
    after? start (start.toList ++ rest) = some rest := by
  have hprefix : start.toList.isPrefixOf (start.toList ++ rest) = true :=
    List.isPrefixOf_iff_prefix.mpr (List.prefix_append _ _)
  rw [after?, if_pos hprefix, List.drop_left]

-- A value has no space, so the last space is the one before it.
theorem cutAtLastSpace_append (first : List Char) {last : List Char} (h : ' ' ∉ last) :
    cutAtLastSpace (first ++ ' ' :: last) = (first, last) := by
  have htake : ((first ++ ' ' :: last).reverse.takeWhile (· ≠ ' ')).reverse = last := by
    rw [List.reverse_append, List.reverse_cons, List.append_assoc, List.takeWhile_append_of_pos]
    · simp
    · intro c hc
      have hne : c ≠ ' ' := fun heq => h (heq ▸ List.mem_reverse.mp hc)
      simpa using hne
  have hmem : ' ' ∈ first ++ ' ' :: last := by simp
  have hlength : (first ++ ' ' :: last).length - last.length - 1 = first.length := by
    simp only [List.length_append, List.length_cons]
    omega
  simp only [cutAtLastSpace, hmem, if_true, htake, hlength, List.take_left]

theorem answer_toList (command : String) :
    shell.answer command.toList =
      (reply (shell.execute command.toList).2.echo command (shell.execute command.toList).1,
        (shell.execute command.toList).2) := by
  simp only [answer, reply, Utf8.bytes, String.toList_append, Utf8.encode_append]

theorem execute_version :
    shell.execute "ver all".toList = (shell.version, shell) := if_pos rfl

theorem execute_show (name : String) :
    shell.execute ("param show " ++ name).toList = (shell.showParameter name, shell) := by
  have hversion : ("param show " ++ name).toList ≠ "ver all".toList := fun h =>
    Console.show_ne_version (String.toList_inj.mp h)
  rw [execute, if_neg hversion, String.toList_append, after?_append]
  simp

-- What sets a value is cut into the name and the value where the board cuts it.
theorem execute_set (name : String) (hvalue : IsWord value.toList) :
    shell.execute ("param set " ++ name ++ " " ++ value).toList =
      shell.setParameter name value := by
  have hversion : ("param set " ++ name ++ " " ++ value).toList ≠ "ver all".toList := fun h =>
    Console.set_ne_version (String.toList_inj.mp h)
  have htext : ("param set " ++ name ++ " " ++ value).toList =
      "param set ".toList ++ (name.toList ++ ' ' :: value.toList) := by
    simp
  have hshow : after? "param show " ("param set " ++ name ++ " " ++ value).toList = none := by
    rw [htext]
    rfl
  have hspace : ' ' ∉ value.toList := fun hmem => absurd (hvalue.2 _ hmem) (by decide)
  rw [execute, if_neg hversion, hshow, htext, after?_append]
  simp [cutAtLastSpace_append name.toList hspace]

theorem showParameter_of_held (h : shell.held name = some value) :
    shell.showParameter name = shownValue name value := by
  simp only [held] at h
  simp only [showParameter, h, shownValue]

theorem showParameter_of_absent (h : shell.held name = none) :
    shell.showParameter name = notFound name := by
  simp only [held] at h
  simp only [showParameter, h]

theorem execute_held {line : List Char} (h : ¬"param set".toList <+: line) :
    (shell.execute line).2.held = shell.held := by
  have hset : after? "param set " line = none := by
    rw [after?, if_neg]
    intro hstart
    exact h ((List.prefix_append "param set".toList [' ']).trans
      (List.isPrefixOf_iff_prefix.mp hstart))
  rw [execute]
  split
  · rfl
  split
  · rfl
  rw [hset]

theorem setParameter_of_held (hheld : (shell.held name).isSome = true)
    (hignored : shell.ignored = []) :
    shell.setParameter name value =
      ([], { shell with settings := shell.settings + 1 }.assign name value) := by
  obtain ⟨old, hold⟩ := Option.isSome_iff_exists.mp hheld
  simp only [held] at hold
  simp [setParameter, hold, hignored]

-- No command takes a parameter away, and none makes the shell ignore more or stop echoing.
theorem execute_keeps (shell : Shell) (line : List Char) :
    (∀ name, (shell.held name).isSome = true → ((shell.execute line).2.held name).isSome = true) ∧
    (shell.execute line).2.ignored = shell.ignored ∧ (shell.execute line).2.echo = shell.echo := by
  have hset (name value : String) :
      (∀ other, (shell.held other).isSome = true →
        ((shell.setParameter name value).2.held other).isSome = true) ∧
      (shell.setParameter name value).2.ignored = shell.ignored ∧
      (shell.setParameter name value).2.echo = shell.echo := by
    simp only [setParameter]
    split
    · exact ⟨fun _ h => h, rfl, rfl⟩
    · split
      · exact ⟨fun _ h => h, rfl, rfl⟩
      · exact ⟨fun _ h => isSome_held_assign h, rfl, rfl⟩
  simp only [execute]
  split
  · exact ⟨fun _ h => h, rfl, rfl⟩
  split
  · exact ⟨fun _ h => h, rfl, rfl⟩
  split
  · exact hset _ _
  · exact ⟨fun _ h => h, rfl, rfl⟩

end BoardSmoke.Shell

namespace BoardSmoke.Board

open Text

theorem receive_line {line : Bytes} (h : newline ∉ line) (unfinished : Bytes)
    (responder : Responder) :
    receive ⟨unfinished, responder⟩ (line ++ [newline]) =
      ((respond (unfinished ++ line) responder).1,
        ⟨[], (respond (unfinished ++ line) responder).2⟩) := by
  induction line generalizing unfinished with
  | nil => simp [receive]
  | cons byte line ih =>
      have hbyte : byte ≠ newline := fun heq => h (heq ▸ List.mem_cons_self)
      have hline : newline ∉ line := fun hmem => h (List.mem_cons_of_mem _ hmem)
      simp [receive, hbyte, ih hline]

-- A shell stays a shell, and keeps its parameters, whatever it receives.
theorem receive_keeps (bytes unfinished : Bytes) (shell : Shell) :
    ∃ answers unfinished' shell',
      receive ⟨unfinished, .shell shell⟩ bytes = (answers, ⟨unfinished', .shell shell'⟩) ∧
      (∀ name, (shell.held name).isSome = true → (shell'.held name).isSome = true) ∧
      shell'.ignored = shell.ignored ∧ shell'.echo = shell.echo := by
  induction bytes generalizing unfinished shell with
  | nil => exact ⟨[], unfinished, shell, rfl, fun _ h => h, rfl, rfl⟩
  | cons byte rest ih =>
      by_cases hbyte : byte = newline
      · obtain ⟨hheld, hignored, hecho⟩ := shell.execute_keeps (Utf8.decode unfinished)
        obtain ⟨answers, unfinished', shell', hreceive, hheld', hignored', hecho'⟩ :=
          ih [] (shell.answer (Utf8.decode unfinished)).2
        refine ⟨(shell.answer (Utf8.decode unfinished)).1 ++ answers, unfinished', shell', ?_,
          fun name h => hheld' name (hheld name h), hignored'.trans hignored, hecho'.trans hecho⟩
        simp [receive, hbyte, respond, hreceive]
      · obtain ⟨answers, unfinished', shell', hreceive, hkept⟩ :=
          ih (unfinished ++ [byte]) shell
        exact ⟨answers, unfinished', shell', by simp [receive, hbyte, hreceive], hkept⟩

theorem receive_append (board : Board) (first second : Bytes) :
    receive board (first ++ second) =
      ((receive board first).1 ++ (receive (receive board first).2 second).1,
        (receive (receive board first).2 second).2) := by
  induction first generalizing board with
  | nil => simp [receive]
  | cons byte first ih => by_cases hbyte : byte = newline <;> simp [receive, hbyte, ih]

theorem receive_command_line {command : String} (h : '\n' ∉ command.toList) (shell : Shell) :
    receive ⟨[], .shell shell⟩ (Utf8.bytes (command ++ "\n")) =
      ((shell.answer command.toList).1, ⟨[], .shell (shell.answer command.toList).2⟩) := by
  rw [Utf8.bytes_line]
  refine (receive_line (Utf8.newline_notMem_bytes h) [] (.shell shell)).trans ?_
  simp only [List.nil_append, respond, Utf8.decode_bytes]

-- A shell stays one that ignores nothing, and answers a command of one line as such.
theorem receive_command (shell : Shell) (hignored : shell.ignored = []) (command : String) :
    ∃ answer shell',
      receive ⟨[], .shell shell⟩ (Utf8.bytes (command ++ "\n")) =
        (answer, ⟨[], .shell shell'⟩) ∧
      shell'.ignored = [] ∧ shell'.echo = shell.echo ∧
      (∀ name, (shell.held name).isSome = true → (shell'.held name).isSome = true) ∧
      ('\n' ∉ command.toList → shell.answer command.toList = (answer, shell')) := by
  obtain ⟨answers, unfinished, middle, hreceive, hheld, hignored', hecho⟩ :=
    receive_keeps (Utf8.bytes command) [] shell
  obtain ⟨hheld', hignored'', hecho'⟩ := middle.execute_keeps (Utf8.decode unfinished)
  have hline : receive ⟨[], .shell shell⟩ (Utf8.bytes (command ++ "\n")) =
      (answers ++ (middle.answer (Utf8.decode unfinished)).1,
        ⟨[], .shell (middle.answer (Utf8.decode unfinished)).2⟩) := by
    rw [Utf8.bytes_line, receive_append, hreceive]
    simp [receive, newline, respond]
  refine ⟨_, _, hline, hignored''.trans (hignored'.trans hignored), hecho'.trans hecho,
    fun name h => hheld' name (hheld name h), fun hfree => ?_⟩
  have hline' := receive_command_line hfree shell
  rw [hline] at hline'
  simp only [Prod.mk.injEq, Board.mk.injEq, Responder.shell.injEq, true_and] at hline'
  rw [Prod.ext_iff]
  exact ⟨hline'.1.symm, hline'.2.symm⟩

end BoardSmoke.Board

namespace BoardSmoke.Shell

open Text

-- Shells that ignore nothing answer commands in this way, and go on ignoring nothing.
def AllAnswer (echo : Bool) (answers : Parameters → String → Bytes → Parameters → Prop) : Prop :=
  ∀ (shell : Shell) (command : String), shell.ignored = [] → shell.echo = echo →
    ∃ answer shell',
      Board.receive ⟨[], .shell shell⟩ (Utf8.bytes (command ++ "\n")) =
        (answer, ⟨[], .shell shell'⟩) ∧
      shell'.ignored = [] ∧ shell'.echo = echo ∧
      answers shell.held command answer shell'.held

-- They are faithful boards: a command of several lines gets several answers, but those of which
-- something is said are of one.
theorem allAnswer_answers (echo : Bool) : AllAnswer echo (Answers echo) := by
  rintro shell command hignored rfl
  obtain ⟨answer, shell', hreceive, hignored', hecho, hheld, hfree⟩ :=
    Board.receive_command shell hignored command
  refine ⟨answer, shell', hreceive, hignored', hecho, ?_⟩
  constructor
  · rintro rfl
    have hanswer := hfree (by decide)
    rw [answer_toList, execute_version] at hanswer
    cases hanswer
    exact ⟨⟨shell.version, rfl⟩, rfl⟩
  · rintro name value hname rfl hheldName
    have hanswer := hfree (by simp [hname.newline_notMem])
    rw [answer_toList, execute_show] at hanswer
    cases hanswer
    exact ⟨by rw [showParameter_of_held hheldName], rfl⟩
  · rintro name value hname hvalue rfl hheldName
    have hanswer := hfree (by simp [hname.newline_notMem, hvalue.newline_notMem])
    rw [answer_toList, execute_set name hvalue, setParameter_of_held hheldName hignored] at hanswer
    cases hanswer
    exact ⟨rfl, held_assign hheldName⟩
  · exact hheld

-- With an echo, they deny what they lack.
theorem allAnswer_denies {name : String} (hname : IsWord name.toList) :
    AllAnswer true (Denies name) := by
  intro shell command hignored hecho
  obtain ⟨answer, shell', hreceive, hignored', hecho', _, hfree⟩ :=
    Board.receive_command shell hignored command
  refine ⟨answer, shell', hreceive, hignored', hecho'.trans hecho, ?_⟩
  constructor
  · rintro rfl habsent
    have hanswer := hfree (by simp [hname.newline_notMem])
    rw [answer_toList, execute_show, showParameter_of_absent habsent, hecho] at hanswer
    exact (congrArg Prod.fst hanswer).symm
  · intro hline hset
    have hanswer := hfree hline
    rw [answer_toList] at hanswer
    cases hanswer
    exact execute_held hset

end BoardSmoke.Shell
