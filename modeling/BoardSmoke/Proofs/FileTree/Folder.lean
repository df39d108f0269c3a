import BoardSmoke.Proofs.FileTree.Path
import BoardSmoke.Proofs.FileTree.Walk

namespace BoardSmoke

def Entry.isFile : Entry → Bool
  | .file .. | .program _ => true
  | _ => false

namespace FileTree

variable {tree other : FileTree} {path content : Bytes} {place folder : Place} {name : Name}

theorem lookup_filter_ne {place there : Place} (entries : List (Place × Entry))
    (h : there ≠ place) :
    (entries.filter (·.1 ≠ place)).lookup there = entries.lookup there := by
  induction entries with
  | nil => rfl
  | cons entry entries ih =>
      by_cases hplace : entry.1 = place
      · have hthere : (there == entry.1) = false := by simpa [hplace] using h
        rw [List.filter_cons_of_neg (by simpa using hplace), ih, List.lookup_cons, hthere]
      · rw [List.filter_cons_of_pos (by simpa using hplace), List.lookup_cons, List.lookup_cons, ih]

theorem entry?_put {there : Place} {entry : Entry} (hplace : place ≠ []) :
    entry? (tree.put place entry) there =
      if there = place then some entry else tree.entry? there := by
  by_cases hthere : there = place
  · simp [put, entry?, hthere, hplace]
  · have hne : (there == place) = false := by simpa using hthere
    rw [if_neg hthere, entry?, entry?, put, List.lookup_cons, hne, lookup_filter_ne _ hthere]

theorem entry?_put_same {entry : Entry} (folder : Place) (name : Name) :
    entry? (tree.put (folder ++ [name]) entry) (folder ++ [name]) = some entry := by
  rw [entry?_put (by simp), if_pos rfl]

theorem entry?_put_other {there : Place} {entry : Entry} (h : there ≠ folder ++ [name]) :
    entry? (tree.put (folder ++ [name]) entry) there = tree.entry? there := by
  rw [entry?_put (by simp), if_neg h]

def start (tree : FileTree) (path : Bytes) : Place :=
  if Path.isAbsolute path then [] else tree.working

theorem locate_eq {follow : Bool} (hpath : path ≠ []) (hlength : path.length ≤ longestPath) :
    tree.locate path follow =
      tree.walk follow linkBudget (tree.start path) (Path.names path) := by
  rw [locate, if_neg hpath, if_neg (Nat.not_lt.mpr hlength)]
  rfl

theorem find_eq_ok_iff {entry : Entry} :
    tree.find path = .ok (place, entry) ↔ tree.locate path true = .ok (.taken place entry) := by
  rw [find]
  cases tree.locate path true with
  | error errno => simp [bind, Except.bind]
  | ok spot => cases spot <;> simp [bind, Except.bind]

theorem find_of_walk {entry : Entry} (hpath : path ≠ []) (hlength : path.length ≤ longestPath)
    (h : tree.walk true linkBudget (tree.start path) (Path.names path) = .ok (.taken place entry)) :
    tree.find path = .ok (place, entry) := by
  rw [find_eq_ok_iff, locate_eq hpath hlength, h]

-- The folder that a path leads to. The empty path is that of the working folder.
def folder? (tree : FileTree) (path : Bytes) : Option Place :=
  if path = [] then some tree.working
  else match tree.find path with
    | .ok (place, .folder) => some place
    | _ => none

theorem folder?_eq_some_iff (hpath : path ≠ []) :
    tree.folder? path = some place ↔ tree.find path = .ok (place, .folder) := by
  rw [folder?, if_neg hpath]
  rcases tree.find path with errno | ⟨there, entry⟩
  · simp
  · cases entry <;> simp

theorem isFolder_iff : tree.isFolder path ↔ ∃ place, tree.find path = .ok (place, .folder) := by
  rw [isFolder]
  rcases tree.find path with errno | ⟨there, entry⟩
  · simp
  · cases entry <;> simp

theorem exists_folder?_of_isFolder (h : tree.isFolder path) :
    ∃ place, tree.folder? path = some place := by
  obtain ⟨place, hfind⟩ := isFolder_iff.mp h
  by_cases hpath : path = []
  · exact ⟨tree.working, by rw [folder?, if_pos hpath]⟩
  · exact ⟨place, (folder?_eq_some_iff hpath).mpr hfind⟩

theorem isFolder_of_folder? (hpath : path ≠ []) (h : tree.folder? path = some place) :
    tree.isFolder path :=
  isFolder_iff.mpr ⟨place, (folder?_eq_some_iff hpath).mp h⟩

theorem length_le_of_folder? (h : tree.folder? path = some place) :
    path.length ≤ longestPath := by
  by_cases hpath : path = []
  · simp [hpath]
  · rw [folder?_eq_some_iff hpath, find_eq_ok_iff, locate, if_neg hpath] at h
    by_contra hlength
    rw [if_pos (Nat.not_le.mp hlength)] at h
    cases h

-- A folder is found by going a way along the parts of its path.
theorem way_of_folder? (h : tree.folder? path = some place) :
    ∃ left, tree.Way linkBudget (tree.start path) (Path.parts path) left place := by
  have hlength := length_le_of_folder? h
  by_cases hpath : path = []
  · subst hpath
    obtain rfl : tree.working = place := by simpa [folder?] using h
    exact ⟨linkBudget, .done⟩
  · rw [folder?_eq_some_iff hpath, find_eq_ok_iff, locate_eq hpath hlength] at h
    obtain ⟨left, hway⟩ := way_of_walk h
    rw [Path.names_eq] at hway
    split at hway
    · obtain ⟨middle, between, hparts, hdot⟩ := hway.of_append
      cases hdot with
      | stays hdone =>
          cases hdone
          exact ⟨left, hparts⟩
      | enters hname _ _ => exact absurd rfl hname.1
      | follows hname _ _ => exact absurd rfl hname.1
    · exact ⟨left, hway⟩

theorem folder?_of_way {left : Nat} (hlength : path.length ≤ longestPath)
    (h : tree.Way linkBudget (tree.start path) (Path.parts path) left place) :
    tree.folder? path = some place := by
  by_cases hpath : path = []
  · subst hpath
    cases h
    simp [folder?, start, Path.isAbsolute]
  · rw [folder?_eq_some_iff hpath]
    refine find_of_walk hpath hlength ?_
    rw [Path.names_eq]
    split
    · rw [h.walk_append (.inr rfl), walk_dot, walk_nil]
    · exact h.walk_eq

-- Every way through the tree is one through the other.
structure KeepsWays (tree other : FileTree) : Prop where
  working : other.working = tree.working
  kept : ∀ there entry, tree.entry? there = some entry →
    (entry = .folder ∨ ∃ target, entry = .link target) → other.entry? there = some entry

theorem KeepsWays.start_eq (h : KeepsWays tree other) (path : Bytes) :
    other.start path = tree.start path := by
  rw [start, start, h.working]

theorem KeepsWays.folder? (hkeeps : KeepsWays tree other) (h : tree.folder? path = some place) :
    other.folder? path = some place := by
  obtain ⟨left, hway⟩ := way_of_folder? h
  have hother := hway.of_same hkeeps.kept
  rw [← hkeeps.start_eq] at hother
  exact folder?_of_way (length_le_of_folder? h) hother

-- A place that holds no folder and no link bars no way, whatever is put there.
theorem keepsWays_put {entry : Entry}
    (h : ∀ old, tree.entry? (folder ++ [name]) = some old → old.isFile) :
    KeepsWays tree (tree.put (folder ++ [name]) entry) := by
  refine ⟨rfl, fun there old hold hway => ?_⟩
  rw [entry?_put_other, hold]
  rintro rfl
  have hfile := h old hold
  rcases hway with rfl | ⟨target, rfl⟩ <;> cases hfile

-- The other tree has some folders more, and all else is the same.
structure AddsFolders (tree other : FileTree) : Prop where
  working : other.working = tree.working
  same_or_new : ∀ place, other.entry? place = tree.entry? place ∨
    tree.entry? place = none ∧ other.entry? place = some .folder

theorem AddsFolders.refl (tree : FileTree) : AddsFolders tree tree :=
  ⟨rfl, fun _ => .inl rfl⟩

theorem AddsFolders.trans {third : FileTree} (h : AddsFolders tree other)
    (hthird : AddsFolders other third) : AddsFolders tree third := by
  refine ⟨hthird.working.trans h.working, fun place => ?_⟩
  rcases hthird.same_or_new place with hsame | ⟨hnone, hsome⟩
  · rw [hsame]
    exact h.same_or_new place
  · rcases h.same_or_new place with hsame | ⟨_, hfolder⟩
    · exact .inr ⟨hsame ▸ hnone, hsome⟩
    · rw [hnone] at hfolder
      cases hfolder

theorem AddsFolders.entry?_of_some {entry : Entry} (h : AddsFolders tree other)
    (hentry : tree.entry? place = some entry) : other.entry? place = some entry := by
  rcases h.same_or_new place with hsame | ⟨hnone, _⟩
  · rw [hsame, hentry]
  · rw [hentry] at hnone
    cases hnone

theorem AddsFolders.keepsWays (h : AddsFolders tree other) : KeepsWays tree other :=
  ⟨h.working, fun _ _ hentry _ => h.entry?_of_some hentry⟩

theorem addsFolders_put (h : tree.entry? (folder ++ [name]) = none) :
    AddsFolders tree (tree.put (folder ++ [name]) .folder) := by
  refine ⟨rfl, fun there => ?_⟩
  by_cases hthere : there = folder ++ [name]
  · subst hthere
    exact .inr ⟨h, entry?_put_same folder name⟩
  · exact .inl (entry?_put_other hthere)

-- Where a folder is asked for, slashes at the end of its path do not matter.
private theorem names_bare (path : Bytes) :
    Path.names (if Path.dropSlashes path = [] then path else Path.dropSlashes path) =
      Path.parts path := by
  split
  · rename_i hbare
    have hparts : Path.parts path = [] := by
      rw [← Path.parts_dropSlashes, hbare]
      rfl
    rw [Path.names_eq, if_neg fun h => h.1 hparts]
  · exact Path.names_dropSlashes path

private theorem locate_bare (hpath : path ≠ []) (hlength : path.length ≤ longestPath) :
    tree.locate (if Path.dropSlashes path = [] then path else Path.dropSlashes path) false =
      tree.walk false linkBudget (tree.start path) (Path.parts path) := by
  rw [← names_bare]
  split
  · exact locate_eq hpath hlength
  · rename_i hbare
    rw [locate_eq hbare ((Path.dropSlashes_prefix path).length_le.trans hlength), start, start,
      Path.isAbsolute_dropSlashes hbare]

theorem checked_eq_ok_iff {change : Except Errno α} {a : α} :
    checked path change = .ok a ↔ (0 : UInt8) ∉ path ∧ change = .ok a := by
  rw [checked]
  split
  · simp_all
  · cases change <;> simp_all [Except.mapError]

-- A folder is made where the last name of its path is free.
theorem makeFolder_eq_ok_iff (hpath : path ≠ []) (hlength : path.length ≤ longestPath) :
    tree.makeFolder path = .ok other ↔
      ∃ folder name,
        tree.walk false linkBudget (tree.start path) (Path.parts path) = .ok (.free folder name) ∧
        other = tree.put (folder ++ [name]) .folder := by
  rw [makeFolder, if_neg (Nat.not_lt.mpr hlength)]
  dsimp only
  rw [locate_bare hpath hlength]
  rcases tree.walk false linkBudget (tree.start path) (Path.parts path) with
    errno | ⟨place, entry⟩ | ⟨folder, name⟩ <;> simp [bind, Except.bind, eq_comm]

theorem makeFolder_of_folder? (hpath : path ≠ []) (h : tree.folder? path = some place) :
    tree.makeFolder path = .error .alreadyExists := by
  have hlength := length_le_of_folder? h
  obtain ⟨left, hway⟩ := way_of_folder? h
  obtain ⟨there, entry, hwalk⟩ := (hway.exists_taken : ∃ there entry, tree.walk false _ _ _ = _)
  rw [makeFolder, if_neg (Nat.not_lt.mpr hlength)]
  dsimp only
  rw [locate_bare hpath hlength, hwalk]
  rfl

-- A folder that was made is added to the others, and its path leads to it.
theorem makeFolder_ok (h : tree.makeFolder path = .ok other) :
    AddsFolders tree other ∧ ∃ folder, other.folder? path = some folder := by
  have hpath : path ≠ [] := by
    rintro rfl
    cases h
  have hlength : path.length ≤ longestPath := by
    by_contra hlength
    rw [makeFolder, if_pos (Nat.not_le.mp hlength)] at h
    cases h
  obtain ⟨folder, name, hwalk, rfl⟩ := (makeFolder_eq_ok_iff hpath hlength).mp h
  have hadds := addsFolders_put (entry?_of_walk_free hwalk)
  refine ⟨hadds, folder ++ [name], ?_⟩
  obtain ⟨init, left, hparts, hname, hway⟩ := way_of_walk_free hwalk
  have hother := (hway.of_same hadds.keepsWays.kept).append
    (.enters hname (entry?_put_same folder name) .done)
  rw [← hparts, ← hadds.keepsWays.start_eq] at hother
  exact folder?_of_way hlength hother

-- What the making of a folder and those around it comes to. It may fail when a part is done.
structure Makes (tree : FileTree) (path : Bytes) (result : Except Fault Unit × FileTree) : Prop where
  adds : AddsFolders tree result.2
  leads : result.1 = .ok () → ∃ folder, result.2.folder? path = some folder

theorem Makes.after (hadds : AddsFolders tree other) {result : Except Fault Unit × FileTree}
    (h : Makes other path result) : Makes tree path result :=
  ⟨hadds.trans h.adds, h.leads⟩

theorem makes_nil (tree : FileTree) : Makes tree [] (.ok (), tree) :=
  ⟨.refl tree, fun _ => ⟨tree.working, rfl⟩⟩

theorem makes_of_makeFolder (h : checked path (tree.makeFolder path) = .ok other) :
    Makes tree path (.ok (), other) := by
  have hmade := makeFolder_ok (checked_eq_ok_iff.mp h).2
  exact ⟨hmade.1, fun _ => hmade.2⟩

-- A folder that could not be made may be there.
theorem makes_of_isFolder (fault : Fault) :
    Makes tree path (if tree.isFolder path then (.ok (), tree) else (.error fault, tree)) := by
  split
  · rename_i hfolder
    exact ⟨.refl tree, fun _ => exists_folder?_of_isFolder hfolder⟩
  · exact ⟨.refl tree, nofun⟩

theorem settle_makes (path : Bytes) (tree : FileTree) :
    Makes tree path (makeFoldersFrom.settle path tree) := by
  rw [makeFoldersFrom.settle]
  cases hmake : checked path (tree.makeFolder path) with
  | ok made => exact makes_of_makeFolder hmake
  | error fault => exact makes_of_isFolder fault

theorem makeFoldersFrom_makes (tree : FileTree) (path : Bytes) (enclosing : List Bytes) :
    Makes tree path (tree.makeFoldersFrom path enclosing) := by
  induction enclosing generalizing tree path with
  | nil =>
      rw [makeFoldersFrom]
      split
      · rename_i hpath
        exact hpath ▸ makes_nil tree
      · exact settle_makes path tree
  | cons outer enclosing ih =>
      rw [makeFoldersFrom]
      split
      · rename_i hpath
        exact hpath ▸ makes_nil tree
      · cases hmake : checked path (tree.makeFolder path) with
        | ok made => exact makes_of_makeFolder hmake
        | error fault =>
            simp only
            split
            · have houter := ih tree outer
              rcases hmade : tree.makeFoldersFrom outer enclosing with ⟨outcome, made⟩
              rw [hmade] at houter
              cases outcome with
              | ok _ => exact (settle_makes path made).after houter.adds
              | error error => exact ⟨houter.adds, nofun⟩
            · exact makes_of_isFolder fault

theorem makeFolders_makes (tree : FileTree) (path : Bytes) :
    Makes tree path (tree.makeFolders path) :=
  makeFoldersFrom_makes tree path _

theorem makeFolders_of_folder? (h : tree.folder? path = some place) :
    tree.makeFolders path = (.ok (), tree) := by
  rw [makeFolders]
  by_cases hpath : path = []
  · subst hpath
    rfl
  · have hthere := isFolder_of_folder? hpath h
    -- Whether or not the path is one for the system, the failure is not that something is missing.
    obtain ⟨fault, hfault, hkind⟩ : ∃ fault : Fault,
        checked path (tree.makeFolder path) = .error fault ∧ fault.kind ≠ .notFound := by
      rw [makeFolder_of_folder? hpath h, checked]
      split
      · exact ⟨nullInPath, rfl, by decide⟩
      · exact ⟨.system .alreadyExists, rfl, by decide⟩
    cases Path.enclosing path with
    | nil =>
        rw [makeFoldersFrom, if_neg hpath, makeFoldersFrom.settle, hfault]
        exact if_pos hthere
    | cons outer enclosing =>
        rw [makeFoldersFrom, if_neg hpath, hfault]
        simp only [hkind, if_false]
        exact if_pos hthere

section Files

-- The name and the path that it is joined to are not too long.
structure Fits (root : Bytes) (name : Name) : Prop where
  shortName : name.length ≤ longestName
  shortPath : (Path.join root name).length ≤ longestPath

variable {root : Bytes}

theorem proper_of_isFileName (hname : Path.IsFileName name) (hlength : name.length ≤ longestName) :
    Proper name :=
  ⟨hname.ne_dot, hname.ne_dotDot, hlength⟩

-- A joined path leads where the last name stands for in the folder.
theorem locate_join (h : tree.folder? root = some folder) (hname : Path.IsFileName name)
    (hlength : (Path.join root name).length ≤ longestPath) :
    ∃ left, tree.locate (Path.join root name) true = tree.walk true left folder [name] := by
  obtain ⟨left, hway⟩ := way_of_folder? h
  refine ⟨left, ?_⟩
  rw [locate_eq (Path.join_ne_nil hname root) hlength, Path.names_join hname, start,
    Path.isAbsolute_join hname]
  exact hway.walk_append (.inr rfl)

theorem walk_file {left : Nat} (hname : Proper name)
    (hplain : ∀ entry, tree.entry? (folder ++ [name]) = some entry → entry.isFile) :
    tree.walk true left folder [name] =
      match tree.entry? (folder ++ [name]) with
      | none => .ok (.free folder name)
      | some entry => .ok (.taken (folder ++ [name]) entry) := by
  rw [walk_proper hname]
  cases hentry : tree.entry? (folder ++ [name]) with
  | none => rfl
  | some entry =>
      have hfile := hplain entry hentry
      cases entry with
      | file content executable => rfl
      | program name => rfl
      | _ => cases hfile

-- What can be written can be found by its path.
theorem fits_of_locate {spot : Spot} (h : tree.folder? root = some folder)
    (hname : Path.IsFileName name) (hlocate : tree.locate (Path.join root name) true = .ok spot) :
    Fits root name := by
  have hpath : (Path.join root name).length ≤ longestPath := by
    by_contra hlength
    rw [locate, if_neg (Path.join_ne_nil hname root), if_pos (Nat.not_le.mp hlength)] at hlocate
    cases hlocate
  refine ⟨?_, hpath⟩
  by_contra hlength
  obtain ⟨left, hwalk⟩ := locate_join h hname hpath
  rw [hlocate, walk_long hname.ne_dot hname.ne_dotDot (Nat.not_le.mp hlength)] at hwalk
  cases hwalk

theorem writeFile_join (h : tree.folder? root = some folder) (hname : Path.IsFileName name)
    (hplain : ∀ entry, tree.entry? (folder ++ [name]) = some entry → entry.isFile)
    (hwrite : tree.writeFile (Path.join root name) content = (.ok (), other)) :
    Fits root name ∧
      ∃ executable, other = tree.put (folder ++ [name]) (.file content executable) := by
  have hover : tree.overwrite (Path.join root name) content false = .ok other := by
    rw [writeFile] at hwrite
    cases hcheck : checked (Path.join root name) (tree.overwrite (Path.join root name) content false)
      with
    | error fault => simp [hcheck] at hwrite
    | ok made =>
        obtain rfl : made = other := by simpa [hcheck] using hwrite
        exact (checked_eq_ok_iff.mp hcheck).2
  rw [overwrite] at hover
  cases hlocate : tree.locate (Path.join root name) true with
  | error errno => simp [hlocate, bind, Except.bind] at hover
  | ok spot =>
      have hfits := fits_of_locate h hname hlocate
      refine ⟨hfits, ?_⟩
      obtain ⟨left, hwalk⟩ := locate_join h hname hfits.shortPath
      rw [hlocate, walk_file (proper_of_isFileName hname hfits.shortName) hplain] at hwalk
      cases hentry : tree.entry? (folder ++ [name]) with
      | none =>
          obtain rfl : spot = .free folder name := by simpa [hentry] using hwalk
          simp only [hlocate, bind, Except.bind, Except.ok.injEq] at hover
          exact ⟨false, hover.symm⟩
      | some entry =>
          obtain rfl : spot = .taken (folder ++ [name]) entry := by simpa [hentry] using hwalk
          have hfile := hplain entry hentry
          cases entry with
          | file old executable =>
              simp only [hlocate, bind, Except.bind, Except.ok.injEq] at hover
              exact ⟨executable, hover.symm⟩
          | program name =>
              simp only [hlocate, bind, Except.bind, Except.ok.injEq] at hover
              exact ⟨true, hover.symm⟩
          | _ => cases hfile

theorem readFile_join {executable : Bool} (h : tree.folder? root = some folder)
    (hname : Path.IsFileName name) (hfits : Fits root name)
    (hentry : tree.entry? (folder ++ [name]) = some (.file content executable)) :
    tree.readFile (Path.join root name) = .ok content := by
  obtain ⟨left, hlocate⟩ := locate_join h hname hfits.shortPath
  have hproper := proper_of_isFileName hname hfits.shortName
  rw [walk_proper hproper, hentry] at hlocate
  rw [readFile, find_eq_ok_iff.mpr hlocate]
  rfl

end Files

end FileTree

end BoardSmoke
