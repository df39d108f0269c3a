import BoardSmoke.FileTree.Change

namespace BoardSmoke.FileTree

variable {tree : FileTree} {follow : Bool} {links left : Nat} {here place : Place}
  {names rest : List Name}

-- A name that stands for a place of its own within a folder.
def Proper (name : Name) : Prop :=
  name ≠ Path.dot ∧ name ≠ Path.dotDot ∧ name.length ≤ longestName

-- The names lead from one folder to another, where links are followed wherever they stand. The
-- numbers are those of the links that may still be followed, before and after.
inductive Way (tree : FileTree) : Nat → Place → List Name → Nat → Place → Prop
  | done {links : Nat} {here : Place} : Way tree links here [] links here
  | stays {links left : Nat} {here place : Place} {rest : List Name}
      (hrest : Way tree links here rest left place) :
      Way tree links here (Path.dot :: rest) left place
  | rises {links left : Nat} {here place : Place} {rest : List Name}
      (hrest : Way tree links here.dropLast rest left place) :
      Way tree links here (Path.dotDot :: rest) left place
  | enters {links left : Nat} {here place : Place} {name : Name} {rest : List Name}
      (hname : Proper name) (hentry : tree.entry? (here ++ [name]) = some .folder)
      (hrest : Way tree links (here ++ [name]) rest left place) :
      Way tree links here (name :: rest) left place
  | follows {links left : Nat} {here place : Place} {name : Name} {target : Bytes}
      {rest : List Name} (hname : Proper name)
      (hentry : tree.entry? (here ++ [name]) = some (.link target))
      (hrest : Way tree links (if Path.isAbsolute target then [] else here)
        (Path.names target ++ rest) left place) :
      Way tree (links + 1) here (name :: rest) left place

theorem walk_nil : tree.walk follow links here [] = .ok (.taken here .folder) := by
  cases links <;> rfl

theorem walk_dot : tree.walk follow links here (Path.dot :: rest) = tree.walk follow links here rest := by
  cases links <;> simp [walk, walkNames]

theorem walk_dotDot :
    tree.walk follow links here (Path.dotDot :: rest) = tree.walk follow links here.dropLast rest := by
  have hdot : Path.dotDot ≠ Path.dot := by decide
  cases links <;> simp [walk, walkNames, hdot]

theorem walk_long {name : Name} (hdot : name ≠ Path.dot) (hdotDot : name ≠ Path.dotDot)
    (hlength : longestName < name.length) :
    tree.walk follow links here (name :: rest) = .error .nameTooLong := by
  cases links <;> exact (if_neg hdot).trans ((if_neg hdotDot).trans (if_pos hlength))

theorem walk_proper {name : Name} (hname : Proper name) :
    tree.walk follow links here (name :: rest) =
      match tree.entry? (here ++ [name]) with
      | none => if rest = [] then .ok (.free here name) else .error .noEntry
      | some .folder => tree.walk follow links (here ++ [name]) rest
      | some (.link target) =>
        if rest = [] ∧ !follow then .ok (.taken (here ++ [name]) (.link target))
        else match links with
          | 0 => .error .linkLoop
          | links + 1 => tree.walk follow links (if Path.isAbsolute target then [] else here)
              (Path.names target ++ rest)
      | some entry =>
        if rest = [] then .ok (.taken (here ++ [name]) entry) else .error .notDirectory := by
  obtain ⟨hdot, hdotDot, hlength⟩ := hname
  cases links <;>
    exact (if_neg hdot).trans ((if_neg hdotDot).trans (if_neg (Nat.not_lt.mpr hlength)))

section

variable {jump : Place → List Name → Except Errno Spot}

private theorem way_of_walkNames (hjump : ∀ start target, jump start target =
      .ok (.taken place .folder) → ∃ fewer left, links = fewer + 1 ∧
        tree.Way fewer start target left place)
    (h : tree.walkNames true jump here names = .ok (.taken place .folder)) :
    ∃ left, tree.Way links here names left place := by
  fun_induction walkNames tree true jump here names with
  | case1 =>
      cases h
      exact ⟨_, .done⟩
  | case2 here rest ih =>
      obtain ⟨left, hrest⟩ := ih h
      exact ⟨left, .stays hrest⟩
  | case3 here rest _ ih =>
      obtain ⟨left, hrest⟩ := ih h
      exact ⟨left, .rises hrest⟩
  | case7 here name rest hdot hdotDot hlength _ hentry ih =>
      obtain ⟨left, hrest⟩ := ih h
      exact ⟨left, .enters ⟨hdot, hdotDot, Nat.not_lt.mp hlength⟩ hentry hrest⟩
  | case9 here name rest hdot hdotDot hlength _ target hentry _ =>
      obtain ⟨fewer, left, rfl, hrest⟩ := hjump _ _ h
      exact ⟨left, .follows ⟨hdot, hdotDot, Nat.not_lt.mp hlength⟩ hentry hrest⟩
  | case10 _ _ _ _ _ _ _ hfolder _ =>
      simp only [Except.ok.injEq, Spot.taken.injEq] at h
      exact absurd h.2 hfolder
  | _ => simp at h

private theorem entry?_of_walkNames_free {folder : Place} {name : Name}
    (hjump : ∀ start target, jump start target = .ok (.free folder name) →
      tree.entry? (folder ++ [name]) = none)
    (h : tree.walkNames follow jump here names = .ok (.free folder name)) :
    tree.entry? (folder ++ [name]) = none := by
  fun_induction walkNames tree follow jump here names with
  | case2 _ _ ih => exact ih h
  | case3 _ _ _ ih => exact ih h
  | case5 _ _ _ _ _ _ hentry =>
      simp only [Except.ok.injEq, Spot.free.injEq] at h
      obtain ⟨rfl, rfl⟩ := h
      exact hentry
  | case7 _ _ _ _ _ _ _ _ ih => exact ih h
  | case9 => exact hjump _ _ h
  | _ => simp at h

private theorem way_of_walkNames_free {folder : Place} {name : Name}
    (hjump : ∀ start target, jump start target = .ok (.free folder name) →
      ∃ fewer init left, links = fewer + 1 ∧ target = init ++ [name] ∧ Proper name ∧
        tree.Way fewer start init left folder)
    (h : tree.walkNames false jump here names = .ok (.free folder name)) :
    ∃ init left, names = init ++ [name] ∧ Proper name ∧ tree.Way links here init left folder := by
  fun_induction walkNames tree false jump here names with
  | case2 here rest ih =>
      obtain ⟨init, left, rfl, hname, hway⟩ := ih h
      exact ⟨Path.dot :: init, left, rfl, hname, .stays hway⟩
  | case3 here rest _ ih =>
      obtain ⟨init, left, rfl, hname, hway⟩ := ih h
      exact ⟨Path.dotDot :: init, left, rfl, hname, .rises hway⟩
  | case5 here last hdot hdotDot hlength _ hentry =>
      simp only [Except.ok.injEq, Spot.free.injEq] at h
      obtain ⟨rfl, rfl⟩ := h
      exact ⟨[], _, rfl, ⟨hdot, hdotDot, Nat.not_lt.mp hlength⟩, .done⟩
  | case7 here last rest hdot hdotDot hlength _ hentry ih =>
      obtain ⟨init, left, rfl, hname, hway⟩ := ih h
      exact ⟨_ :: init, left, rfl, hname,
        .enters ⟨hdot, hdotDot, Nat.not_lt.mp hlength⟩ hentry hway⟩
  | case9 here first rest hdot hdotDot hlength _ target hentry hlast =>
      obtain ⟨fewer, init, left, rfl, hnames, hname, hway⟩ := hjump _ _ h
      -- The link is not the last name, so that the free name is one of those behind it.
      have hrest : rest ≠ [] := fun hnil => hlast ⟨hnil, rfl⟩
      obtain ⟨init, final, rfl⟩ := List.eq_nil_or_concat rest |>.resolve_left hrest
      rw [List.concat_eq_append, ← List.append_assoc] at hnames
      obtain ⟨rfl, hfinal⟩ := List.append_inj' hnames rfl
      obtain rfl := (List.singleton_inj.mp hfinal).symm
      exact ⟨first :: init, left, by simp, hname,
        .follows ⟨hdot, hdotDot, Nat.not_lt.mp hlength⟩ hentry hway⟩
  | _ => simp at h

end

theorem way_of_walk (h : tree.walk true links here names = .ok (.taken place .folder)) :
    ∃ left, tree.Way links here names left place := by
  induction links generalizing here names with
  | zero =>
      rw [walk] at h
      refine way_of_walkNames ?_ h
      nofun
  | succ links ih =>
      rw [walk] at h
      refine way_of_walkNames (fun _ _ hjump => ?_) h
      obtain ⟨left, hway⟩ := ih hjump
      exact ⟨links, left, rfl, hway⟩

-- A walk can be taken up where a way ends.
theorem Way.walk_append (h : tree.Way links here names left place)
    (hrest : rest ≠ [] ∨ follow = true) :
    tree.walk follow links here (names ++ rest) = tree.walk follow left place rest := by
  induction h with
  | done => rfl
  | stays _ ih => rw [List.cons_append, walk_dot, ih]
  | rises _ ih => rw [List.cons_append, walk_dotDot, ih]
  | enters hname hentry _ ih => rw [List.cons_append, walk_proper hname, hentry, ih]
  | @follows links left here place name target names hname hentry _ ih =>
      have hlast : ¬(names ++ rest = [] ∧ (!follow) = true) := by
        rcases hrest with hrest | rfl
        · simp [hrest]
        · simp
      rw [List.cons_append, walk_proper hname, hentry]
      simp only [hlast, if_false]
      rw [← List.append_assoc, ih]

theorem Way.walk_eq (h : tree.Way links here names left place) :
    tree.walk true links here names = .ok (.taken place .folder) := by
  have hwalk : tree.walk true links here (names ++ []) = tree.walk true left place [] :=
    h.walk_append (.inr rfl)
  rwa [List.append_nil, walk_nil] at hwalk

-- Where a way goes, something is there, also when a link at its end is not followed.
theorem Way.exists_taken (h : tree.Way links here names left place) :
    ∃ there entry, tree.walk follow links here names = .ok (.taken there entry) := by
  induction h with
  | done => exact ⟨_, _, walk_nil⟩
  | stays _ ih => rwa [walk_dot]
  | rises _ ih => rwa [walk_dotDot]
  | enters hname hentry _ ih => rwa [walk_proper hname, hentry]
  | @follows links left here place name target rest hname hentry _ ih =>
      rw [walk_proper hname, hentry]
      by_cases hlast : rest = [] ∧ (!follow) = true
      · exact ⟨_, _, if_pos hlast⟩
      · simpa only [hlast, if_false] using ih

theorem Way.of_append (h : tree.Way links here (names ++ rest) left place) :
    ∃ middle between, tree.Way links here names middle between ∧
      tree.Way middle between rest left place := by
  generalize hall : names ++ rest = all at h
  induction h generalizing names with
  | done =>
      obtain ⟨rfl, rfl⟩ := List.append_eq_nil_iff.mp hall
      exact ⟨_, _, .done, .done⟩
  | stays hlater ih =>
      rcases List.append_eq_cons_iff.mp hall with ⟨rfl, rfl⟩ | ⟨names, rfl, rfl⟩
      · exact ⟨_, _, .done, .stays hlater⟩
      · obtain ⟨middle, between, hfirst, hsecond⟩ := ih rfl
        exact ⟨middle, between, .stays hfirst, hsecond⟩
  | rises hlater ih =>
      rcases List.append_eq_cons_iff.mp hall with ⟨rfl, rfl⟩ | ⟨names, rfl, rfl⟩
      · exact ⟨_, _, .done, .rises hlater⟩
      · obtain ⟨middle, between, hfirst, hsecond⟩ := ih rfl
        exact ⟨middle, between, .rises hfirst, hsecond⟩
  | enters hname hentry hlater ih =>
      rcases List.append_eq_cons_iff.mp hall with ⟨rfl, rfl⟩ | ⟨names, rfl, rfl⟩
      · exact ⟨_, _, .done, .enters hname hentry hlater⟩
      · obtain ⟨middle, between, hfirst, hsecond⟩ := ih rfl
        exact ⟨middle, between, .enters hname hentry hfirst, hsecond⟩
  | follows hname hentry hlater ih =>
      rcases List.append_eq_cons_iff.mp hall with ⟨rfl, rfl⟩ | ⟨names, rfl, rfl⟩
      · exact ⟨_, _, .done, .follows hname hentry hlater⟩
      · obtain ⟨middle, between, hfirst, hsecond⟩ := ih (List.append_assoc _ _ _)
        exact ⟨middle, between, .follows hname hentry hfirst, hsecond⟩

theorem Way.append {middle : Nat} {between : Place}
    (h : tree.Way links here names middle between) (hrest : tree.Way middle between rest left place) :
    tree.Way links here (names ++ rest) left place := by
  induction h with
  | done => exact hrest
  | stays _ ih => exact .stays (ih hrest)
  | rises _ ih => exact .rises (ih hrest)
  | enters hname hentry _ ih => exact .enters hname hentry (ih hrest)
  | follows hname hentry _ ih =>
      have hgoes := ih hrest
      rw [List.append_assoc] at hgoes
      exact .follows hname hentry hgoes

-- What is no folder and no link bars no way.
theorem Way.of_same {other : FileTree}
    (hsame : ∀ there entry, tree.entry? there = some entry →
      (entry = .folder ∨ ∃ target, entry = .link target) → other.entry? there = some entry)
    (h : tree.Way links here names left place) : other.Way links here names left place := by
  induction h with
  | done => exact .done
  | stays _ ih => exact .stays ih
  | rises _ ih => exact .rises ih
  | enters hname hentry _ ih => exact .enters hname (hsame _ _ hentry (.inl rfl)) ih
  | follows hname hentry _ ih => exact .follows hname (hsame _ _ hentry (.inr ⟨_, rfl⟩)) ih

theorem entry?_of_walk_free {folder : Place} {name : Name}
    (h : tree.walk follow links here names = .ok (.free folder name)) :
    tree.entry? (folder ++ [name]) = none := by
  induction links generalizing here names with
  | zero =>
      rw [walk] at h
      refine entry?_of_walkNames_free ?_ h
      nofun
  | succ links ih =>
      rw [walk] at h
      exact entry?_of_walkNames_free (fun _ _ => ih) h

-- A walk that does not follow a link at its end goes a way up to the last name, when that is free.
theorem way_of_walk_free {folder : Place} {name : Name}
    (h : tree.walk false links here names = .ok (.free folder name)) :
    ∃ init left, names = init ++ [name] ∧ Proper name ∧ tree.Way links here init left folder := by
  induction links generalizing here names with
  | zero =>
      rw [walk] at h
      refine way_of_walkNames_free ?_ h
      nofun
  | succ links ih =>
      rw [walk] at h
      refine way_of_walkNames_free (fun _ _ hjump => ?_) h
      obtain ⟨init, left, htarget, hname, hway⟩ := ih hjump
      exact ⟨links, init, left, rfl, htarget, hname, hway⟩

end BoardSmoke.FileTree
