import BoardSmoke.FileTree.Path
import Mathlib.Data.List.DropRight

namespace BoardSmoke.Path

variable {folder path rest : Bytes} {name : Name}

-- A name of one file in a folder.
structure IsFileName (name : Name) : Prop where
  ne_nil : name ≠ []
  slash_notMem : slash ∉ name
  ne_dot : name ≠ dot
  ne_dotDot : name ≠ dotDot

def parts (path : Bytes) : List Name := ((pieces path).1 :: (pieces path).2).filter (· ≠ [])

theorem names_eq (path : Bytes) :
    names path =
      if parts path ≠ [] ∧ path.getLast? = some slash then parts path ++ [dot] else parts path :=
  rfl

theorem pieces_append_slash (path rest : Bytes) :
    pieces (path ++ slash :: rest) =
      ((pieces path).1, (pieces path).2 ++ (pieces rest).1 :: (pieces rest).2) := by
  induction path with
  | nil => simp [pieces]
  | cons byte path ih =>
      rw [List.cons_append, pieces, pieces, ih]
      by_cases hbyte : byte = slash
      · simp [hbyte]
      · simp [hbyte]

theorem parts_append_slash (path rest : Bytes) :
    parts (path ++ slash :: rest) = parts path ++ parts rest := by
  rw [parts, pieces_append_slash, ← List.cons_append, List.filter_append]
  rfl

theorem parts_append_slash_end (path : Bytes) : parts (path ++ [slash]) = parts path := by
  rw [parts_append_slash]
  simp [parts, pieces]

theorem pieces_of_slash_notMem (h : slash ∉ name) : pieces name = (name, []) := by
  induction name with
  | nil => rfl
  | cons byte name ih =>
      rw [List.mem_cons, not_or] at h
      rw [pieces, ih h.2]
      simp [Ne.symm h.1]

theorem parts_of_isFileName (h : IsFileName name) : parts name = [name] := by
  rw [parts, pieces_of_slash_notMem h.slash_notMem]
  simp [h.ne_nil]

theorem IsFileName.getLast?_append (h : IsFileName name) (path : Bytes) :
    (path ++ name).getLast? ≠ some slash := by
  rw [List.getLast?_append_of_ne_nil _ h.ne_nil]
  exact fun hlast => h.slash_notMem (List.mem_of_getLast? hlast)

-- A joined name comes last, behind the parts of the folder's path.
theorem names_join (h : IsFileName name) (folder : Bytes) :
    names (join folder name) = parts folder ++ [name] := by
  have hparts : parts (join folder name) = parts folder ++ [name] := by
    rw [join]
    split
    · rename_i hfolder
      rcases hfolder with rfl | hlast
      · rw [List.nil_append, parts_of_isFileName h]
        rfl
      · obtain ⟨bare, rfl⟩ := List.getLast?_eq_some_iff.mp hlast
        rw [List.append_assoc, List.singleton_append, parts_append_slash, parts_append_slash_end,
          parts_of_isFileName h]
    · rw [parts_append_slash, parts_of_isFileName h]
  have hlast : (join folder name).getLast? ≠ some slash := by
    rw [join]
    split
    · exact h.getLast?_append folder
    · rw [List.append_cons]
      exact h.getLast?_append _
  rw [names_eq, hparts, if_neg fun hslash => hlast hslash.2]

theorem join_ne_nil (h : IsFileName name) (folder : Bytes) : join folder name ≠ [] := by
  rw [join]
  split
  · exact fun hnil => h.ne_nil (List.append_eq_nil_iff.mp hnil).2
  · simp

theorem isAbsolute_append (h : folder ≠ []) (rest : Bytes) :
    isAbsolute (folder ++ rest) = isAbsolute folder := by
  rw [isAbsolute, isAbsolute, List.head?_append_of_ne_nil _ h]

theorem isAbsolute_join (h : IsFileName name) (folder : Bytes) :
    isAbsolute (join folder name) = isAbsolute folder := by
  by_cases hfolder : folder = []
  · rw [hfolder, join, if_pos (.inl rfl), List.nil_append, isAbsolute, isAbsolute]
    refine decide_eq_decide.mpr ⟨fun hhead => ?_, fun hhead => nomatch hhead⟩
    exact absurd (List.mem_of_head? hhead) h.slash_notMem
  · rw [join]
    split
    · exact isAbsolute_append hfolder name
    · exact isAbsolute_append hfolder _

theorem join_injective {first second : Name} (h : join folder first = join folder second) :
    first = second := by
  rw [join, join] at h
  split at h
  · exact List.append_cancel_left h
  · exact (List.cons.inj (List.append_cancel_left h)).2

theorem dropSlashes_eq (path : Bytes) : dropSlashes path = path.rdropWhile (· = slash) := rfl

theorem dropSlashes_prefix (path : Bytes) : dropSlashes path <+: path :=
  List.rdropWhile_prefix _ _

theorem parts_dropSlashes (path : Bytes) : parts (dropSlashes path) = parts path := by
  induction path using List.reverseRecOn with
  | nil => rfl
  | append_singleton path byte ih =>
      by_cases hbyte : byte = slash
      · rw [dropSlashes_eq, List.rdropWhile_concat_pos _ _ _ (by simpa using hbyte), ← dropSlashes_eq,
          ih, hbyte, parts_append_slash_end]
      · rw [dropSlashes_eq, List.rdropWhile_concat_neg _ _ _ (by simpa using hbyte)]

theorem getLast?_dropSlashes (path : Bytes) : (dropSlashes path).getLast? ≠ some slash := by
  intro hlast
  have hne : path.rdropWhile (· = slash) ≠ [] := by
    rintro hnil
    rw [dropSlashes_eq, hnil] at hlast
    cases hlast
  have hslash := List.rdropWhile_last_not (· = slash) path hne
  rw [dropSlashes_eq, List.getLast?_eq_some_getLast hne, Option.some.injEq] at hlast
  simp [hlast] at hslash

theorem names_dropSlashes (path : Bytes) : names (dropSlashes path) = parts path := by
  rw [names_eq, if_neg fun hslash => getLast?_dropSlashes path hslash.2, parts_dropSlashes]

theorem isAbsolute_dropSlashes (h : dropSlashes path ≠ []) :
    isAbsolute (dropSlashes path) = isAbsolute path := by
  obtain ⟨rest, hrest⟩ := dropSlashes_prefix path
  rw [← hrest, isAbsolute_append h, hrest]

end BoardSmoke.Path
