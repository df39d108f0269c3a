import BoardSmoke.Proofs.FileTree.Folder

namespace BoardSmoke

def latest? (filed : List (Name × String)) (name : Name) : Option String :=
  filed.reverse.lookup name

variable {filed later : List (Name × String)} {name : Name} {text : String}

theorem latest?_append :
    latest? (filed ++ later) name = (latest? later name).or (latest? filed name) := by
  rw [latest?, List.reverse_append, List.lookup_append]
  rfl

theorem latest?_singleton {other : Name} :
    latest? [(other, text)] name = if name = other then some text else none := by
  by_cases hname : name = other
  · simp [latest?, hname]
  · have hne : (name == other) = false := by simpa using hname
    simp [latest?, List.lookup_cons, hne, hname]

theorem latest?_cons {other : Name} :
    latest? ((other, text) :: later) name =
      (latest? later name).or (if name = other then some text else none) := by
  rw [← List.singleton_append, latest?_append, latest?_singleton]

theorem latest?_eq_none_iff : latest? filed name = none ↔ ∀ entry ∈ filed, entry.1 ≠ name := by
  rw [latest?, List.lookup_eq_none_iff]
  simp only [List.mem_reverse, bne_iff_ne, ne_eq]
  exact forall₂_congr fun _ _ => not_congr eq_comm

namespace FileTree

variable {root : Bytes} {tree made middle after : FileTree} {folder : Place}

-- At a name in a folder there is nothing, or a file.
def isClear (tree : FileTree) (root : Bytes) (name : Name) : Bool :=
  (tree.folder? root).all fun folder => (tree.entry? (folder ++ [name])).all Entry.isFile

theorem isClear_iff :
    tree.isClear root name ↔ ∀ folder, tree.folder? root = some folder →
      ∀ entry, tree.entry? (folder ++ [name]) = some entry → entry.isFile := by
  simp [isClear, Option.all_eq_true]

-- The folder at `root` is made if it is not there, and texts are filed in it.
structure Filing (root : Bytes) (filed : List (Name × String)) (tree made : FileTree)
    (folder : Place) (after : FileTree) : Prop where
  makeFolders : tree.makeFolders root = (.ok (), made)
  adds : AddsFolders tree made
  folder_made : made.folder? root = some folder
  folder_after : after.folder? root = some folder
  held : ∀ name text, latest? filed name = some text →
    Fits root name ∧ ∃ executable,
      after.entry? (folder ++ [name]) = some (.file (Utf8.bytes text) executable)
  others : ∀ place, (∀ name text, latest? filed name = some text → place ≠ folder ++ [name]) →
    after.entry? place = made.entry? place

theorem Filing.readFile (h : Filing root filed tree made folder after)
    (hname : Path.IsFileName name) (hlatest : latest? filed name = some text) :
    after.readFile (Path.join root name) = .ok (Utf8.bytes text) := by
  obtain ⟨hfits, executable, hentry⟩ := h.held name text hlatest
  exact readFile_join h.folder_after hname hfits hentry

theorem Filing.unfiled (h : Filing root filed tree made folder after)
    (hlatest : latest? filed name = none) :
    after.entry? (folder ++ [name]) = made.entry? (folder ++ [name]) := by
  refine h.others _ fun other text hother hplace => ?_
  obtain rfl := List.singleton_inj.mp (List.append_cancel_left hplace)
  rw [hlatest] at hother
  cases hother

theorem Filing.isClear (h : Filing root filed tree made folder after)
    (hclear : made.isClear root name) : after.isClear root name := by
  refine isClear_iff.mpr fun there hthere entry hentry => ?_
  obtain rfl : folder = there := Option.some.inj (h.folder_after.symm.trans hthere)
  cases hlatest : latest? filed name with
  | none => exact isClear_iff.mp hclear folder h.folder_made entry (h.unfiled hlatest ▸ hentry)
  | some text =>
      obtain ⟨_, executable, hheld⟩ := h.held name text hlatest
      obtain rfl := Option.some.inj (hheld.symm.trans hentry)
      rfl

theorem filing_of_writeFile (hmake : tree.makeFolders root = (.ok (), made))
    (hclear : made.isClear root name) (hname : Path.IsFileName name)
    (hwrite : made.writeFile (Path.join root name) (Utf8.bytes text) = (.ok (), after)) :
    ∃ folder, Filing root [(name, text)] tree made folder after := by
  have hmakes := makeFolders_makes tree root
  rw [hmake] at hmakes
  obtain ⟨folder, hfolder⟩ := hmakes.leads rfl
  have hplain := isClear_iff.mp hclear folder hfolder
  obtain ⟨hfits, executable, rfl⟩ := writeFile_join hfolder hname hplain hwrite
  refine ⟨folder, hmake, hmakes.adds, hfolder, (keepsWays_put hplain).folder? hfolder, ?_, ?_⟩
  · intro other text' hlatest
    rw [latest?_singleton] at hlatest
    split at hlatest
    · rename_i hother
      obtain rfl := hother
      obtain rfl := Option.some.inj hlatest
      exact ⟨hfits, executable, entry?_put_same folder other⟩
    · cases hlatest
  · intro place hplace
    exact entry?_put_other (hplace name text (by rw [latest?_singleton, if_pos rfl]))

-- What is filed later lies in the same folder, which is there by then.
theorem Filing.append {remade : FileTree} {there : Place}
    (h : Filing root filed tree made folder middle)
    (hlater : Filing root later middle remade there after) :
    Filing root (filed ++ later) tree made folder after := by
  have hmiddle := makeFolders_of_folder? h.folder_after
  obtain rfl : middle = remade := (Prod.mk.inj (hmiddle.symm.trans hlater.makeFolders)).2
  obtain rfl : folder = there := Option.some.inj (h.folder_after.symm.trans hlater.folder_made)
  refine ⟨h.makeFolders, h.adds, h.folder_made, hlater.folder_after, ?_, ?_⟩
  · intro name text hlatest
    rw [latest?_append] at hlatest
    cases hlast : latest? later name with
    | some last =>
        rw [hlast] at hlatest
        obtain rfl := Option.some.inj hlatest
        exact hlater.held name last hlast
    | none =>
        rw [hlast] at hlatest
        rw [hlater.unfiled hlast]
        exact h.held name text hlatest
  · intro place hplace
    have hbefore : ∀ name text, latest? filed name = some text → place ≠ folder ++ [name] := by
      intro name text hlatest
      cases hlast : latest? later name with
      | some last => exact hplace name last (by rw [latest?_append, hlast]; rfl)
      | none => exact hplace name text (by rw [latest?_append, hlast, hlatest]; rfl)
    rw [← h.others place hbefore]
    refine hlater.others place fun name text hlast => hplace name text ?_
    rw [latest?_append, hlast]
    rfl

-- What a tree is after some texts were filed. If there are none, no folder is made either.
inductive Archived (root : Bytes) : List (Name × String) → FileTree → FileTree → Prop
  | nothing {tree : FileTree} : Archived root [] tree tree
  | filed {filed : List (Name × String)} {tree made after : FileTree} {folder : Place}
      (hfiled : filed ≠ []) (h : Filing root filed tree made folder after) :
      Archived root filed tree after

theorem Archived.append (h : Archived root filed tree middle)
    (hlater : Archived root later middle after) : Archived root (filed ++ later) tree after := by
  cases h with
  | nothing => exact hlater
  | filed hfiled h =>
      cases hlater with
      | nothing =>
          rw [List.append_nil]
          exact .filed hfiled h
      | filed _ hlater =>
          exact .filed (fun hnil => hfiled (List.append_eq_nil_iff.mp hnil).1) (h.append hlater)

theorem Archived.isClear (h : Archived root filed tree after)
    (hclear : (tree.makeFolders root).2.isClear root name) :
    (after.makeFolders root).2.isClear root name := by
  cases h with
  | nothing => exact hclear
  | filed _ h =>
      rw [makeFolders_of_folder? h.folder_after]
      rw [h.makeFolders] at hclear
      exact h.isClear hclear

theorem Archived.readFile (h : Archived root filed tree after) (hname : Path.IsFileName name)
    (hlatest : latest? filed name = some text) :
    after.readFile (Path.join root name) = .ok (Utf8.bytes text) := by
  cases h with
  | nothing => cases hlatest
  | filed _ h => exact h.readFile hname hlatest

end FileTree

end BoardSmoke
