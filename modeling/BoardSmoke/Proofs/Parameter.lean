import BoardSmoke.Parameter
import BoardSmoke.Proofs.Text.Blank

namespace BoardSmoke.Parameter

open Text

def trailer : List Char := [' ', '\r', '\n', 'n', 's', 'h', '>', ' ']

theorem valueOnLine?_own {name value : List Char} (hname : IsWord name) (hvalue : IsWord value)
    {rest : List Char} (hrest : rest.head?.all isBlank = true) :
    valueOnLine? name (name ++ ' ' :: (value ++ rest)) = some value := by
  have hprefix : name.isPrefixOf (name ++ ' ' :: (value ++ rest)) = true :=
    List.isPrefixOf_iff_prefix.mpr (List.prefix_append _ _)
  rw [valueOnLine?, if_pos hprefix, words_cons hname (by decide)]
  cases rest with
  | nil => simp [words_of_isWord hvalue]
  | cons c rest => simp [words_cons hvalue hrest]

theorem valueOnLine?_eq_none {name line : List Char} (h : (words line).length ≤ 1) :
    valueOnLine? name line = none := by
  simp only [valueOnLine?, List.getElem?_eq_none h, ite_self]

-- The last line with a value decides.
private theorem value?_of_lines {response name value : String} {line : List Char}
    (before after : List (List Char)) (hlines : lines response.toList = before ++ line :: after)
    (hline : valueOnLine? name.toList line = some value.toList)
    (hafter : ∀ line ∈ after, valueOnLine? name.toList line = none) :
    value? response name = some value := by
  have hnone : after.filterMap (valueOnLine? name.toList) = [] :=
    List.filterMap_eq_nil_iff.mpr hafter
  simp [value?, hlines, hline, hnone]

-- The trailer may be cut anywhere: before its line end, or in the prompt, which holds one word.
private theorem trailer_cases {tail : List Char} (h : tail <+: trailer) :
    ('\n' ∉ tail ∧ tail.head?.all isBlank = true) ∨
    ∃ prompt, tail = ' ' :: '\r' :: '\n' :: prompt ∧ '\n' ∉ prompt ∧ (words prompt).length ≤ 1 := by
  simp only [trailer, List.prefix_cons_iff, List.prefix_nil] at h
  rcases h with rfl | ⟨_, rfl, rfl | ⟨_, rfl, rfl | ⟨prompt, rfl, h⟩⟩⟩
  · exact .inl (by decide)
  · exact .inl (by decide)
  · exact .inl (by decide)
  · refine .inr ⟨prompt, rfl, ?_⟩
    rcases h with rfl | ⟨_, rfl, rfl | ⟨_, rfl, rfl | ⟨_, rfl, rfl | ⟨_, rfl, rfl | ⟨_, rfl, rfl⟩⟩⟩⟩⟩ <;>
      decide

-- A line of its own has the value, the lines before it do not matter, and what a board sends after
-- the value may be missing in part.
theorem value?_append (heading : String) {name value tail : String} (hname : IsWord name.toList)
    (hvalue : IsWord value.toList)
    (hheading : heading = "" ∨ ∃ line, heading = line ++ "\n") (htail : tail.toList <+: trailer) :
    value? (heading ++ (name ++ " " ++ value) ++ tail) name = some value := by
  obtain ⟨before, hbefore⟩ : ∃ before, ∀ rest : List Char,
      lines (heading.toList ++ rest) = before ++ lines rest := by
    rcases hheading with rfl | ⟨line, rfl⟩
    · exact ⟨[], fun rest => rfl⟩
    · refine ⟨lines (line.toList ++ ['\n']), fun rest => ?_⟩
      rw [← lines_append_newline]
      simp
  have hfree : '\n' ∉ name.toList ++ ' ' :: value.toList := by
    simp [hname.newline_notMem, hvalue.newline_notMem]
  have htext : (heading ++ (name ++ " " ++ value) ++ tail).toList =
      heading.toList ++ (name.toList ++ ' ' :: value.toList ++ tail.toList) := by
    simp
  rcases trailer_cases htail with ⟨hnewline, hblank⟩ | ⟨prompt, heq, hnewline, hwords⟩
  · have hlines : lines (name.toList ++ ' ' :: value.toList ++ tail.toList) =
        [name.toList ++ ' ' :: (value.toList ++ tail.toList)] := by
      rw [lines_of_newline_notMem (by simp_all) (by simp)]
      simp
    refine value?_of_lines before [] ?_
      (valueOnLine?_own hname hvalue hblank) (by simp)
    rw [htext, hbefore, hlines]
  · have hlines : lines (name.toList ++ ' ' :: value.toList ++ tail.toList) =
        (name.toList ++ ' ' :: (value.toList ++ [' '])) :: lines prompt := by
      have hcut : name.toList ++ ' ' :: value.toList ++ tail.toList =
          (name.toList ++ ' ' :: (value.toList ++ [' ']) ++ ['\r']) ++ '\n' :: prompt := by
        simp [heq]
      rw [hcut, lines_cons_of_newline_notMem (by simp_all), dropReturn_append_return]
    have hblank : [' '].head?.all isBlank = true := by decide
    refine value?_of_lines before (lines prompt) ?_
      (valueOnLine?_own hname hvalue hblank) ?_
    · rw [htext, hbefore, hlines]
    · intro line hline
      by_cases hprompt : prompt = []
      · simp [hprompt, lines, cutLines] at hline
      · rw [lines_of_newline_notMem hnewline hprompt, List.mem_singleton] at hline
        exact valueOnLine?_eq_none (hline ▸ hwords)

theorem exists_line_of_value? {response name value : String}
    (h : value? response name = some value) :
    ∃ line ∈ lines response.toList,
      name.toList <+: line ∧ (words line)[1]? = some value.toList := by
  obtain ⟨chars, hchars, rfl⟩ := Option.map_eq_some_iff.mp h
  obtain ⟨line, hmem, hline⟩ := List.mem_filterMap.mp (List.mem_of_getLast? hchars)
  rw [valueOnLine?, Option.ite_none_right_eq_some] at hline
  rw [String.toList_ofList]
  exact ⟨line, hmem, List.isPrefixOf_iff_prefix.mp hline.1, hline.2⟩

theorem isWord_of_value? {response name value : String} (h : value? response name = some value) :
    IsWord value.toList := by
  obtain ⟨line, _, _, hvalue⟩ := exists_line_of_value? h
  exact isWord_of_mem_words (List.mem_of_getElem? hvalue)

end BoardSmoke.Parameter
