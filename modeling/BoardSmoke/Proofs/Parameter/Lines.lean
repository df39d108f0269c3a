import BoardSmoke.Proofs.Parameter

namespace BoardSmoke

namespace Text

theorem words_append_blank (text : List Char) {blank : Char} (hblank : isBlank blank = true) :
    words (text ++ [blank]) = words text := by
  have hcut : cutBlanks (text ++ [blank]) = ((cutBlanks text).1, (cutBlanks text).2 ++ [[]]) := by
    induction text with
    | nil => simp [cutBlanks, hblank]
    | cons c text ih => by_cases hc : isBlank c = true <;> simp [cutBlanks, ih, hc]
  rw [words, words, hcut]
  simp only [← List.cons_append, List.filter_append]
  simp

theorem dropReturn_nil : dropReturn [] = [] := rfl

theorem eq_dropReturn_or (line : List Char) :
    line = dropReturn line ∨ line = dropReturn line ++ ['\r'] := by
  rw [dropReturn]
  split
  · next hlast =>
      obtain ⟨bare, rfl⟩ := List.getLast?_eq_some_iff.mp hlast
      simp
  · exact .inl rfl

end Text

namespace Parameter

open Text

theorem valueOnLine?_eq_some_iff {name line value : List Char} :
    valueOnLine? name line = some value ↔ name <+: line ∧ (words line)[1]? = some value := by
  rw [valueOnLine?, Option.ite_none_right_eq_some, List.isPrefixOf_iff_prefix]

-- A line gives no value if it starts otherwise, or has too few words.
theorem valueOnLine?_eq_none_iff {name line : List Char} :
    valueOnLine? name line = none ↔ (name <+: line → (words line).length < 2) := by
  rw [valueOnLine?]
  split
  · next hprefix =>
      have hstarts : name <+: line := List.isPrefixOf_iff_prefix.mp hprefix
      rw [List.getElem?_eq_none_iff]
      exact ⟨fun hfew _ => Nat.lt_succ_of_le hfew, fun h => Nat.le_of_lt_succ (h hstarts)⟩
  · next hprefix =>
      have hother : ¬name <+: line := fun h => hprefix (List.isPrefixOf_iff_prefix.mpr h)
      exact ⟨fun _ h => absurd h hother, fun _ => rfl⟩

theorem valueOnLine?_nil (name : List Char) : valueOnLine? name [] = none :=
  valueOnLine?_eq_none (by decide)

-- The carriage return of a line end is a blank, and no part of a name that has none.
theorem valueOnLine?_dropReturn {name : List Char} (hname : '\r' ∉ name) (line : List Char) :
    valueOnLine? name (dropReturn line) = valueOnLine? name line := by
  rcases eq_dropReturn_or line with hsame | hreturn
  · rw [← hsame]
  generalize dropReturn line = bare at hreturn
  subst hreturn
  have hends : name ≠ bare ++ ['\r'] := fun h => hname (h ▸ by simp)
  have hstarts : name.isPrefixOf (bare ++ ['\r']) = name.isPrefixOf bare := by
    rw [Bool.eq_iff_iff, List.isPrefixOf_iff_prefix, List.isPrefixOf_iff_prefix,
      List.prefix_concat_iff, or_iff_right hends]
  rw [valueOnLine?, valueOnLine?, hstarts, words_append_blank bare (by decide)]

def valuesIn (name text : List Char) : List (List Char) := (lines text).filterMap (valueOnLine? name)

-- The line that a newline cuts off may lose its carriage return, and may be empty.
theorem valuesIn_append_newline {name : List Char} (hname : '\r' ∉ name) (first second : List Char) :
    valuesIn name (first ++ '\n' :: second) = valuesIn name first ++ valuesIn name second := by
  have hlast : [dropReturn (cutLines first).2].filterMap (valueOnLine? name) =
      (if (cutLines first).2 = [] then [] else [(cutLines first).2]).filterMap
        (valueOnLine? name) := by
    split
    · next hempty => simp [hempty, dropReturn_nil, valueOnLine?_nil]
    · rw [List.filterMap_cons, List.filterMap_cons, valueOnLine?_dropReturn hname]
  have hfirst : lines first = (cutLines first).1.map dropReturn ++
      if (cutLines first).2 = [] then [] else [(cutLines first).2] := rfl
  have hlines : lines (first ++ '\n' :: second) =
      (cutLines first).1.map dropReturn ++ [dropReturn (cutLines first).2] ++ lines second := by
    simp [lines, cutLines_append_newline]
  rw [valuesIn, hlines, List.filterMap_append, List.filterMap_append, hlast,
    ← List.filterMap_append, ← hfirst, valuesIn, valuesIn]

theorem value?_eq_getLast? (response name : String) :
    value? response name = (valuesIn name.toList response.toList).getLast?.map String.ofList := rfl

-- What stands behind a newline decides, unless it gives no value.
theorem value?_append_newline {name : String} (hname : '\r' ∉ name.toList) (first second : String) :
    value? (first ++ "\n" ++ second) name = (value? second name).or (value? first name) := by
  have hchars : (first ++ "\n" ++ second).toList = first.toList ++ '\n' :: second.toList := by
    simp
  rw [value?_eq_getLast?, hchars, valuesIn_append_newline hname, List.getLast?_append,
    Option.map_or]
  rfl

-- The last line with a value, and the lines on either side of it.
theorem value?_eq_some_iff {response name value : String} :
    value? response name = some value ↔
      ∃ before line after, lines response.toList = before ++ line :: after ∧
        valueOnLine? name.toList line = some value.toList ∧
        ∀ later ∈ after, valueOnLine? name.toList later = none := by
  have hvalue : value? response name = some value ↔
      (lines response.toList).reverse.findSome? (valueOnLine? name.toList) =
        some value.toList := by
    rw [value?_eq_getLast?, valuesIn, List.getLast?_filterMap, Option.map_eq_some_iff]
    constructor
    · rintro ⟨chars, hchars, rfl⟩
      rw [hchars, String.toList_ofList]
    · exact fun hchars => ⟨value.toList, hchars, String.ofList_toList⟩
  rw [hvalue, List.findSome?_eq_some_iff]
  constructor
  · rintro ⟨after, line, before, hlines, hline, hafter⟩
    refine ⟨before.reverse, line, after.reverse, ?_, hline, fun later hlater =>
      hafter later (List.mem_reverse.mp hlater)⟩
    rw [← List.reverse_reverse (lines response.toList), hlines]
    simp
  · rintro ⟨before, line, after, hlines, hline, hafter⟩
    refine ⟨after.reverse, line, before.reverse, ?_, hline, fun later hlater =>
      hafter later (List.mem_reverse.mp hlater)⟩
    rw [hlines]
    simp

-- Of two texts with a newline between them, the second one is read before the first, and of the lines
-- of a text the last one that starts with the name and has two words.
theorem last_value_counts (name : String) (hname : '\r' ∉ name.toList) :
    (∀ first second : String,
      value? (first ++ "\n" ++ second) name = (value? second name).or (value? first name)) ∧
    ∀ response value : String, value? response name = some value ↔
      ∃ before line after, lines response.toList = before ++ line :: after ∧
        name.toList <+: line ∧ (words line)[1]? = some value.toList ∧
        ∀ later ∈ after, name.toList <+: later → (words later).length < 2 := by
  refine ⟨value?_append_newline hname, fun response value => ?_⟩
  simp only [value?_eq_some_iff, valueOnLine?_eq_some_iff, valueOnLine?_eq_none_iff, and_assoc]

-- The first text ends with a carriage return, and the second one names the parameter without a value.
theorem seam_value_counts :
    '\r' ∉ "P".toList ∧ value? ("P 1\r" ++ "\n" ++ "P\r\nnsh> ") "P" = some "1" := by
  have hname : '\r' ∉ "P".toList := by decide
  have hlaw := (last_value_counts "P" hname).1 "P 1\r" "P\r\nnsh> "
  have hsecond : value? "P\r\nnsh> " "P" = none := by decide
  have hfirst : value? "P 1\r" "P" = some "1" := by decide
  rw [hsecond, hfirst] at hlaw
  exact ⟨hname, hlaw⟩

end Parameter

end BoardSmoke
