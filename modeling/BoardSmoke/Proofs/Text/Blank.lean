import BoardSmoke.Text.Blank

namespace BoardSmoke.Text

-- A text that is one word: it is not empty and has no blanks.
def IsWord (text : List Char) : Prop := text ≠ [] ∧ ∀ c ∈ text, isBlank c = false

theorem isWord_iff (text : List Char) :
    (!text.isEmpty && text.all fun c => !isBlank c) = true ↔ IsWord text := by
  simp [IsWord]

instance (text : List Char) : Decidable (IsWord text) :=
  decidable_of_iff _ (isWord_iff text)

theorem IsWord.newline_notMem {word : List Char} (h : IsWord word) : '\n' ∉ word :=
  fun hmem => absurd (h.2 _ hmem) (by decide)

theorem dropReturn_append_return (line : List Char) : dropReturn (line ++ ['\r']) = line := by
  simp [dropReturn]

-- A newline cuts a text in two, whatever its parts are.
theorem cutLines_append_newline (first rest : List Char) :
    cutLines (first ++ '\n' :: rest) =
      ((cutLines first).1 ++ (cutLines first).2 :: (cutLines rest).1, (cutLines rest).2) := by
  induction first with
  | nil => simp [cutLines]
  | cons c first ih =>
      by_cases hc : c = '\n'
      · simp [cutLines, ih, hc]
      · cases hended : (cutLines first).1 <;> simp [cutLines, ih, hc, hended]

theorem cutLines_of_newline_notMem {text : List Char} (h : '\n' ∉ text) :
    cutLines text = ([], text) := by
  induction text with
  | nil => rfl
  | cons c text ih =>
      have hc : c ≠ '\n' := fun hc => h (hc ▸ List.mem_cons_self)
      have htext : '\n' ∉ text := fun hmem => h (List.mem_cons_of_mem _ hmem)
      simp [cutLines, hc, ih htext]

theorem lines_append_newline (first rest : List Char) :
    lines (first ++ '\n' :: rest) = lines (first ++ ['\n']) ++ lines rest := by
  simp [lines, cutLines_append_newline, cutLines]

theorem lines_cons_of_newline_notMem {line : List Char} (h : '\n' ∉ line) (rest : List Char) :
    lines (line ++ '\n' :: rest) = dropReturn line :: lines rest := by
  simp [lines, cutLines_append_newline, cutLines_of_newline_notMem h]

theorem lines_of_newline_notMem {line : List Char} (h : '\n' ∉ line) (hline : line ≠ []) :
    lines line = [line] := by
  simp [lines, cutLines_of_newline_notMem h, hline]

private theorem cutBlanks_append {first : List Char} (h : ∀ c ∈ first, isBlank c = false)
    (rest : List Char) :
    cutBlanks (first ++ rest) = (first ++ (cutBlanks rest).1, (cutBlanks rest).2) := by
  induction first with
  | nil => rfl
  | cons c first ih =>
      have hc : isBlank c = false := h c List.mem_cons_self
      have hfirst := ih fun c' hc' => h c' (List.mem_cons_of_mem _ hc')
      simp [cutBlanks, hfirst, hc]

theorem words_cons {word : List Char} (h : IsWord word) {blank : Char}
    (hblank : isBlank blank = true) (rest : List Char) :
    words (word ++ blank :: rest) = word :: words rest := by
  simp [words, cutBlanks_append h.2, cutBlanks, hblank, h.1]

theorem words_of_isWord {word : List Char} (h : IsWord word) : words word = [word] := by
  have hcut := cutBlanks_append h.2 []
  rw [List.append_nil] at hcut
  simp [words, hcut, cutBlanks, h.1]

-- A text starts with a word if the part before the first blank does.
theorem isPrefix_append_blank_iff {word : List Char} (h : ∀ c ∈ word, isBlank c = false)
    (first : List Char) {blank : Char} (hblank : isBlank blank = true) (rest : List Char) :
    word <+: first ++ blank :: rest ↔ word <+: first := by
  induction first generalizing word with
  | nil =>
      cases word with
      | nil => simp
      | cons c word =>
          have hne : c ≠ blank := fun heq => by
            have hc := h c List.mem_cons_self
            rw [heq, hblank] at hc
            cases hc
          simp [List.cons_prefix_cons, hne]
  | cons d first ih =>
      cases word with
      | nil => simp
      | cons c word =>
          have hword := ih fun c' hc' => h c' (List.mem_cons_of_mem _ hc')
          rw [List.cons_append, List.cons_prefix_cons, List.cons_prefix_cons, hword]

private theorem cutBlanks_notBlank (text : List Char) :
    ∀ stretch ∈ (cutBlanks text).1 :: (cutBlanks text).2, ∀ c ∈ stretch, isBlank c = false := by
  induction text with
  | nil => simp [cutBlanks]
  | cons c text ih =>
      by_cases hc : isBlank c = true
      · simpa [cutBlanks, hc] using ih
      · simp only [Bool.not_eq_true] at hc
        simp only [List.forall_mem_cons] at ih
        simpa [cutBlanks, hc] using ih

theorem isWord_of_mem_words {text word : List Char} (h : word ∈ words text) : IsWord word := by
  simp only [words, List.mem_filter, decide_eq_true_eq] at h
  exact ⟨h.2, cutBlanks_notBlank text word h.1⟩

end BoardSmoke.Text
