namespace BoardSmoke.Text

-- The characters of `part` stand somewhere in the text, one right after the other.
def holds (part : List Char) : List Char → Bool
  | [] => part = []
  | whole@(_ :: rest) => part.isPrefixOf whole || holds part rest

end BoardSmoke.Text
