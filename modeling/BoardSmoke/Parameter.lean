import BoardSmoke.Text.Blank

namespace BoardSmoke.Parameter

-- The value that one line gives to the parameter `name`: the second word of a line that starts
-- with the name.
def valueOnLine? (name line : List Char) : Option (List Char) :=
  if name.isPrefixOf line then (Text.words line)[1]? else none

-- The value that a response gives to the parameter `name`. Of several lines the last one counts,
-- and a line without a value does not.
def value? (response name : String) : Option String :=
  let values := (Text.lines response.toList).filterMap (valueOnLine? name.toList)
  values.getLast?.map String.ofList

end BoardSmoke.Parameter
