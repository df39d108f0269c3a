import BoardSmoke.Number.Literal

namespace BoardSmoke

inductive NaturalError where
  | empty
  | invalidDigit
  | tooLarge
  deriving DecidableEq, Repr

namespace NaturalError

def message : NaturalError → String
  | .empty => "cannot parse integer from empty string"
  | .invalidDigit => "invalid digit found in string"
  | .tooLarge => "number too large to fit in target type"

end NaturalError

namespace Natural

-- Takes the digits one by one. What goes wrong first is reported.
def parseFrom (limit value : Nat) : List Char → Except NaturalError Nat
  | [] => .ok value
  | c :: rest =>
    if !c.isDigit then .error .invalidDigit
    else
      let value := value * 10 + Literal.digitValue c
      if value < limit then parseFrom limit value rest else .error .tooLarge

-- The number below `limit` that `text` writes. A plus sign may be in front of its digits.
def parse (limit : Nat) (text : String) : Except NaturalError Nat :=
  match text.toList with
  | [] => .error .empty
  | ['+'] => .error .invalidDigit
  | '+' :: digits => parseFrom limit 0 digits
  | digits => parseFrom limit 0 digits

end Natural

end BoardSmoke
