namespace BoardSmoke

-- A sequence of bytes, as the serial line and files carry them.
abbrev Bytes := List UInt8

namespace Utf8

-- The character that stands for bytes which are not valid UTF-8.
def replacement : Char := '\uFFFD'

structure Span where
  low : UInt8
  high : UInt8
  deriving DecidableEq, Repr

def Span.holds (span : Span) (byte : UInt8) : Bool :=
  span.low ≤ byte && byte ≤ span.high

-- What a continuation byte may be unless the lead byte narrows it.
def Span.continuation : Span := ⟨0x80, 0xBF⟩

-- Where a reader stands between two bytes: at the start of a character, or inside one, with the
-- bits read so far, the range of the next byte, and how many free continuation bytes follow it.
inductive Progress where
  | start
  | inside (bits : Nat) (next : Span) (later : Nat)
  deriving DecidableEq, Repr

-- The first byte of a character. The range of the byte after it excludes overlong forms,
-- surrogates and values above U+10FFFF.
def lead (byte : UInt8) : List Char × Progress :=
  let value := byte.toNat
  if value < 0x80 then ([Char.ofNat value], .start)
  else if 0xC2 ≤ value ∧ value ≤ 0xDF then ([], .inside (value - 0xC0) .continuation 0)
  else if value = 0xE0 then ([], .inside 0 ⟨0xA0, 0xBF⟩ 1)
  else if value = 0xED then ([], .inside 0xD ⟨0x80, 0x9F⟩ 1)
  else if 0xE1 ≤ value ∧ value ≤ 0xEF then ([], .inside (value - 0xE0) .continuation 1)
  else if value = 0xF0 then ([], .inside 0 ⟨0x90, 0xBF⟩ 2)
  else if 0xF1 ≤ value ∧ value ≤ 0xF3 then ([], .inside (value - 0xF0) .continuation 2)
  else if value = 0xF4 then ([], .inside 4 ⟨0x80, 0x8F⟩ 2)
  else ([replacement], .start)

-- One more byte. A byte that cannot continue the character ends it as one replacement character
-- and is then read as a first byte.
def advance : Progress → UInt8 → List Char × Progress
  | .start, byte => lead byte
  | .inside bits next later, byte =>
    if next.holds byte then
      let bits := bits * 64 + (byte.toNat - 0x80)
      match later with
      | 0 => ([Char.ofNat bits], .start)
      | later + 1 => ([], .inside bits .continuation later)
    else
      let (chars, progress) := lead byte
      (replacement :: chars, progress)

-- The end of the bytes cuts an unfinished character short.
def finish : Progress → List Char
  | .start => []
  | .inside .. => [replacement]

def decodeFrom : Progress → Bytes → List Char
  | progress, [] => finish progress
  | progress, byte :: rest =>
    let (chars, progress) := advance progress byte
    chars ++ decodeFrom progress rest

-- The characters of `bytes`, with one replacement character for every maximal ill-formed part.
def decode (bytes : Bytes) : List Char := decodeFrom .start bytes

-- The text of `bytes`, with one replacement character for every maximal ill-formed part.
def text (bytes : Bytes) : String := String.ofList (decode bytes)

def encode (chars : List Char) : Bytes := chars.flatMap String.utf8EncodeChar

def bytes (text : String) : Bytes := encode text.toList

-- The text of `bytes` if they are valid UTF-8. Replacing changes the bytes, so they are valid
-- exactly when writing the characters again gives them back.
def text? (bytes : Bytes) : Option String :=
  let chars := decode bytes
  if encode chars = bytes then some (String.ofList chars) else none

end Utf8

end BoardSmoke
