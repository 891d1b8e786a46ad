/-! UTF-8 as a state machine over bytes. One scan marks every malformed part, so
that strict and lossy decoding read the same text wherever both succeed. -/

namespace TreeShell.Text.Utf8

/-- A character that has begun: the bits read so far, how many bytes it still
needs, and the range that the next of them must lie in. -/
structure Partial where
  bits : Nat
  missing : Nat
  low : Nat
  high : Nat

/-- How a byte begins a character, if it can. The range of the second byte shuts
out overlong forms, surrogates and code points past the last. -/
inductive Lead where
  | whole (character : Char)
  | opening (begun : Partial)
  | malformed

def lead (byte : UInt8) : Lead :=
  let value := byte.toNat
  if value < 0x80 then .whole (Char.ofNat value)
  else if value < 0xC2 then .malformed
  else if value < 0xE0 then .opening ⟨value - 0xC0, 1, 0x80, 0xBF⟩
  else if value == 0xE0 then .opening ⟨0, 2, 0xA0, 0xBF⟩
  else if value == 0xED then .opening ⟨0xD, 2, 0x80, 0x9F⟩
  else if value < 0xF0 then .opening ⟨value - 0xE0, 2, 0x80, 0xBF⟩
  else if value == 0xF0 then .opening ⟨0, 3, 0x90, 0xBF⟩
  else if value < 0xF4 then .opening ⟨value - 0xF0, 3, 0x80, 0xBF⟩
  else if value == 0xF4 then .opening ⟨4, 3, 0x80, 0x8F⟩
  else .malformed

/-- The characters of some bytes in order, with `none` for each maximal part that
begins no character. -/
def scan : Option Partial → List UInt8 → List (Option Char)
  | none, [] => []
  | some _, [] => [none]
  | none, byte :: rest =>
    match lead byte with
    | .whole character => some character :: scan none rest
    | .opening begun => scan (some begun) rest
    | .malformed => none :: scan none rest
  | some begun, byte :: rest =>
    if begun.low ≤ byte.toNat && byte.toNat ≤ begun.high then
      let bits := begun.bits * 64 + (byte.toNat - 0x80)
      if begun.missing == 1 then some (Char.ofNat bits) :: scan none rest
      else scan (some ⟨bits, begun.missing - 1, 0x80, 0xBF⟩) rest
    else match lead byte with
      | .whole character => none :: some character :: scan none rest
      | .opening next => none :: scan (some next) rest
      | .malformed => none :: none :: scan none rest

/-- The text that the bytes spell, if they are well formed throughout. -/
def decode? (bytes : List UInt8) : Option String :=
  ((scan none bytes).mapM id).map String.ofList

def decodeLossy (bytes : List UInt8) : String :=
  String.ofList ((scan none bytes).map fun found => found.getD '\uFFFD')

def encode (text : String) : List UInt8 :=
  text.toUTF8.toList

end TreeShell.Text.Utf8
