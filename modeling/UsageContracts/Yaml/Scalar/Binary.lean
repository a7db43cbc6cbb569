import UsageContracts.Yaml.Fault

/-!
# Binary scalars

Bytes written in base 64.  Characters outside the alphabet are passed over, and
whatever follows a complete padding does not count.
-/

namespace UsageContracts.Yaml

/-- The value of a character of the alphabet. -/
def sextet? (character : Char) : Option Nat :=
  if character.isUpper then some (character.toNat - 'A'.toNat)
  else if character.isLower then some (character.toNat - 'a'.toNat + 26)
  else if character.isDigit then some (character.toNat - '0'.toNat + 52)
  else if character = '+' then some 62
  else if character = '/' then some 63
  else none

/-- Decode the rest of a text.  `read` counts the characters of the current
group of four, `pending` holds the bits of the last one that make up no byte
yet, and `padding` counts the padding characters since then. -/
def decodeGroup (read pending padding : Nat) : List Char → Except Fault (List UInt8)
  | [] => if read = 0 then .ok [] else .error .form
  | character :: rest =>
      if character = '=' then
        if 2 ≤ read then
          if 4 ≤ read + (padding + 1) then .ok [] else decodeGroup read pending (padding + 1) rest
        else
          decodeGroup read pending padding rest
      else
        match sextet? character with
        | none => decodeGroup read pending padding rest
        | some sextet =>
            match read with
            | 0 => decodeGroup 1 sextet 0 rest
            | 1 => do
                let bytes ← decodeGroup 2 (sextet % 16) 0 rest
                return (4 * pending + sextet / 16).toUInt8 :: bytes
            | 2 => do
                let bytes ← decodeGroup 3 (sextet % 4) 0 rest
                return (16 * pending + sextet / 4).toUInt8 :: bytes
            | _ => do
                let bytes ← decodeGroup 0 0 0 rest
                return (64 * pending + sextet).toUInt8 :: bytes

/-- The bytes that a text writes in base 64. -/
def decodeBase64 (text : List Char) : Except Fault (List UInt8) :=
  decodeGroup 0 0 0 text

end UsageContracts.Yaml
