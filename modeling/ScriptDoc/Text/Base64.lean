/-!
# Base 64

Bytes written in letters of six bits each.  Characters of no meaning are skipped; the padding at the
end is required, and what follows it is ignored.
-/

namespace ScriptDoc.Text.Base64

/-- The six bits of a letter. -/
def sextet? (c : Char) : Option Nat :=
  if 'A' ≤ c && c ≤ 'Z' then some (c.toNat - 65)
  else if 'a' ≤ c && c ≤ 'z' then some (c.toNat - 71)
  else if '0' ≤ c && c ≤ '9' then some (c.toNat + 4)
  else if c == '+' then some 62
  else if c == '/' then some 63
  else none

/-- Decodes what follows `taken` letters of a group of four, of which the bits `left` have not been
put out, and `pads` padding characters. -/
def decodeFrom (taken left pads : Nat) : List Char → Option (List UInt8)
  | [] => if taken == 0 then some [] else none
  | c :: rest =>
    if c == '=' then
      if taken ≥ 2 && taken + pads + 1 ≥ 4 then some []
      else decodeFrom taken left (if taken ≥ 2 then pads + 1 else pads) rest
    else
      match sextet? c with
      | none => decodeFrom taken left pads rest
      | some x =>
        match taken with
        | 0 => decodeFrom 1 x 0 rest
        | 1 => (decodeFrom 2 (x % 16) 0 rest).map (UInt8.ofNat (left * 4 + x / 16) :: ·)
        | 2 => (decodeFrom 3 (x % 4) 0 rest).map (UInt8.ofNat (left * 16 + x / 4) :: ·)
        | _ => (decodeFrom 0 0 0 rest).map (UInt8.ofNat (left * 64 + x) :: ·)

/-- The bytes of a text. -/
def decode (cs : List Char) : Option (List UInt8) := decodeFrom 0 0 0 cs

end ScriptDoc.Text.Base64
