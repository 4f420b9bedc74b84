/-!
# Base 64

Characters that are no digits are skipped, and reading stops at padding that completes a group of
four. Digits left over at the end are refused.
-/

namespace DagAccess.Base64

/-- The value of a digit. -/
def digit? (c : Char) : Option Nat :=
  if 'A' ≤ c && c ≤ 'Z' then some (c.toNat - 0x41)
  else if 'a' ≤ c && c ≤ 'z' then some (c.toNat - 0x61 + 26)
  else if '0' ≤ c && c ≤ '9' then some (c.toNat - 0x30 + 52)
  else if c = '+' then some 62
  else if c = '/' then some 63
  else none

/-- Reads on with `count` digits of the present group read, of which `held` bits await their byte,
and `pads` padding characters read since the last digit. -/
def decodeFrom (count held pads : Nat) : List Char → Option (List UInt8)
  | [] => if count = 0 then some [] else none
  | c :: cs =>
    if c = '=' then
      if count < 2 then decodeFrom count held pads cs
      else if 4 ≤ count + (pads + 1) then some []
      else decodeFrom count held (pads + 1) cs
    else match digit? c with
      | none => decodeFrom count held pads cs
      | some d =>
        match count with
        | 0 => decodeFrom 1 d 0 cs
        | 1 => (decodeFrom 2 (d % 16) 0 cs).map (UInt8.ofNat (held * 4 + d / 16) :: ·)
        | 2 => (decodeFrom 3 (d % 4) 0 cs).map (UInt8.ofNat (held * 16 + d / 4) :: ·)
        | _ => (decodeFrom 0 0 0 cs).map (UInt8.ofNat (held * 64 + d) :: ·)

/-- The bytes that the text stands for. -/
def decode? (cs : List Char) : Option (List UInt8) :=
  decodeFrom 0 0 0 cs

end DagAccess.Base64
