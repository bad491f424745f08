/-!
# Hexadecimal text

Numbers and bytes as hexadecimal digits, most significant first and in lower case. Reading accepts
both cases.

## Main definitions

* `Hex.ofNat`: a number in a given count of digits
* `Hex.toNat?`: the number that digits stand for
* `Hex.toBytes?`: the bytes that pairs of digits stand for
-/

namespace DocQuery.Hex

/-- The digit for a number below sixteen. -/
def digit (n : Nat) : Char :=
  if n < 10 then Char.ofNat ('0'.toNat + n) else Char.ofNat ('a'.toNat + (n - 10))

/-- The number that a digit of either case stands for. -/
def digitValue? (c : Char) : Option Nat :=
  if '0' ≤ c ∧ c ≤ '9' then some (c.toNat - '0'.toNat)
  else if 'a' ≤ c ∧ c ≤ 'f' then some (c.toNat - 'a'.toNat + 10)
  else if 'A' ≤ c ∧ c ≤ 'F' then some (c.toNat - 'A'.toNat + 10)
  else none

/-- The last `count` digits of a number. -/
def ofNat (count n : Nat) : List Char :=
  match count with
  | 0 => []
  | count + 1 => ofNat count (n / 16) ++ [digit (n % 16)]

/-- The number that a non-empty list of digits stands for. -/
def toNat? (digits : List Char) : Option Nat :=
  match digits with
  | [] => none
  | _ => digits.foldlM (fun acc c => (digitValue? c).map (16 * acc + ·)) 0

/-- The bytes that pairs of digits stand for. -/
def toBytes? : List Char → Option (List UInt8)
  | [] => some []
  | [_] => none
  | high :: low :: rest => do
    let h ← digitValue? high
    let l ← digitValue? low
    let bytes ← toBytes? rest
    return UInt8.ofNat (16 * h + l) :: bytes

/-- The number that bytes stand for, most significant first. -/
def natOfBytes (bytes : List UInt8) : Nat := bytes.foldl (fun acc b => 256 * acc + b.toNat) 0

end DocQuery.Hex
