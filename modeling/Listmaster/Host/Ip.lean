import Listmaster.Text.Pieces

/-!
Texts of IP addresses.

An IPv4 address is four numbers up to 255, without superfluous zeros.  An IPv6
address is eight groups of hexadecimal digits; two colons stand for one or more
groups of zeros, and the last two groups may be written as an IPv4 address.
-/

namespace Listmaster.Host

def isOctet (s : List Char) : Bool :=
  match s with
  | [a] => a.isDigit
  | [a, b] => a.isDigit && b.isDigit && a != '0'
  | [a, b, c] =>
      a.isDigit && b.isDigit && c.isDigit && a != '0' &&
        100 * (a.toNat - 48) + 10 * (b.toNat - 48) + (c.toNat - 48) ≤ 255
  | _ => false

def isIpv4 (s : List Char) : Bool :=
  let octets := Text.pieces '.' s
  octets.length = 4 && octets.all isOctet

def isHexDigit (c : Char) : Bool :=
  c.isDigit || ('a' ≤ c && c ≤ 'f') || ('A' ≤ c && c ≤ 'F')

def isGroup (s : List Char) : Bool :=
  1 ≤ s.length && s.length ≤ 4 && s.all isHexDigit

/-- The number of groups that the pieces between colons write.  Only the last piece may be
an IPv4 address, and only where `tail` holds. -/
def countGroups? (tail : Bool) : List (List Char) → Option Nat
  | [] => some 0
  | [last] => if isGroup last then some 1 else if tail && isIpv4 last then some 2 else none
  | piece :: rest => if isGroup piece then (countGroups? tail rest).map (· + 1) else none

/-- The number of groups of a part of an IPv6 address, which may be empty. -/
def groups? (tail : Bool) (s : List Char) : Option Nat :=
  if s.isEmpty then some 0 else countGroups? tail (Text.pieces ':' s)

/-- What stands before and after the first two colons in a row. -/
def splitGap? : List Char → Option (List Char × List Char)
  | ':' :: ':' :: rest => some ([], rest)
  | c :: rest => (splitGap? rest).map fun (before, after) => (c :: before, after)
  | [] => none

def isIpv6 (s : List Char) : Bool :=
  match splitGap? s with
  | none => groups? true s == some 8
  | some (before, after) =>
      match groups? false before, groups? true after with
      | some first, some last => first + last ≤ 7
      | _, _ => false

def isIp (s : List Char) : Bool := isIpv4 s || isIpv6 s

end Listmaster.Host
