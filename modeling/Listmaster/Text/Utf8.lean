/-!
Texts in UTF-8 that may be damaged: what is no text becomes the replacement
character.
-/

namespace Listmaster.Text

/-- How many octets follow the first one of a character, and the values that the second one may
have.  An octet below `0x80` is a character. -/
def continuation? (first : Nat) : Option (Nat × Nat × Nat) :=
  if first < 0xC2 then none
  else if first < 0xE0 then some (1, 0x80, 0xBF)
  else if first = 0xE0 then some (2, 0xA0, 0xBF)
  else if first = 0xED then some (2, 0x80, 0x9F)
  else if first < 0xF0 then some (2, 0x80, 0xBF)
  else if first = 0xF0 then some (3, 0x90, 0xBF)
  else if first < 0xF4 then some (3, 0x80, 0xBF)
  else if first = 0xF4 then some (3, 0x80, 0x8F)
  else none

/-- The character of octets that belong together, or the replacement character if some are
missing. -/
def characterOf (octets : List Nat) (missing : Nat) : Char :=
  if missing ≠ 0 then Char.ofNat 0xFFFD
  else
    match octets with
    | [] => Char.ofNat 0xFFFD
    | first :: later =>
        let bits := if later.length = 1 then 0x20 else if later.length = 2 then 0x10 else 0x08
        Char.ofNat (later.foldl (fun code octet => 0x40 * code + octet % 0x40) (first % bits))

/-- The characters of octets, after those of a character that is not complete: the octets it
has, how many it misses, and what the next one may be. -/
def decodeAfter (begun : List Nat) (missing low high : Nat) : List Nat → List Char
  | [] => if begun.isEmpty then [] else [characterOf begun missing]
  | octet :: rest =>
      if !begun.isEmpty && low ≤ octet && octet ≤ high then
        if missing = 1 then characterOf (begun ++ [octet]) 0 :: decodeAfter [] 0 0 0 rest
        else decodeAfter (begun ++ [octet]) (missing - 1) 0x80 0xBF rest
      else
        let broken := if begun.isEmpty then [] else [characterOf begun missing]
        broken ++
          if octet < 0x80 then Char.ofNat octet :: decodeAfter [] 0 0 0 rest
          else
            match continuation? octet with
            | some (count, low, high) => decodeAfter [octet] count low high rest
            | none => Char.ofNat 0xFFFD :: decodeAfter [] 0 0 0 rest

/-- The text that octets are; what is no text becomes the replacement character. -/
def decodeUtf8 (octets : List Nat) : String := String.ofList (decodeAfter [] 0 0 0 octets)

end Listmaster.Text
