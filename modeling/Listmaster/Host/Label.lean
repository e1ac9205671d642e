/-!
Labels: the parts of a host name between its dots.
-/

namespace Listmaster.Host

/-- Whether the text writes a floating point number: digits with an optional exponent, or
the name of a special number, each with an optional sign.  A label has no decimal point. -/
def isNumeral (label : List Char) : Bool :=
  let unsigned := match label with
    | '+' :: rest => rest
    | '-' :: rest => rest
    | other => other
  isSpecial (unsigned.map Char.toLower) || isScientific unsigned
where
  isSpecial (s : List Char) : Bool :=
    s == "inf".toList || s == "infinity".toList || s == "nan".toList
  isDigits (s : List Char) : Bool := !s.isEmpty && s.all Char.isDigit
  isExponent : List Char → Bool
    | '+' :: rest => isDigits rest
    | '-' :: rest => isDigits rest
    | rest => isDigits rest
  isScientific (s : List Char) : Bool :=
    !(s.takeWhile Char.isDigit).isEmpty &&
      match s.dropWhile Char.isDigit with
      | [] => true
      | mark :: power => (mark = 'e' || mark = 'E') && isExponent power

def isAscii (c : Char) : Bool := c.toNat < 0x80

/-- What is wrong with a label. -/
inductive LabelFlaw where
  | empty
  | tooLong
  | numericTopLevel
  | start
  | ending
  | illegalCharacter
  deriving DecidableEq

/-- The first flaw of a label, if it has any.  A name ends with its top level label. -/
def labelFlaw? (isTopLevel : Bool) (label : List Char) : Option LabelFlaw :=
  match label.head?, label.getLast? with
  | some first, some last =>
      if 63 < label.length then some .tooLong
      else if isTopLevel && isNumeral label then some .numericTopLevel
      else if isAscii first && !first.isAlphanum then some .start
      else if isAscii last && !last.isAlphanum then some .ending
      else if label.any fun c => isAscii c && c != '-' && !c.isAlphanum then some .illegalCharacter
      else none
  | _, _ => some .empty

/-- The first flaw of the labels of a name, the last one being its top level. -/
def labelsFlaw? : List (List Char) → Option LabelFlaw
  | [] => none
  | [topLevel] => labelFlaw? true topLevel
  | label :: rest => (labelFlaw? false label).or (labelsFlaw? rest)

end Listmaster.Host
