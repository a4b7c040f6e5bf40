/-!
# Laying out text

Padding, cutting and splitting of texts. Lengths count characters.
-/

namespace CaptureForest.Text

/-- Blanks that a text of the given length lacks to a width. -/
def padding (width length : Nat) : String := String.ofList (List.replicate (width - length) ' ')

/-- The text with blanks added on its right up to a width. -/
def padRight (width : Nat) (s : String) : String := s ++ padding width s.length

def repeated (n : Nat) (c : Char) : String := String.ofList (List.replicate n c)

/-- The parts of a list between separators; there is one more part than separators. -/
def splitAt {α : Type} (isSeparator : α → Bool) : List α → List (List α)
  | [] => [[]]
  | a :: rest =>
    match splitAt isSeparator rest with
    | part :: parts => if isSeparator a then [] :: part :: parts else (a :: part) :: parts
    | [] => [[]]

/-- The parts of a text between occurrences of a character. -/
def splitOnChar (separator : Char) (s : String) : List String :=
  (splitAt (· == separator) s.toList).map String.ofList

/-- The text before the first occurrence of a character, and the text after it. -/
def cutAt (separator : Char) (s : String) : String × String :=
  let before := s.toList.takeWhile (· != separator)
  (String.ofList before, String.ofList (s.toList.drop (before.length + 1)))

/-- Whether a text begins with another. -/
def startsWith (s start : String) : Bool := start.toList.isPrefixOf s.toList

/-- The text whose letters have bytes as their numbers. -/
def ofOctets (octets : List UInt8) : String := String.ofList (octets.map fun b => Char.ofNat b.toNat)

def replaceChar (old : Char) (new : List Char) (s : String) : String :=
  String.ofList (s.toList.flatMap fun c => if c = old then new else [c])

/-- Removes leading and trailing characters of a class. -/
def trimBoth (drop : Char → Bool) (s : List Char) : List Char :=
  ((s.dropWhile drop).reverse.dropWhile drop).reverse

end CaptureForest.Text
