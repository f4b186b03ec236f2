/-!
# PublicationIndicator.Text.Blank — blank characters

Unicode's property `White_Space`: the characters that are cut from the ends of a setting, and of which
alone no name consists.
-/

namespace PublicationIndicator.Text

/-- The characters with the property `White_Space`. -/
def blanks : List Char :=
  ['\t', '\n', '\x0b', '\x0c', '\r', ' ', '\u0085', '\u00a0', '\u1680', '\u2000', '\u2001', '\u2002',
    '\u2003', '\u2004', '\u2005', '\u2006', '\u2007', '\u2008', '\u2009', '\u200a', '\u2028',
    '\u2029', '\u202f', '\u205f', '\u3000']

/-- Is the character blank? -/
def isBlankChar (c : Char) : Bool := blanks.contains c

/-- Is there nothing but blanks? -/
def isBlank (s : String) : Bool := s.toList.all isBlankChar

/-- What follows the blanks at the front. -/
def trimStart (cs : List Char) : List Char := cs.dropWhile isBlankChar

/-- The text without the blanks at both ends. -/
def trim (s : String) : String :=
  String.ofList (trimStart (trimStart s.toList).reverse).reverse

end PublicationIndicator.Text
