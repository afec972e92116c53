/-!
# Lower case

The lower case of a text as far as it is written with letters of ASCII. Outside ASCII two characters
have such a lower case: the Kelvin sign, which is a k, and the capital I with a point, which is an i
and a combining point. Other characters are kept.
-/

namespace BootTlv.Text

/-- The lower case of a character. -/
def lowerChar (c : Char) : List Char :=
  if c = '\u212A' then ['k'] else if c = '\u0130' then ['i', '\u0307'] else [c.toLower]

/-- The lower case of a text. -/
def lower (text : String) : String := String.ofList (text.toList.flatMap lowerChar)

end BootTlv.Text
