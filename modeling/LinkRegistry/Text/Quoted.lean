import LinkRegistry.Text.Digit
import LinkRegistry.Text.Printable

/-!
# Quoted text

**Input.** A text that a message has to show exactly.

**Rule.** The text stands between single quotes, or between double quotes if it holds a
single quote and no double one.  The quote in use and the backslash are escaped by a
backslash, tab, line feed and carriage return by their letters, and every other
character that is not printable by its code point in two, four or eight lower-case
hexadecimal digits.
-/

namespace LinkRegistry
namespace Text

/-- The quote that a text is put between. -/
def quoteFor (cs : List Char) : Char :=
  if cs.contains '\'' && !cs.contains '"' then '"' else '\''

/-- Written form of a character between quotes `q`. -/
def escapeChar (q c : Char) : List Char :=
  if c == q || c == '\\' then ['\\', c]
  else if c == '\t' then ['\\', 't']
  else if c == '\n' then ['\\', 'n']
  else if c == '\r' then ['\\', 'r']
  else if isPrintable c then [c]
  else if c.toNat < 0x100 then '\\' :: 'x' :: hexPadded 2 c.toNat
  else if c.toNat < 0x10000 then '\\' :: 'u' :: hexPadded 4 c.toNat
  else '\\' :: 'U' :: hexPadded 8 c.toNat

/-- Written form of a text between quotes. -/
def quoted (s : String) : String :=
  let q := quoteFor s.toList
  String.ofList (q :: s.toList.flatMap (escapeChar q) ++ [q])

end Text
end LinkRegistry
