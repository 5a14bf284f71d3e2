import Plonkish.Text.Printable

/-!
# Quoted text in messages

A text in a message stands in single quotes, or in double quotes if it holds a
single quote and no double quote.  The quote in use, the backslash and every
code point that is not printable are escaped, so a quoted text has no line breaks,
shows where it ends and is a string.
-/

namespace Plonkish

/-- The lowest `width` hexadecimal digits of `value`, most significant first. -/
def hexDigits (width value : Nat) : List Char :=
  (List.range width).reverse.map fun digit => Nat.digitChar (value / Nat.pow 16 digit % 16)

/-- The escape of a code point that is not printable: the short form if there is
one, else its number in two, four or eight hexadecimal digits. -/
def escapeSequence (point : CodePoint) : List Char :=
  match point with
  | .character '\n' => ['\\', 'n']
  | .character '\r' => ['\\', 'r']
  | .character '\t' => ['\\', 't']
  | _ =>
    let code := point.code
    if code < 0x100 then '\\' :: 'x' :: hexDigits 2 code
    else if code < 0x10000 then '\\' :: 'u' :: hexDigits 4 code
    else '\\' :: 'U' :: hexDigits 8 code

def quotedPoint (quote : Char) (point : CodePoint) : List Char :=
  match point with
  | .character content =>
    if content == quote || content == '\\' then ['\\', content]
    else if isPrintable point then [content]
    else escapeSequence point
  | .half _ => escapeSequence point

/-- The quote for a text: double only if that spares an escape. -/
def quoteFor (content : Text) : Char :=
  let points := content.codePoints
  if points.contains (.character '\'') && !points.contains (.character '"') then '"' else '\''

def quoted (content : Text) : String :=
  let quote := quoteFor content
  String.ofList (quote :: content.codePoints.flatMap (quotedPoint quote) ++ [quote])

end Plonkish
