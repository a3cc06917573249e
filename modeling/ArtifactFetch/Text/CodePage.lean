/-! # Code page 437

The single-byte character set of the first personal computers, in which texts of an archive are
written that do not say otherwise. Its lower half is ASCII. -/

namespace ArtifactFetch.Text

/-- The characters of the upper half in order. -/
def codePageUpper : List Char :=
  ("ÇüéâäàåçêëèïîìÄÅÉæÆôöòûùÿÖÜ¢£¥₧ƒ" ++ "áíóúñÑªº¿⌐¬½¼¡«»░▒▓│┤╡╢╖╕╣║╗╝╜╛┐"
    ++ "└┴┬├─┼╞╟╚╔╩╦╠═╬╧╨╤╥╙╘╒╓╫╪┘┌█▄▌▐▀" ++ "αßΓπΣσµτΦΘΩδ∞φε∩≡±≥≤⌠⌡÷≈°∙·√ⁿ²■\u00a0").toList

/-- The character of a byte. -/
def codePageChar (b : UInt8) : Char :=
  if b < 0x80 then Char.ofNat b.toNat else codePageUpper.getD (b.toNat - 0x80) ' '

/-- The text that bytes stand for. -/
def ofCodePage (bytes : List UInt8) : String := String.ofList (bytes.map codePageChar)

end ArtifactFetch.Text
