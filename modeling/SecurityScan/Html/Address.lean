import SecurityScan.Text.Surrogate
import SecurityScan.Text.Utf8

/-!
# Addresses

Text as it stands in an address: letters, digits and a few signs stand for themselves, and every
other byte is written as two hexadecimal digits after a percent sign.
-/

namespace SecurityScan.Html.Address

def byteText (safe : List Char) (b : UInt8) : List Char :=
  let c := Char.ofNat b.toNat
  if b < 128 && (c.isAlphanum || ['_', '.', '-', '~'].contains c || safe.contains c) then [c]
  else '%' :: (Text.hexDigits 2 b.toNat).map Char.toUpper

/-- The address form of bytes, in which the characters of `safe` stay. -/
def ofBytes (safe : List Char) (bytes : Text.Utf8.Bytes) : String :=
  String.ofList (bytes.flatMap (byteText safe))

/-- The form that bytes have in a query, where a plus sign stands for a space. -/
def queryOfBytes (bytes : Text.Utf8.Bytes) : String :=
  String.ofList ((ofBytes [' '] bytes).toList.map fun c => if c == ' ' then '+' else c)

end SecurityScan.Html.Address
