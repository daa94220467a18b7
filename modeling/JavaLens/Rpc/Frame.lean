import JavaLens.Decimal

/-!
# Frames

On a stream of bytes a message is a block of header lines, a blank line, and a text whose size in
bytes the header tells.

## Main definitions

* `Rpc.frame` — a text with its header.
* `Rpc.contentLength?` — the size that a header line tells.
-/

namespace JavaLens.Rpc

/-- A text with its header. -/
def frame (text : String) : String :=
  "Content-Length: " ++ toString text.utf8ByteSize ++ "\r\n\r\n" ++ text

/-- A header line without the blanks at its ends. -/
def trimLine (line : List Char) : List Char :=
  ((line.dropWhile Char.isWhitespace).reverse.dropWhile Char.isWhitespace).reverse

/-- The size that a header line tells. The case of its name does not matter. -/
def contentLength? (line : String) : Option Nat :=
  match line.toList.span (· ≠ ':') with
  | (name, _ :: value) =>
    let ds := trimLine value
    if name.map Char.toLower = "content-length".toList && !ds.isEmpty && ds.all Char.isDigit
    then some (Decimal.ofDigits ds)
    else none
  | _ => none

/-- Whether a header line is blank and so ends the header. -/
def endsHeader (line : String) : Bool := (trimLine line.toList).isEmpty

end JavaLens.Rpc
