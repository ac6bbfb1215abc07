/-!
# Lines and blanks

A text is read line by line: a line ends at a line feed, with a carriage return before it dropped, and
a text that ends with a line feed has no further empty line. The Unicode property `White_Space` says
what is blank at the end of a line.
-/

namespace SchemaBindings.Text

def isBlank (c : Char) : Bool :=
  let n := c.toNat
  (0x09 ≤ n && n ≤ 0x0d) || n == 0x20 || n == 0x85 || n == 0xa0 || n == 0x1680 ||
    (0x2000 ≤ n && n ≤ 0x200a) || n == 0x2028 || n == 0x2029 || n == 0x202f || n == 0x205f ||
    n == 0x3000

def trimEnd (cs : List Char) : List Char :=
  (cs.reverse.dropWhile isBlank).reverse

def splitLines : List Char → List (List Char)
  | [] => []
  | '\n' :: rest => [] :: splitLines rest
  | '\r' :: '\n' :: rest => [] :: splitLines rest
  | c :: rest =>
    match splitLines rest with
    | [] => [[c]]
    | line :: others => (c :: line) :: others

def lines (text : String) : List String :=
  (splitLines text.toList).map String.ofList

example : lines "a\r\n\nb\r" = ["a", "", "b\r"] := by decide +kernel
example : lines "a\n" = ["a"] := by decide +kernel
example : lines "" = [] := by decide +kernel

end SchemaBindings.Text
