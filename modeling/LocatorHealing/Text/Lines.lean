set_option autoImplicit false
set_option relaxedAutoImplicit false

/-!
Lines of a text: the characters that end a line, cutting a text into its lines, and reading
every carriage return (with the line feed that may follow it) as a line feed.
-/

namespace LocatorHealing.Text

def endsLine (c : Char) : Bool :=
  let n := c.toNat
  (10 ≤ n && n ≤ 13) || (28 ≤ n && n ≤ 30) || n == 0x85 || n == 0x2028 || n == 0x2029

/-- The lines of a text whose current line, given backwards, has begun. A carriage return
together with a line feed ends one line only. -/
def linesFrom (current : List Char) : List Char → List (List Char)
  | [] => if current.isEmpty then [] else [current.reverse]
  | c :: s =>
    if c = '\r' then
      match s with
      | '\n' :: s' => current.reverse :: linesFrom [] s'
      | [] => [current.reverse]
      | d :: s' => current.reverse :: linesFrom [] (d :: s')
    else if endsLine c then current.reverse :: linesFrom [] s
    else linesFrom (c :: current) s

/-- The lines of a text, without their ends; a text that ends a line has no empty line after it. -/
def lines (s : List Char) : List (List Char) :=
  linesFrom [] s

def unifyLineEnds : List Char → List Char
  | [] => []
  | c :: s =>
    if c = '\r' then
      match s with
      | '\n' :: s' => '\n' :: unifyLineEnds s'
      | [] => ['\n']
      | d :: s' => '\n' :: unifyLineEnds (d :: s')
    else c :: unifyLineEnds s

end LocatorHealing.Text
