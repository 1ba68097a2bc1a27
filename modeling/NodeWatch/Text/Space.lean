/-!
# White space

The white space of log lines and of the files below `/proc`: the characters with the property
`White_Space`. Trimming removes it at the ends of a text, and `fields` are the maximal runs of
other characters.
-/

namespace NodeWatch.Text

/-- The 25 characters with the property `White_Space`. -/
def isSpace (c : Char) : Bool :=
  let n := c.toNat
  (9 ≤ n && n ≤ 13) || n == 0x20 || n == 0x85 || n == 0xA0 || n == 0x1680 ||
    (0x2000 ≤ n && n ≤ 0x200A) || n == 0x2028 || n == 0x2029 || n == 0x202F || n == 0x205F ||
    n == 0x3000

def trimStart (s : List Char) : List Char :=
  s.dropWhile isSpace

def trimEnd (s : List Char) : List Char :=
  (s.reverse.dropWhile isSpace).reverse

def trim (s : List Char) : List Char :=
  trimEnd (trimStart s)

/-- The maximal non-empty runs of elements that satisfy `p`, in order. -/
def runs {α : Type} (p : α → Bool) (s : List α) : List (List α) :=
  (s.splitOnP fun a => !p a).filter fun run => !run.isEmpty

/-- The words of a text, as white space separates them. -/
def fields (s : List Char) : List (List Char) :=
  runs (fun c => !isSpace c) s

end NodeWatch.Text
