/-!
# Words

The ranges of machine words. A word of `n` bits holds the numbers below `2 ^ n`; a signed one those
from `-2 ^ (n - 1)` up to but not including `2 ^ (n - 1)`.
-/

namespace NodeWatch.Word

/-- `2 ^ 64` -/
def limit64 : Nat := 0x10000000000000000

/-- `2 ^ 63` -/
def limit63 : Nat := 0x8000000000000000

/-- `2 ^ 32` -/
def limit32 : Nat := 0x100000000

/-- `2 ^ 31` -/
def limit31 : Nat := 0x80000000

end NodeWatch.Word
