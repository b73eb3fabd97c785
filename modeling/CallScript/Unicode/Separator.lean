import CallScript.Unicode.Ranges

/-!
# General categories: separators

One table for each general category of this group, in code point order.
-/

namespace CallScript.Unicode

/-- Code points of general category Zs. -/
def spaceSeparator : Ranges := [
  (0x20, 0x20), (0xa0, 0xa0), (0x1680, 0x1680), (0x2000, 0x200a), (0x202f, 0x202f),
  (0x205f, 0x205f), (0x3000, 0x3000)]

/-- Code points of general category Zl. -/
def lineSeparator : Ranges := [
  (0x2028, 0x2028)]

/-- Code points of general category Zp. -/
def paragraphSeparator : Ranges := [
  (0x2029, 0x2029)]

end CallScript.Unicode
