/-!
# Blank characters

The white space of Unicode's `White_Space` property, which decides where a device line begins and
ends and where one word of a command stops. The table is a handful of ranges, so membership is a
chain of comparisons rather than a search.
-/

namespace VendorCli.Text

/-- White space in the sense of Unicode: the five controls from tab to carriage return, the space,
the next-line control, and the spaces and separators outside ASCII. Zero-width characters such as
U+200B and U+FEFF are not in it. -/
def isBlank (c : Char) : Bool :=
  let n := c.toNat
  (9 ≤ n && n ≤ 13) || n == 0x20 || n == 0x85 || n == 0xA0 || n == 0x1680
    || (0x2000 ≤ n && n ≤ 0x200A) || n == 0x2028 || n == 0x2029 || n == 0x202F
    || n == 0x205F || n == 0x3000

@[simp] theorem isBlank_space : isBlank ' ' = true := rfl

@[simp] theorem isBlank_newline : isBlank '\n' = true := rfl

@[simp] theorem isBlank_return : isBlank '\r' = true := rfl

end VendorCli.Text
