import InterceptAddons.Text.CharSet

/-!
# White space

The code points of the property `White_Space`.
-/

namespace InterceptAddons.Text

/-- The code points with the property `White_Space`. -/
def blank : CharSet := ⟨[
  (0x9, 0xD), (0x20, 0x20), (0x85, 0x85), (0xA0, 0xA0), (0x1680, 0x1680), (0x2000, 0x200A),
  (0x2028, 0x2029), (0x202F, 0x202F), (0x205F, 0x205F), (0x3000, 0x3000)]⟩

/-- A character that separates words in some script. -/
def isBlank (c : Char) : Bool := blank.contains c

end InterceptAddons.Text
