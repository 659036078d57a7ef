/-! # Names of keys

The keys that make sense on a mouse button or in a short sequence, with their codes.
-/

namespace MouseConfig.Key

/-- Known names with their codes. -/
def table : List (String × Nat) := [
  ("KEY_ESC", 1),
  ("KEY_1", 2),
  ("KEY_2", 3),
  ("KEY_3", 4),
  ("KEY_4", 5),
  ("KEY_5", 6),
  ("KEY_6", 7),
  ("KEY_7", 8),
  ("KEY_8", 9),
  ("KEY_9", 10),
  ("KEY_0", 11),
  ("KEY_MINUS", 12),
  ("KEY_EQUAL", 13),
  ("KEY_BACKSPACE", 14),
  ("KEY_TAB", 15),
  ("KEY_Q", 16),
  ("KEY_W", 17),
  ("KEY_E", 18),
  ("KEY_R", 19),
  ("KEY_T", 20),
  ("KEY_Y", 21),
  ("KEY_U", 22),
  ("KEY_I", 23),
  ("KEY_O", 24),
  ("KEY_P", 25),
  ("KEY_ENTER", 28),
  ("KEY_LEFTCTRL", 29),
  ("KEY_A", 30),
  ("KEY_S", 31),
  ("KEY_D", 32),
  ("KEY_F", 33),
  ("KEY_G", 34),
  ("KEY_H", 35),
  ("KEY_J", 36),
  ("KEY_K", 37),
  ("KEY_L", 38),
  ("KEY_LEFTSHIFT", 42),
  ("KEY_Z", 44),
  ("KEY_X", 45),
  ("KEY_C", 46),
  ("KEY_V", 47),
  ("KEY_B", 48),
  ("KEY_N", 49),
  ("KEY_M", 50),
  ("KEY_RIGHTSHIFT", 54),
  ("KEY_LEFTALT", 56),
  ("KEY_SPACE", 57),
  ("KEY_F1", 59),
  ("KEY_F2", 60),
  ("KEY_F3", 61),
  ("KEY_F4", 62),
  ("KEY_F5", 63),
  ("KEY_F6", 64),
  ("KEY_F7", 65),
  ("KEY_F8", 66),
  ("KEY_F9", 67),
  ("KEY_F10", 68),
  ("KEY_F11", 87),
  ("KEY_F12", 88),
  ("KEY_RIGHTCTRL", 97),
  ("KEY_RIGHTALT", 100),
  ("KEY_HOME", 102),
  ("KEY_UP", 103),
  ("KEY_PAGEUP", 104),
  ("KEY_LEFT", 105),
  ("KEY_RIGHT", 106),
  ("KEY_END", 107),
  ("KEY_DOWN", 108),
  ("KEY_PAGEDOWN", 109),
  ("KEY_INSERT", 110),
  ("KEY_DELETE", 111),
  ("KEY_MUTE", 113),
  ("KEY_VOLUMEDOWN", 114),
  ("KEY_VOLUMEUP", 115),
  ("KEY_LEFTMETA", 125),
  ("KEY_RIGHTMETA", 126),
  ("KEY_COPY", 133),
  ("KEY_PASTE", 135),
  ("KEY_CUT", 137),
  ("KEY_CALC", 140),
  ("KEY_BACK", 158),
  ("KEY_FORWARD", 159),
  ("KEY_NEXTSONG", 163),
  ("KEY_PLAYPAUSE", 164),
  ("KEY_PREVIOUSSONG", 165),
  ("KEY_STOPCD", 166),
  ("KEY_REFRESH", 173)]

/-- The code of a key name, if there is such a key. -/
def code? (name : String) : Option Nat := table.lookup name

def isKnown (name : String) : Bool := (code? name).isSome

end MouseConfig.Key
