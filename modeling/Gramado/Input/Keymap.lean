import Mathlib.Tactic.Common

/-! The virtual keys, and the tables of the ABNT2 layout. -/

namespace Gramado.Input.Keymap

def VK_F1 : UInt8 := 0x80
def VK_F2 : UInt8 := 0x81
def VK_F3 : UInt8 := 0x82
def VK_F4 : UInt8 := 0x83
def VK_F5 : UInt8 := 0x84
def VK_F6 : UInt8 := 0x85
def VK_F7 : UInt8 := 0x86
def VK_F8 : UInt8 := 0x87
def VK_F9 : UInt8 := 0x88
def VK_F10 : UInt8 := 0x89
def VK_F11 : UInt8 := 0x8A
def VK_F12 : UInt8 := 0x8B
def VK_F13 : UInt8 := 0x8C
def VK_F14 : UInt8 := 0x8D
def VK_F16 : UInt8 := 0x8F
def VK_F17 : UInt8 := 0x90
def VK_F18 : UInt8 := 0x91
def VK_F19 : UInt8 := 0x92
def VK_F20 : UInt8 := 0x93
def VK_F21 : UInt8 := 0x94
def VK_F22 : UInt8 := 0x95
def VK_F23 : UInt8 := 0x96
def VK_F24 : UInt8 := 0x97
def VK_ESCAPE : UInt8 := 0x98
def VK_ACUTE : UInt8 := 0xB0
def VK_TAB : UInt8 := 0xC0
def VK_CAPSLOCK : UInt8 := 0xC1
def VK_LSHIFT : UInt8 := 0xC2
def VK_LCONTROL : UInt8 := 0xC3
def VK_LWIN : UInt8 := 0xC4
def VK_LALT : UInt8 := 0xC5
def VK_BACKSPACE : UInt8 := 0xD0
def VK_RETURN : UInt8 := 0xD1
def VK_RSHIFT : UInt8 := 0xD2
def VK_RCONTROL : UInt8 := 0xD3
def VK_APPS : UInt8 := 0xD4
def VK_RWIN : UInt8 := 0xD5
def VK_ALTGR : UInt8 := 0xD6
def VK_INSERT : UInt8 := 0xE0
def VK_DELETE : UInt8 := 0xE1
def VK_HOME : UInt8 := 0xE2
def VK_END : UInt8 := 0xE3
def VK_PAGEUP : UInt8 := 0xE4
def VK_PAGEDOWN : UInt8 := 0xE5
def VK_ARROW_UP : UInt8 := 0xF0
def VK_ARROW_DOWN : UInt8 := 0xF1
def VK_ARROW_LEFT : UInt8 := 0xF2
def VK_ARROW_RIGHT : UInt8 := 0xF3
def VK_PRINTSCREEN : UInt8 := 0xF4
def VK_SCROLLLOCK : UInt8 := 0xF5
def VK_PAUSEBREAK : UInt8 := 0xF6
def VK_NUMLOCK : UInt8 := 0xF7

def mapAbnt2 : List UInt8 :=
  [0x00, 0x1B, 0x31, 0x32, 0x33, 0x34, 0x35, 0x36,
   0x37, 0x38, 0x39, 0x30, 0x2D, 0x3D, VK_BACKSPACE, VK_TAB,
   0x71, 0x77, 0x65, 0x72, 0x74, 0x79, 0x75, 0x69,
   0x6F, 0x70, VK_ACUTE, 0x5B, VK_RETURN, VK_LCONTROL, 0x61, 0x73,
   0x64, 0x66, 0x67, 0x68, 0x6A, 0x6B, 0x6C, 0x87,
   0x7E, 0x27, VK_LSHIFT, 0x5D, 0x7A, 0x78, 0x63, 0x76,
   0x62, 0x6E, 0x6D, 0x2C, 0x2E, 0x3B, VK_RSHIFT, 0x2A,
   VK_ALTGR, 0x20, VK_CAPSLOCK, VK_F1, VK_F2, VK_F3, VK_F4, VK_F5,
   VK_F6, VK_F7, VK_F8, VK_F9, VK_F10, VK_PAUSEBREAK, VK_SCROLLLOCK, VK_HOME,
   VK_ARROW_UP, VK_PAGEUP, 0x2D, VK_ARROW_LEFT, 0x35, VK_ARROW_RIGHT, 0x2B, VK_END,
   VK_ARROW_DOWN, VK_PAGEDOWN, VK_INSERT, VK_DELETE, VK_PRINTSCREEN, 0x2E, 0x5C, VK_F11,
   VK_F12, 0x2F, VK_F14, VK_LWIN, VK_RWIN, VK_APPS, VK_F18, VK_F19,
   0x60, VK_LCONTROL, 0x2F, VK_F23, VK_ALTGR, 0x62, 0x66, VK_ARROW_UP,
   0x70, VK_ARROW_LEFT, VK_ARROW_RIGHT, 0x73, VK_ARROW_DOWN, 0x6E, VK_INSERT, 0x72,
   VK_F1, VK_F2, VK_F3, 0x2F, VK_F5, VK_F6, VK_F7, VK_PAUSEBREAK,
   VK_F9, VK_F10, VK_F11, VK_F12, VK_F13, VK_F14, 0x2E, VK_F16,
   VK_F17, VK_F18, VK_F19, VK_F20, VK_F21, VK_F22, VK_F23, VK_F24]

def shiftAbnt2 : List UInt8 :=
  [0x00, 0x1B, 0x21, 0x40, 0x23, 0x24, 0x25, 0xA8,
   0x26, 0x2A, 0x28, 0x29, 0x5F, 0x2B, VK_BACKSPACE, VK_TAB,
   0x51, 0x57, 0x45, 0x52, 0x54, 0x59, 0x55, 0x49,
   0x4F, 0x50, 0x60, 0x7B, VK_RETURN, 0x10, 0x41, 0x53,
   0x44, 0x46, 0x47, 0x48, 0x4A, 0x4B, 0x4C, 0x80,
   0x5E, 0x22, 0x02, 0x7D, 0x5A, 0x58, 0x43, 0x56,
   0x42, 0x4E, 0x4D, 0x3C, 0x3E, 0x3A, 0x02, 0x10,
   0x04, 0x20, 0x21, 0x00, 0x00, 0x20, 0x00, 0x00,
   0x00, 0x00, 0x00, 0x00, 0x00, 0x09, 0x81, VK_HOME,
   VK_ARROW_UP, VK_PAGEUP, 0x2D, VK_ARROW_LEFT, 0x35, VK_ARROW_RIGHT, 0x2B, VK_END,
   VK_ARROW_DOWN, VK_PAGEDOWN, VK_INSERT, VK_DELETE, 0x00, 0x00, 0x7C, 0x00,
   0x00, 0x00, 0x00, 0x00, 0x00, 0x00, 0x00, 0x00,
   0x00, 0x00, 0x00, 0x00, 0x00, 0x00, 0x00, 0x00,
   0x00, 0x00, 0x00, 0x00, 0x00, 0x00, 0x00, 0x00,
   0x00, 0x00, 0x00, 0x3F, 0x00, 0x00, 0x00, 0x00,
   0x00, 0x00, 0x00, 0x00, 0x00, 0x00, 0x2E, 0x00]

def ctlAbnt2 : List UInt8 :=
  [0x00, 0x1B, 0x21, 0x00, 0x23, 0x24, 0x25, 0x1E,
   0x26, 0x2A, 0x28, 0x29, 0x1F, 0x2B, 0x1C, 0x7F,
   0x11, 0x17, 0x05, 0x12, 0x14, 0x19, 0x15, 0x09,
   0x0F, 0x10, 0x1B, 0x1B, 0x0D, 0x10, 0x01, 0x13,
   0x04, 0x06, 0x07, 0x08, 0x0A, 0x0B, 0x0C, 0x3B,
   0x1E, 0x60, 0x02, 0x1D, 0x1A, 0x18, 0x03, 0x16,
   0x02, 0x0E, 0x0D, 0x3C, 0x3E, 0x3F, 0x02, 0x2A,
   0x04, 0x20, 0x21, 0x00, 0x00, 0x20, 0x00, 0x00,
   0x21, 0x00, 0x00, 0x00, 0x00, 0x00, 0x00, 0x00,
   0x00, 0x00, 0x00, 0x00, 0x00, 0x00, 0x00, 0x00,
   0x00, 0x00, 0x00, 0x00, 0x00, 0x00, 0x1C, 0x00,
   0x00, 0x00, 0x1B, 0x37, 0x34, 0x31, 0x00, 0x09,
   0x38, 0x35, 0x32, 0x00, 0x81, 0x39, 0x36, 0x33,
   0x2E, 0x00, 0x2A, 0x2D, 0x2B, 0x00, 0x00, 0x00,
   0x00, 0x00, 0x00, 0x00, 0x00, 0x00, 0x00, 0x00,
   0x00, 0x00, 0x00, 0x00, 0x00, 0x00, 0x00, 0x00]

def extendedAbnt2 : List UInt8 :=
  [0x00, 0x00, 0x00, 0x00, 0x00, 0x00, 0x00, 0x00,
   0x00, 0x00, 0x00, 0x00, 0x00, 0x00, 0x00, 0x00,
   0x00, 0x00, 0x00, 0x00, 0x00, 0x00, 0x00, 0x00,
   0x00, 0x00, VK_RETURN, 0x00, VK_RETURN, VK_RCONTROL, 0x00, 0x00,
   0x00, 0x00, 0x00, 0x00, 0x00, 0x00, 0x00, 0x00,
   0x00, 0x00, 0x00, 0x00, 0x00, 0x00, 0x00, 0x00,
   0x00, 0x00, 0x00, 0x00, 0x00, 0x00, 0x00, 0x00,
   VK_ALTGR, 0x00, 0x00, 0x00, 0x00, 0x00, 0x00, 0x00,
   0x00, 0x00, 0x00, 0x00, 0x00, 0x00, 0x00, VK_HOME,
   VK_ARROW_UP, VK_PAGEUP, 0x00, VK_ARROW_LEFT, 0x00, VK_ARROW_RIGHT, 0x00, VK_END,
   VK_ARROW_DOWN, VK_PAGEDOWN, VK_INSERT, VK_DELETE, 0x00, 0x00, 0x00, 0x00,
   0x00, 0x00, 0x00, VK_LWIN, VK_RWIN, VK_APPS, 0x00, 0x00,
   0x00, 0x00, 0x00, 0x00, 0x00, 0x00, 0x00, 0x00,
   0x00, 0x00, 0x00, 0x00, 0x00, 0x00, 0x00, 0x00,
   0x00, 0x00, 0x00, 0x00, 0x00, 0x00, 0x00, 0x00,
   0x00, 0x00, 0x00, 0x00, 0x00, 0x00, 0x00, 0x00]

/-- An entry of a table that `ibroker_set_keymap` has set. -/
def keymapEntry (map : List UInt8) (scancode : UInt8) : UInt8 :=
  map.getD scancode.toNat 0

def keymapNormal (scancode : UInt8) : UInt8 := keymapEntry mapAbnt2 scancode

def keymapShift (scancode : UInt8) : UInt8 := keymapEntry shiftAbnt2 scancode

def keymapCtrl (scancode : UInt8) : UInt8 := keymapEntry ctlAbnt2 scancode

def keymapExtended (scancode : UInt8) : UInt8 := keymapEntry extendedAbnt2 scancode

end Gramado.Input.Keymap
