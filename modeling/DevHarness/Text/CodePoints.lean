import DevHarness.Text.JsString

/-!
# Code points

A sequence of UTF-16 code units read as code points: a high surrogate followed
by a low one is one code point, any other unit is one of its own.
-/

namespace JsText

abbrev CodePoint := ℕ

def isHighSurrogate (u : UInt16) : Bool := 0xD800 ≤ u && u ≤ 0xDBFF

def isLowSurrogate (u : UInt16) : Bool := 0xDC00 ≤ u && u ≤ 0xDFFF

def surrogatePair (u v : UInt16) : CodePoint :=
  0x10000 + (u.toNat - 0xD800) * 0x400 + (v.toNat - 0xDC00)

def codePoints : JsString → List CodePoint
  | [] => []
  | [u] => [u.toNat]
  | u :: v :: rest =>
    if isHighSurrogate u && isLowSurrogate v then surrogatePair u v :: codePoints rest
    else u.toNat :: codePoints (v :: rest)

end JsText
