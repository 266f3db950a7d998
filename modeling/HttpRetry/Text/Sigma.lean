import HttpRetry.Text.Case
import HttpRetry.Text.Joining
/-!
Lower case where the place of a letter counts: a sigma at the end of a word has a form of its own. The
tables hold the characters of host names.
-/
set_option autoImplicit false

namespace HttpRetry.Text

def casedRanges : Array CodeRange := Ranges.read [
  "41-5a 61-7a c0-d6 d8-f6 f8-131 134-13e 141-148 14a-17e 180-1ba 1bc-1bf 1cd-1f0 1f4-293",
  "295-2af 370-373 376-377 37b-37d 37f 386 388-38a 38c 38e-3a1 3a3-3cf 3d7-3ef 3f3-3f4 3f7-3f8",
  "3fa-481 48a-52f 531-556 560-586 588 10a0-10c5 10c7 10cd 10d0-10fa 10fd-10ff 1c90-1cba",
  "1cbd-1cbf 1d00-1d2b 1d6b-1d77 1d79-1d9a 1e00-1e99 1e9c-1f15 1f18-1f1d 1f20-1f45 1f48-1f4d",
  "1f50-1f57 1f59-1f5d/2 1f5f-1f70 1f72-1f7c/2 1fb0-1fb1 1fb6 1fb8-1fba 1fc6-1fca/2 1fd0-1fd2",
  "1fd6-1fda 1fe0-1fe2 1fe4-1fea 1fec 1ff6-1ffa/2 2126 212a-212b 2132 214e 2183-2184 2c00-2c7b",
  "2c7e-2ce4 2ceb-2cee 2cf2-2cf3 2d00-2d25 2d27 2d2d a640-a66d a680-a69b a722-a76f a771-a787",
  "a78b-a78e a790-a7ca a7d0-a7d1 a7d3 a7d5-a7d9 a7f5-a7f6 a7fa ab30-ab5a ab60-ab68 10400-1044f",
  "104b0-104d3 104d8-104fb 10570-1057a 1057c-1058a 1058c-10592 10594-10595 10597-105a1",
  "105a3-105b1 105b3-105b9 105bb-105bc 10c80-10cb2 10cc0-10cf2 118a0-118df 16e40-16e7f",
  "1df00-1df09 1df0b-1df1e 1e900-1e943"]

def isCased (c : Char) : Bool := Ranges.contains casedRanges c.toNat

def caselessRanges : Array CodeRange := Ranges.read [
  "2e b7 2b9-2c1 2c6-2d1 2ec 2ee 375 559 5f4 6e5-6e6 7f4-7f5 81a 824 828 8c9 971 e46 ec6 17d7",
  "1843 1aa7 1c78-1c7d 1d2f 1d3b 1d4e 200c-200d 2e2f 3005 309d-309e 30fc-30fe a015 a4f8-a4fd",
  "a60c a67f a717-a71f a788 a9cf a9e6 aa70 aadd aaf3-aaf4 ff0e 10780 16b40-16b43 16f93-16f9f",
  "16fe0-16fe1 16fe3 1aff0-1aff3 1aff5-1affb 1affd-1affe 1e137-1e13d"]

def isPassedOver (c : Char) : Bool := isTransparent c || Ranges.contains caselessRanges c.toNat

def meetsLetter (s : List Char) : Bool := ((s.dropWhile isPassedOver).head?.map isCased).getD false

/-- Lower case; `before` is what was passed, from its end on. -/
def lowerAfter : (before : List Char) → List Char → List Char
  | _, [] => []
  | before, c :: rest =>
    let last := c.toNat = 0x3A3 && meetsLetter before && !meetsLetter rest
    (if last then [Char.ofNat 0x3C2] else lowerOf c) ++ lowerAfter (c :: before) rest

def lowerName (s : List Char) : List Char := lowerAfter [] s

end HttpRetry.Text
