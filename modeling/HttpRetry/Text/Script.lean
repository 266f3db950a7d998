import HttpRetry.Text.Ranges
set_option autoImplicit false

namespace HttpRetry.Text

def greekRanges : Array CodeRange := Ranges.read [
  "371-377/2 37b-37d 390 3ac-3ce 3d7-3e1/2 3f3 3f8 3fb-3fc 1d26-1d2a 1f00-1f07 1f10-1f15",
  "1f20-1f27 1f30-1f37 1f40-1f45 1f50-1f57 1f60-1f67 1f70-1f7c/2 1fb0-1fb1 1fb6 1fc6 1fd0-1fd2",
  "1fd6-1fd7 1fe0-1fe2 1fe4-1fe7 1ff6 ab65"]

def isGreek (c : Char) : Bool := Ranges.contains greekRanges c.toNat

def hebrewRanges : Array CodeRange := Ranges.read [
  "591-5bd 5bf 5c1-5c2 5c4-5c5 5c7 5d0-5ea 5ef-5f4 fb1e"]

def isHebrew (c : Char) : Bool := Ranges.contains hebrewRanges c.toNat

def japaneseRanges : Array CodeRange := Ranges.read [
  "3005 3007 3041-3096 309d-309e 30a1-30fa 30fd-30fe 31f0-31ff 3400-4dbf 4e00-9fff fa0e-fa0f",
  "fa11 fa13-fa14 fa1f fa21 fa23-fa24 fa27-fa29 16fe3 16ff0-16ff1 1aff0-1aff3 1aff5-1affb",
  "1affd-1affe 1b000-1b122 1b150-1b152 1b164-1b167 20000-2a6df 2a700-2b738 2b740-2b81d",
  "2b820-2cea1 2ceb0-2ebe0 30000-3134a"]

def isJapanese (c : Char) : Bool := Ranges.contains japaneseRanges c.toNat

end HttpRetry.Text
