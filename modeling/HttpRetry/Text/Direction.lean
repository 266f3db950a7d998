import HttpRetry.Text.Marks
set_option autoImplicit false

namespace HttpRetry.Text

inductive Direction where
  | rightward
  | leftward
  | europeanNumber
  | arabicNumber
  | mark
  | neutral
  deriving DecidableEq, Repr, Inhabited

def leftwardRanges : Array CodeRange := Ranges.read [
  "5d0-5ea 5ef-5f4 620-63f 641-64a 66e-66f 671-674 679-6d3 6d5 6e5-6e6 6ee-6ef 6fa-6ff 710",
  "712-72f 74d-7a5 7b1 7c0-7ea 7f4-7f5 800-815 81a 824 828 840-858 860-86a 870-887 889-88e",
  "8a0-8c9 fe73 10800-10805 10808 1080a-10835 10837-10838 1083c 1083f-10855 10860-10876",
  "10880-1089e 108e0-108f2 108f4-108f5 10900-10915 10920-10939 10980-109b7 109be-109bf 10a00",
  "10a10-10a13 10a15-10a17 10a19-10a35 10a60-10a7c 10a80-10a9c 10ac0-10ac7 10ac9-10ae4",
  "10b00-10b35 10b40-10b55 10b60-10b72 10b80-10b91 10c00-10c48 10cc0-10cf2 10d00-10d23",
  "10e80-10ea9 10eb0-10eb1 10f00-10f1c 10f27 10f30-10f45 10f70-10f81 10fb0-10fc4 10fe0-10ff6",
  "1e800-1e8c4 1e922-1e943 1e94b 1e950-1e959"]

def europeanNumberRanges : Array CodeRange := Ranges.read [
  "30-39 6f0-6f9"]

def arabicNumberRanges : Array CodeRange := Ranges.read [
  "660-669 10d30-10d39"]

def neutralRanges : Array CodeRange := Ranges.read [
  "2d b7 2b9-2ba 2c6-2cf 2ec 375 200c-200d 2e2f 30fb a67f a717-a71f a788"]

def direction (c : Char) : Direction :=
  let n := c.toNat
  if Ranges.contains leftwardRanges n then .leftward
  else if Ranges.contains europeanNumberRanges n then .europeanNumber
  else if Ranges.contains arabicNumberRanges n then .arabicNumber
  else if isNonspacing c then .mark
  else if Ranges.contains neutralRanges n then .neutral
  else .rightward

end HttpRetry.Text
