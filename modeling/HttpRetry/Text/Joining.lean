import HttpRetry.Text.Marks
set_option autoImplicit false

namespace HttpRetry.Text

inductive Joining where
  | both
  | onlyBefore
  | onlyAfter
  | transparent
  | never
  deriving DecidableEq, Repr, Inhabited

def joinsBothRanges : Array CodeRange := Ranges.read [
  "620 626 628 62a-62e 633-63f 641-647 649-64a 66e-66f 678-687 69a-6bf 6c1-6c2 6cc 6ce 6d0-6d1",
  "6fa-6fc 6ff 712-714 71a-71d 71f-727 729 72b 72d-72e 74e-758 75c-76a 76d-770 772 775-777",
  "77a-77f 7ca-7ea 841-845 848 84a-853 855 860 862-865 868 886 889-88d 8a0-8a9 8af-8b0 8b3-8b8",
  "8ba-8c8 1807 1820-1878 1887-18a8 18aa a840-a871 10ac0-10ac4 10ad3-10ad6 10ad8-10adc",
  "10ade-10ae0 10aeb-10aee 10b80 10b82 10b86-10b88 10b8a-10b8b 10b8d 10b90 10bad-10bae",
  "10d01-10d21 10d23 10f30-10f32 10f34-10f44 10f51-10f53 10f70-10f73 10f76-10f81 10fb0",
  "10fb2-10fb3 10fb8 10fbb-10fbc 10fbe-10fbf 10fc1 10fc4 10fca 1e900-1e943"]

def joinsBeforeRanges : Array CodeRange := Ranges.read [
  "622-625 627 629 62f-632 648 671-673 675-677 688-699 6c0 6c3-6cb 6cd 6cf 6d2-6d3 6d5 6ee-6ef",
  "710 715-719 71e 728-72c/2 72f 74d 759-75b 76b-76c 771 773-774 778-779 840 846-847 849 854",
  "856-858 867 869-86a 870-882 88e 8aa-8ac 8ae 8b1-8b2 8b9 10ac5 10ac7 10ac9-10aca 10ace-10ad2",
  "10add 10ae1 10ae4 10aef 10b81 10b83-10b85 10b89 10b8c 10b8e-10b8f 10b91 10ba9-10bac 10d22",
  "10f33 10f54 10f74-10f75 10fb4-10fb6 10fb9-10fba 10fbd 10fc2-10fc3 10fc9"]

def joinsAfterRanges : Array CodeRange := Ranges.read [
  "a872 10acd 10ad7 10d00 10fcb"]

/-- The characters that letters join across; nonspacing marks are of this kind too. -/
def transparentRanges : Array CodeRange := Ranges.read [
  "ad 61c 70f cbf cc6 200b 200e-200f 202a-202e 2060-2064 206a-206f feff fff9-fffb 11a07-11a08",
  "11c3f 13430-13438 1bca0-1bca3 1d173-1d17a 1e94b e0001 e0020-e007f"]

def isTransparent (c : Char) : Bool := isNonspacing c || Ranges.contains transparentRanges c.toNat

def joining (c : Char) : Joining :=
  let n := c.toNat
  if isTransparent c then .transparent
  else if Ranges.contains joinsBothRanges n then .both
  else if Ranges.contains joinsBeforeRanges n then .onlyBefore
  else if Ranges.contains joinsAfterRanges n then .onlyAfter
  else .never

end HttpRetry.Text
