import Intake.Text.Case

namespace Intake.Pattern

/-- Lower-case letters that share an upper case with other lower-case letters, and those others. -/
def sameUpper : List (Nat × List Nat) := [
  (105, [305]), (115, [383]), (181, [956]), (305, [105]), (383, [115]), (837, [953, 8126]),
  (912, [8147]), (944, [8163]), (946, [976]), (949, [1013]), (952, [977]), (953, [837, 8126]),
  (954, [1008]), (956, [181]), (960, [982]), (961, [1009]), (962, [963]), (963, [962]),
  (966, [981]), (976, [946]), (977, [952]), (981, [966]), (982, [960]), (1008, [954]),
  (1009, [961]), (1013, [949]), (1074, [7296]), (1076, [7297]), (1086, [7298]), (1089, [7299]),
  (1090, [7300, 7301]), (1098, [7302]), (1123, [7303]), (7296, [1074]), (7297, [1076]),
  (7298, [1086]), (7299, [1089]), (7300, [1090, 7301]), (7301, [1090, 7300]), (7302, [1098]),
  (7303, [1123]), (7304, [42571]), (7777, [7835]), (7835, [7777]), (8126, [837, 953]),
  (8147, [912]), (8163, [944]), (42571, [7304]), (64261, [64262]), (64262, [64261])]

/-- The one character that a letter of either case folds to. -/
def foldChar (ascii : Bool) (c : Char) : Char :=
  if ascii then c.toLower else (Text.lowerChar c).headD c

/-- Whether a character matches another one when case is ignored. -/
def foldsTo (ascii : Bool) (pattern c : Char) : Bool :=
  let p := foldChar ascii pattern
  let l := foldChar ascii c
  p = l || !ascii && ((sameUpper.lookup p.toNat).getD []).contains l.toNat

/-- The characters whose fold is the given one. -/
def unfold (ascii : Bool) (l : Nat) : List Nat :=
  let asciiUpper := if 97 ≤ l && l ≤ 122 then [l - 32] else []
  if ascii then l :: asciiUpper
  else
    let special := if l = 105 then [304] else []
    let uppers := Text.lowerRuns.filterMap fun r =>
      let c := ((l : Int) - r.shift).toNat
      if r.holds c then some c else none
    l :: (asciiUpper ++ special ++ uppers)

/-- Whether a character matches one of a range when case is ignored. -/
def foldsIntoRange (ascii : Bool) (low high : Nat) (c : Char) : Bool :=
  let l := (foldChar ascii c).toNat
  let folds := if ascii then [l] else l :: (sameUpper.lookup l).getD []
  (folds.flatMap (unfold ascii)).any fun n => low ≤ n && n ≤ high

end Intake.Pattern
