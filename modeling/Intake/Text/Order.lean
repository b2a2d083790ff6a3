import Intake.Text.Surrogate

namespace Intake.Text

/-- Where a character stands in the order of texts. -/
def rank (c : Char) : Nat := (surrogate? c).getD c.toNat

/-- Whether a text stands before another or is the same: character by character, a beginning first. -/
def notAfter : List Char → List Char → Bool
  | [], _ => true
  | _ :: _, [] => false
  | a :: s, b :: t => if rank a = rank b then notAfter s t else rank a < rank b

def sorted (xs : List String) : List String :=
  xs.mergeSort fun s t => notAfter s.toList t.toList

/-- Each text once, in order. -/
def sortedDistinct (xs : List String) : List String := sorted xs.eraseDups

end Intake.Text
