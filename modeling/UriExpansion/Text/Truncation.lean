import UriExpansion.Text.Checked
import UriExpansion.Text.Grapheme

/-!
Cutting a text behind so many clusters with a cursor that counts bytes: the cut is made where
the cluster that is one too many begins.
-/

namespace UriExpansion.Text.Grapheme

open Checked

variable {ε : Type}

/-- Clusters that stand behind `position` bytes, each with the bytes in front of it. -/
def placed (position : Nat) : List (List Char) → List (Nat × List Char)
  | [] => []
  | cluster :: rest => (position, cluster) :: placed (position + Utf8.size cluster) rest

/-- Keep the text in front of the first cluster that does not count any more, and the whole
text if there is none. -/
def checkedTakeClusters (count : Nat) (text : List Char) : Checked ε (List Char) :=
  match (placed 0 (clusters text))[count]? with
  | some (stop, _) => slice text 0 stop
  | none => return text

end UriExpansion.Text.Grapheme
