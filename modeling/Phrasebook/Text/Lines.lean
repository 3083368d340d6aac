import Phrasebook.Text.Basic

/-!
Lines with their ends. A line ends at a line feed, at a carriage return with or without one, at the
vertical tab, the form feed, the information separators, and at U+0085, U+2028 and U+2029.
-/

namespace Phrasebook.Text

def endsLine (c : CodePoint) : Bool :=
  (0x0A ≤ c.val && c.val ≤ 0x0D) || (0x1C ≤ c.val && c.val ≤ 0x1E) || c.val == 0x85 ||
  c.val == 0x2028 || c.val == 0x2029

def lines : Text → List Text
  | [] => []
  | c :: rest =>
    let paired := c.val == 0x0D && rest.head?.any fun d => d.val == 0x0A
    if endsLine c && !paired then [c] :: lines rest
    else match lines rest with
      | [] => [[c]]
      | line :: more => (c :: line) :: more

end Phrasebook.Text
