
set_option autoImplicit false

namespace Switchboard.Text

def inRanges (ranges : Array (Nat × Nat)) (point : Nat) : Bool :=
  ranges.any fun (first, last) => first ≤ point && point ≤ last

end Switchboard.Text
