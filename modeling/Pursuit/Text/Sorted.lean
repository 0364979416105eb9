/-! # Texts in order

Texts are ordered by the code points of their characters, from the first character on.
-/

namespace Pursuit.Text

def sorted (texts : List String) : List String :=
  texts.mergeSort fun a b => !decide (b < a)

end Pursuit.Text
