/-!
# Finding text in text

Texts as lists of characters: cutting at each occurrence of a separator,
replacing, and looking for one text in another.  Occurrences are taken from
the left and do not overlap.
-/

namespace Reckoner.Text

/-- The pieces between the occurrences of `sep`, after the first `skip`
characters; `piece` is what was gathered of the first one, latest character
first. -/
def cutFrom (sep : List Char) : (skip : Nat) → (piece : List Char) → List Char → List (List Char)
  | _, piece, [] => [piece.reverse]
  | skip + 1, piece, _ :: rest => cutFrom sep skip piece rest
  | 0, piece, c :: rest =>
    if sep.isPrefixOf (c :: rest) then piece.reverse :: cutFrom sep (sep.length - 1) [] rest
    else cutFrom sep 0 (c :: piece) rest

/-- The pieces between the occurrences of `sep`. -/
def cut (sep text : List Char) : List (List Char) := cutFrom sep 0 [] text

/-- Each occurrence of `old` replaced by `new`, after the first `skip` characters. -/
def replaceFrom (old new : List Char) : (skip : Nat) → List Char → List Char
  | _, [] => []
  | skip + 1, _ :: rest => replaceFrom old new skip rest
  | 0, c :: rest =>
    if old.isPrefixOf (c :: rest) then new ++ replaceFrom old new (old.length - 1) rest
    else c :: replaceFrom old new 0 rest

/-- Each occurrence of `old` replaced by `new`. -/
def replaceAll (old new text : List Char) : List Char := replaceFrom old new 0 text

/-- Whether `part` occurs in a text. -/
def occurs (part : List Char) : List Char → Bool
  | [] => part.isEmpty
  | c :: rest => part.isPrefixOf (c :: rest) || occurs part rest

end Reckoner.Text
