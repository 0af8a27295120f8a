/-!
# Cutting texts

Places in a text are counted in the bytes of its UTF-8 form. A text can only be cut between two
characters.

* `size` is the number of bytes of a text.
* `cut?` cuts a text at an offset.
* `slice?` is the part of a text between two offsets.
* `split` cuts a text at every separator.
-/

namespace DatagramEcho.Text

/-- The number of bytes of a text. -/
def size (text : List Char) : Nat :=
  text.foldl (fun total c => total + c.utf8Size) 0

/-- The text from an offset on. There is none if the offset lies inside a character or beyond the
end. -/
def cut? : (offset : Nat) → (text : List Char) → Option (List Char)
  | 0, text => some text
  | _ + 1, [] => none
  | offset + 1, c :: text =>
    if c.utf8Size ≤ offset + 1 then cut? (offset + 1 - c.utf8Size) text else none

/-- The part of a text from an offset `start` up to an offset `stop` that is not before it. -/
def slice? (text : List Char) (start stop : Nat) : Option (List Char) := do
  let fromStart ← cut? start text
  let fromStop ← cut? stop text
  return fromStart.take (fromStart.length - fromStop.length)

/-- The pieces of a text between the separators in it. There is always one piece more than there are
separators. -/
def split (separator : Char) : List Char → List (List Char)
  | [] => [[]]
  | c :: text =>
    if c = separator then [] :: split separator text
    else
      match split separator text with
      | [] => [[c]]
      | piece :: pieces => (c :: piece) :: pieces

end DatagramEcho.Text
