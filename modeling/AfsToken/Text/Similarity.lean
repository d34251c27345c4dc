/-!
# Similar words

A character of a word matches an equal character of another word if their places differ by less than
half of the longer word, and it takes the first such character that is still free.  Three shares are
averaged: that of the first word which is matched, that of the second word, and that of the matches
which do not step back.  Every character at the front that both words have in common then adds a
tenth of what is missing to one.
-/

namespace AfsToken.Text.Similarity

/-- The places in a word at which the characters of another word are matched, one after the other.
The number is the place of the next character, and the taken places are no longer free. -/
def matchedPlaces (reach : Nat) (word : List Char) :
    List Nat → Nat → List Char → List Nat
  | _, _, [] => []
  | taken, place, character :: rest =>
      let free := (List.range word.length).find? fun other ↦
        place ≤ other + reach && other ≤ place + reach && word[other]? == some character &&
          !taken.contains other
      match free with
      | none => matchedPlaces reach word taken (place + 1) rest
      | some other => other :: matchedPlaces reach word (other :: taken) (place + 1) rest

/-- How often a place comes before the one in front of it. -/
def backSteps : List Nat → Nat
  | first :: second :: rest =>
      (if second < first then 1 else 0) + backSteps (second :: rest)
  | _ => 0

/-- How many characters two words have in common at their fronts. -/
def commonFront : List Char → List Char → Nat
  | first :: rest, second :: others => if first = second then commonFront rest others + 1 else 0
  | _, _ => 0

/-- Whether the similarity of two words exceeds four fifths.  All shares are brought to the
denominator `whole`. -/
def isClose (left right : String) : Bool :=
  let first := left.toList
  let second := right.toList
  let reach := max first.length second.length / 2 - 1
  let places := matchedPlaces reach second [] 0 first
  let matched := places.length
  let whole := 3 * first.length * second.length * matched
  let part := matched * matched * (first.length + second.length) +
    (matched - backSteps places) * first.length * second.length
  8 * whole < 10 * part + commonFront first second * (whole - part)

end AfsToken.Text.Similarity
