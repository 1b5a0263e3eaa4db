/-!
# Places in a text

Where one text occurs in another, and what replaces it there. Places count characters from zero.

* `firstPlace?` is the first occurrence;
* `places` are the occurrences from the left that do not overlap, `replaceAll` and `replaceOne`
  put another text in their place;
* `wordsOf` are the runs without spaces.
-/

namespace Gridcalc.Text

/-- The first place at which `needle` occurs. -/
def firstPlace? (needle : List Char) : List Char → Option Nat
  | [] => if needle.isEmpty then some 0 else none
  | c :: cs => if needle.isPrefixOf (c :: cs) then some 0 else (firstPlace? needle cs).map (· + 1)

/-- The places from `here` on, after `skip` characters that belong to an occurrence already. -/
def placesFrom (needle : List Char) : Nat → Nat → List Char → List Nat
  | _, _, [] => []
  | here, skip + 1, _ :: cs => placesFrom needle (here + 1) skip cs
  | here, 0, c :: cs =>
    if needle.isPrefixOf (c :: cs) then here :: placesFrom needle (here + 1) (needle.length - 1) cs
    else placesFrom needle (here + 1) 0 cs

/-- The places at which `needle`, which is not empty, occurs without overlap. -/
def places (needle cs : List Char) : List Nat := placesFrom needle 0 0 cs

/-- A text with `new` in place of what is left of an occurrence of `old` after `skip` characters of
    it. -/
def replaceFrom (old new : List Char) : Nat → List Char → List Char
  | _, [] => []
  | skip + 1, _ :: cs => replaceFrom old new skip cs
  | 0, c :: cs =>
    if old.isPrefixOf (c :: cs) then new ++ replaceFrom old new (old.length - 1) cs
    else c :: replaceFrom old new 0 cs

/-- A text with every occurrence of `old`, which is not empty, replaced. -/
def replaceAll (old new cs : List Char) : List Char := replaceFrom old new 0 cs

/-- A text with `count` characters from a place on replaced. -/
def splice (place count : Nat) (new cs : List Char) : List Char :=
  cs.take place ++ new ++ cs.drop (place + count)

/-- A text with one occurrence of `old` replaced, counted from zero. -/
def replaceOne (old new : List Char) (n : Nat) (cs : List Char) : List Char :=
  match (places old cs)[n]? with
  | some place => splice place old.length new cs
  | none => cs

/-- The runs of a text without spaces in them. -/
def wordsOf (cs : List Char) : List (List Char) :=
  (cs.splitOnP (· == ' ')).filter fun w => !w.isEmpty

end Gridcalc.Text
