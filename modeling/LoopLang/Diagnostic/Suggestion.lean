/-! Suggestions: the candidate most similar to a name that was not found. -/

namespace LoopLang

/-- A stretch that two texts have in common: where it starts in each, and its length. -/
structure CommonStretch where
  first : Nat
  second : Nat
  length : Nat
  deriving DecidableEq, Repr

/--
Lengths of the common stretches that end with the given character at each position of a text,
from those that end one character earlier; characters in `ignored` end none.
-/
def stretchRow (ignored : List Char) (char : Char) (text : List Char) (previous : List Nat) :
    List Nat :=
  List.zipWith (fun other length => if other = char && !ignored.contains char
    then length + 1 else 0) text (0 :: previous)

/-- Keeps the longest stretch seen so far while going along a row whose next position is
`second`. -/
def longestInRow (first : Nat) : (second : Nat) → CommonStretch → List Nat → CommonStretch
  | _, best, [] => best
  | second, best, length :: rest =>
    let better := if best.length < length
      then ⟨first + 1 - length, second + 1 - length, length⟩ else best
    longestInRow first (second + 1) better rest

/-- The longest common stretch over the rest of the first text; the earliest one wins. -/
def longestFrom (ignored text : List Char) :
    (first : Nat) → List Nat → CommonStretch → List Char → CommonStretch
  | _, _, best, [] => best
  | first, previous, best, char :: rest =>
    let row := stretchRow ignored char text previous
    longestFrom ignored text (first + 1) row (longestInRow first 0 best row) rest

/-- How many characters two texts share at their start. -/
def commonStart : List Char → List Char → Nat
  | left :: lefts, right :: rights => if left = right then commonStart lefts rights + 1 else 0
  | _, _ => 0

/-- The longest common stretch without ignored characters, then extended in both directions over any
equal characters. -/
def longestStretch (ignored left right : List Char) : CommonStretch :=
  let core := longestFrom ignored right 0 (List.replicate right.length 0) ⟨0, 0, 0⟩ left
  let before := commonStart (left.take core.first).reverse (right.take core.second).reverse
  let after := commonStart (left.drop (core.first + core.length))
    (right.drop (core.second + core.length))
  ⟨core.first - before, core.second - before, before + core.length + after⟩

/--
The number of characters in common: those of the longest stretch, of what stands before it in both
texts, and of what stands after it. The first argument bounds the depth and exceeds the length of
the first text.
-/
def matchedLength (ignored : List Char) : (depth : Nat) → (left right : List Char) → Nat
  | 0, _, _ => 0
  | depth + 1, left, right =>
    let stretch := longestStretch ignored left right
    if stretch.length = 0 then 0
    else
      matchedLength ignored depth (left.take stretch.first)
        (right.take stretch.second) + stretch.length +
        matchedLength ignored depth (left.drop (stretch.first + stretch.length))
          (right.drop (stretch.second + stretch.length))

/-- The characters that are too frequent in a long text to start a common stretch. -/
def frequentChars (text : List Char) : List Char :=
  if text.length < 200 then []
  else text.eraseDups.filter fun char => text.length / 100 + 1 < text.count char

/-- The similarity of two texts, `2 * matched / total`. -/
structure Similarity where
  matched : Nat
  total : Nat
  deriving DecidableEq, Repr

namespace Similarity

/-- Compares a candidate with the name that was looked for. -/
def between (candidate name : String) : Similarity :=
  let left := candidate.toList
  let right := name.toList
  ⟨matchedLength (frequentChars right) (left.length + 1) left right, left.length + right.length⟩

/-- The similarity as a number from zero to one; two empty texts are alike. -/
def ratio (similarity : Similarity) : Float :=
  if similarity.total = 0 then 1.0
  else 2.0 * similarity.matched.toFloat / similarity.total.toFloat

/-- Whether one similarity is below another, compared as rounded numbers. -/
def below (left right : Similarity) : Bool := left.ratio < right.ratio

end Similarity

/-- A candidate with its similarity to the name that was looked for. -/
structure Ranked where
  similarity : Similarity
  candidate : String
  deriving DecidableEq, Repr

/-- The better of two candidates: the more similar one, and of equally similar ones the greater
text. -/
def Ranked.better (left right : Ranked) : Ranked :=
  if left.similarity.below right.similarity then right
  else if right.similarity.below left.similarity then left
  else if left.candidate < right.candidate then right
  else left

/-- The candidates that reach the cutoff. -/
def similarCandidates (name : String) (candidates : List String) (cutoff : Float) : List Ranked :=
  (candidates.map fun candidate => ⟨.between candidate name, candidate⟩).filter
    fun ranked => cutoff ≤ ranked.similarity.ratio

/-- The best of some ranked candidates. -/
def bestRanked? : List Ranked → Option Ranked
  | [] => none
  | first :: rest => some (rest.foldl Ranked.better first)

/-- A cutoff for similarities must lie between zero and one. -/
def validCutoff (cutoff : Float) : Bool := 0.0 ≤ cutoff && cutoff ≤ 1.0

/-- The best candidate that reaches the cutoff; a name that is itself a candidate needs no
suggestion. -/
def suggestAbove (cutoff : Float) (name : String) (candidates : List String) : Option String :=
  if candidates.contains name then none
  else (bestRanked? (similarCandidates name candidates cutoff)).map (·.candidate)

/-- The similarity that a suggestion must reach unless another one is asked for. -/
def defaultCutoff : Float := 0.6

/-- The suggestion for a name that was not found. -/
def suggest (name : String) (candidates : List String) : Option String :=
  suggestAbove defaultCutoff name candidates

end LoopLang
