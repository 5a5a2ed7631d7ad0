import EntityGateway.Payload.Score
import EntityGateway.Text.Case
import EntityGateway.Sorted

/-!
# Scoring feature values

* `normalize t v` is the form in which values of feature type `t` are compared: lower case,
  every character that is neither a letter nor a digit read as a blank, words joined by single
  spaces; a name loses one company suffix (`inc`, `corp`, `llc`, `ltd`, `co`, `corporation`,
  `company`); a value of another type than names and addresses with at least four ASCII digits
  is compared on its digits alone.
* `levenshtein a b` is the least number of character insertions, deletions and substitutions
  that turn `a` into `b`.
* `similarity t a b` is 100 for values of one normal form, and otherwise
  `100 * (1 - d / n)` rounded half away from zero, `d` the distance of the normal forms and `n`
  the length of the longer; the arithmetic is that of binary64 numbers, each operation rounded
  to the nearest.
* `bucketOf s` sorts a score into `same` (100), `close` (from 90), `likely` (80),
  `reasonable` (70), `unlikely` (50) and `noChance`.
* `scoreFeatures` keeps, for each feature type given on both sides, the first pair with the
  highest score; `classify` and `matchKey` read a level and a key off the scores.
-/

namespace EntityGateway

namespace Scoring

/-- The feature type of names. -/
def nameType : String := "NAME"

/-- Company suffixes that a name loses, the first that ends it. -/
def companySuffixes : List String := [" inc", " corp", " llc", " ltd", " co", " corporation", " company"]

/-- The text without the first suffix of `suffixes` that ends it. -/
def dropSuffix (s : String) : List String → String
  | [] => s
  | x :: xs =>
    if s.endsWith x then String.ofList (s.toList.take (s.length - x.length)) else dropSuffix s xs

/-- The form in which values of a feature type are compared. -/
def normalize (featureType value : String) : String :=
  let mapped := String.ofList (value.lower.toList.map fun c => if c.isAlnum then c else ' ')
  let words := " ".intercalate mapped.blankWords
  let words := if featureType == nameType then dropSuffix words companySuffixes else words
  let digits := words.toList.filter Char.isDigit
  if featureType != nameType && featureType != "ADDRESS" && digits.length ≥ 4 then String.ofList digits
  else words

/-- The next row of the edit-distance table: `prev` is the row of the text before `c`, `left`
the entry just computed, `diag` the entry of `prev` before the current one. -/
def nextRow (c : Char) : List Char → List Nat → Nat → Nat → List Nat
  | d :: ds, up :: ups, left, diag =>
    let here := min (min (up + 1) (left + 1)) (diag + if c == d then 0 else 1)
    here :: nextRow c ds ups here up
  | _, _, _, _ => []

/-- The last row of the edit-distance table of `a` against `b`. -/
def lastRow (a b : List Char) : List Nat :=
  a.foldl (fun (prev : List Nat) c =>
    match prev with
    | p0 :: ps => (p0 + 1) :: nextRow c b ps (p0 + 1) p0
    | [] => []) (List.range (b.length + 1))

/-- The edit distance of two texts, counted in characters. -/
def levenshtein (a b : String) : Nat :=
  let xs := a.toList
  let ys := b.toList
  if xs.isEmpty then ys.length
  else if ys.isEmpty then xs.length
  else (lastRow xs ys).getLastD 0

/-- The binary64 operation result nearest to an exact non-negative value. -/
def rounded (q : Rat) : Rat :=
  match Binary64.nearest false q with
  | some x => x.toRat
  | none => q

/-- A non-negative rational rounded half away from zero. -/
def roundHalfUp (q : Rat) : Int := (q + 1 / 2).floor

/-- The score of `distance` edits against a longest length: `100 * (1 - distance / longest)`
in binary64 arithmetic, rounded half away from zero. -/
def scoreOf (distance longest : Nat) : Int :=
  let ratio := rounded ((distance : Rat) / (longest : Rat))
  let rest := rounded (1 - ratio)
  roundHalfUp (rounded (100 * rest))

/-- The similarity of two values of a feature type, from 0 to 100. -/
def similarity (featureType a b : String) : Int :=
  let x := normalize featureType a
  let y := normalize featureType b
  if x == y then 100
  else
    let longest := max x.length y.length
    if longest = 0 then 0 else scoreOf (levenshtein x y) longest

/-- The bucket of a score. -/
def bucketOf (s : Int) : ScoreBucket :=
  if s ≥ 100 then .same
  else if s ≥ 90 then .close
  else if s ≥ 80 then .likely
  else if s ≥ 70 then .reasonable
  else if s ≥ 50 then .unlikely
  else .noChance

/-- One inbound value, and whether it names an organization. -/
structure InboundValue where
  value : String
  organization : Bool := false
  deriving DecidableEq, Repr

/-- The best pair so far after comparing `i` with `c`: the new pair when it scores higher, so the
first pair with the highest score is kept. -/
def keepBest (featureType : String) (i : InboundValue) (best : Option (Int × InboundValue × String))
    (c : String) : Option (Int × InboundValue × String) :=
  let s := similarity featureType i.value c
  match best with
  | some (top, _, _) => if s > top then some (s, i, c) else best
  | none => some (s, i, c)

/-- The first pair with the highest score, inbound values outermost. -/
def bestPair (featureType : String) (inbound : List InboundValue) (candidates : List String) :
    Option (Int × InboundValue × String) :=
  inbound.foldl (fun best i => candidates.foldl (keepBest featureType i) best) none

/-- For each inbound feature type that the candidate has values of, the best pair's score. -/
def scoreFeatures (inbound : AscendingMap String (List InboundValue)) (candidate : List (String × List String)) :
    ScoreMap :=
  inbound.toList.filterMap fun (t, values) =>
    match candidate.lookup t with
    | some cs@(_ :: _) =>
      (bestPair t values cs).map fun (s, i, c) =>
        let isName := t == nameType
        (t, [{ inbound := i.value, candidate := c, score := s, bucket := bucketOf s,
               fullNameScore := if isName && !i.organization then some s else none,
               orgNameScore := if isName && i.organization then some s else none }])
    | _ => none

/-- The closest bucket of a list of scores. -/
def bestBucket (ss : List FeatureScore) : Option ScoreBucket :=
  ss.foldl (fun best s =>
    match best with
    | some b => if s.bucket.rank < b.rank then some s.bucket else some b
    | none => some s.bucket) none

/-- The match level the scores support: a name with another close feature resolves, a name with
a weaker one is possibly the same, another close feature without a name suggests a relation, a
name alone is a name-only match. -/
def classify (scores : ScoreMap) : MatchLevel :=
  let nameMatches : Bool := match (scores.lookup nameType).bind bestBucket with
    | some b => decide (b.rank ≤ ScoreBucket.close.rank)
    | none => false
  let others := scores.filterMap fun (t, ss) => if t == nameType then none else bestBucket ss
  let strong := others.any fun b => b.rank ≤ ScoreBucket.close.rank
  let weak := others.any fun b => b.rank ≤ ScoreBucket.reasonable.rank
  if nameMatches then
    if strong then .resolved else if weak then .possiblySame else .nameOnly
  else if strong then .possiblyRelated else .noMatch

/-- `+T` for each feature type whose best bucket is at least close, `-T` for each at most
unlikely, in key order. -/
def matchKey (scores : ScoreMap) : String :=
  String.join (scores.map fun (t, ss) =>
    match bestBucket ss with
    | some b =>
      if b.rank ≤ ScoreBucket.close.rank then "+" ++ t
      else if b.rank ≥ ScoreBucket.unlikely.rank then "-" ++ t
      else ""
    | none => "")

end Scoring

end EntityGateway
