import EntityGateway.Json.Decode

/-!
# Classifications in engine payloads

* `MatchLevel`: how two entities, or an entity and a search, relate. Its order, from closest to
  farthest, is `resolved`, `possiblySame`, `possiblyRelated`, `nameOnly`, `disclosed`, `noMatch`.
* `ScoreBucket`: how close one compared pair of feature values is, from `same` to `noChance`.
* `RelationKind`: the kind of a disclosed relationship as the engine names it.

Each has the engine's code (`RESOLVED`, `SAME`, `REL_LINK`, ...), a decoder from it and its JSON
text.
-/

namespace EntityGateway

/-- How two entities relate. -/
inductive MatchLevel where
  | resolved
  | possiblySame
  | possiblyRelated
  | nameOnly
  | disclosed
  | noMatch
  deriving DecidableEq, Repr, Inhabited

namespace MatchLevel

/-- All levels, closest first. -/
def all : List MatchLevel := [.resolved, .possiblySame, .possiblyRelated, .nameOnly, .disclosed, .noMatch]

/-- The engine's code of a level. -/
def code : MatchLevel → String
  | .resolved => "RESOLVED"
  | .possiblySame => "POSSIBLY_SAME"
  | .possiblyRelated => "POSSIBLY_RELATED"
  | .nameOnly => "NAME_ONLY"
  | .disclosed => "DISCLOSED"
  | .noMatch => "NO_MATCH"

/-- The level's name in reports. -/
def title : MatchLevel → String
  | .resolved => "Resolved"
  | .possiblySame => "PossiblySame"
  | .possiblyRelated => "PossiblyRelated"
  | .nameOnly => "NameOnly"
  | .disclosed => "Disclosed"
  | .noMatch => "NoMatch"

/-- The numeric level the engine reports beside the code. -/
def number : MatchLevel → Nat
  | .resolved => 1
  | .possiblySame => 2
  | .possiblyRelated => 3
  | .disclosed => 3
  | .nameOnly => 4
  | .noMatch => 0

/-- The position of a level in the order from closest to farthest. -/
def rank : MatchLevel → Nat
  | .resolved => 0
  | .possiblySame => 1
  | .possiblyRelated => 2
  | .nameOnly => 3
  | .disclosed => 4
  | .noMatch => 5

/-- Read a level from its code. -/
def decode : Decoder MatchLevel := Decoder.enum (all.map fun l => (l.code, l))

/-- A level as JSON. -/
def toJson (l : MatchLevel) : Json := .string l.code

end MatchLevel

/-- How close one compared pair of feature values is. -/
inductive ScoreBucket where
  | same
  | close
  | likely
  | reasonable
  | unlikely
  | noChance
  deriving DecidableEq, Repr, Inhabited

namespace ScoreBucket

/-- All buckets, closest first. -/
def all : List ScoreBucket := [.same, .close, .likely, .reasonable, .unlikely, .noChance]

/-- The engine's code of a bucket. -/
def code : ScoreBucket → String
  | .same => "SAME"
  | .close => "CLOSE"
  | .likely => "LIKELY"
  | .reasonable => "PLAUSIBLE"
  | .unlikely => "UNLIKELY"
  | .noChance => "NO_CHANCE"

/-- The position of a bucket in the order from closest to farthest. -/
def rank : ScoreBucket → Nat
  | .same => 0
  | .close => 1
  | .likely => 2
  | .reasonable => 3
  | .unlikely => 4
  | .noChance => 5

/-- Read a bucket from its code. -/
def decode : Decoder ScoreBucket := Decoder.enum (all.map fun b => (b.code, b))

/-- A bucket as JSON. -/
def toJson (b : ScoreBucket) : Json := .string b.code

end ScoreBucket

/-- The kind of a disclosed relationship. -/
inductive RelationKind where
  | link
  | pointer
  | anchor
  deriving DecidableEq, Repr, Inhabited

namespace RelationKind

/-- The engine's code of a kind. -/
def code : RelationKind → String
  | .link => "REL_LINK"
  | .pointer => "REL_POINTER"
  | .anchor => "REL_ANCHOR"

/-- Read a kind from its code. -/
def decode : Decoder RelationKind :=
  Decoder.enum [("REL_LINK", .link), ("REL_POINTER", .pointer), ("REL_ANCHOR", .anchor)]

/-- A kind as JSON. -/
def toJson (k : RelationKind) : Json := .string k.code

end RelationKind

end EntityGateway
