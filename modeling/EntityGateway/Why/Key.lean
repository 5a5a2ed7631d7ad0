import EntityGateway.Payload.Why
import EntityGateway.Search.Bucket
import EntityGateway.Text.CharClass

/-!
# Why-keys

A why-key such as `+NAME+DOB-ADDRESS+EMPLOYER(EMPLOYEE:EMPLOYER)` lists the features that agreed
(`+`) and disagreed (`-`) in a match, a disclosed relationship's domain possibly followed by the
roles of the two sides.

* `WhyKey.parse` reads a key leniently: blanks are skipped, a name without a sign agrees, a role
  list belongs to the token before it (the last list wins), an unclosed list is dropped, and
  tokens without a name are dropped.
* `groupRelations` folds the disclosed relations of a match into one view per domain, in domain
  order: a domain's direction is the common direction of its relations, or both ways when they
  differ; roles and relationship keys are collected without repeats.
* `WhyKey.reconcile` brings a key in line with the scores and relationships beside it: every
  feature type with a `SAME` score agrees, and every disclosed domain agrees, with its roles
  completed when the key lists roles or the relationship has a direction.
-/

namespace EntityGateway

/-- The direction of a disclosed relationship. -/
inductive RelationDirection where
  | outbound
  | inbound
  | bidirectional
  deriving DecidableEq, Repr

namespace RelationDirection

/-- A link goes both ways, a pointer out and an anchor in. -/
def ofKind : RelationKind → RelationDirection
  | .link => .bidirectional
  | .pointer => .outbound
  | .anchor => .inbound

/-- The direction of two relationships of one domain. -/
def combine (a b : RelationDirection) : RelationDirection := if a = b then a else .bidirectional

def isDirectional (d : RelationDirection) : Bool := d != .bidirectional

def code : RelationDirection → String
  | .outbound => "OUTBOUND"
  | .inbound => "INBOUND"
  | .bidirectional => "BIDIRECTIONAL"

end RelationDirection

/-- The disclosed relationships of one domain. -/
structure RelationshipView where
  domain : String
  direction : RelationDirection
  roles1 : List String
  roles2 : List String
  keys : List String
  deriving DecidableEq, Repr

namespace RelationshipView

def toJson (v : RelationshipView) : Json :=
  Json.objOf [some ("domain", .string v.domain), some ("direction", .string v.direction.code),
    some ("roles1", Json.strings v.roles1), some ("roles2", Json.strings v.roles2),
    if v.keys.isEmpty then none else some ("relationshipKeys", Json.strings v.keys)]

/-- A list with a value appended unless absent or already there. -/
def pushDistinct (xs : List String) : Option String → List String
  | some x => if xs.contains x then xs else xs ++ [x]
  | none => xs

/-- A view with one more relation of its domain. -/
def add (v : RelationshipView) (r : DisclosedRelation) : RelationshipView :=
  { v with direction := v.direction.combine (RelationDirection.ofKind r.kind),
           roles1 := pushDistinct v.roles1 r.role1, roles2 := pushDistinct v.roles2 r.role2,
           keys := pushDistinct v.keys r.key }

/-- The view of a domain's first relation. -/
def ofRelation (r : DisclosedRelation) : RelationshipView :=
  add ⟨r.domain, RelationDirection.ofKind r.kind, [], [], []⟩ r

end RelationshipView

/-- Add a relation to views kept in domain order. -/
def insertRelation (r : DisclosedRelation) : List RelationshipView → List RelationshipView
  | [] => [RelationshipView.ofRelation r]
  | v :: vs =>
    if r.domain < v.domain then RelationshipView.ofRelation r :: v :: vs
    else if r.domain = v.domain then v.add r :: vs
    else v :: insertRelation r vs

/-- One view per domain, in domain order. -/
def groupRelations (rs : List DisclosedRelation) : List RelationshipView :=
  rs.foldl (fun vs r => insertRelation r vs) []

/-- One token of a why-key: a sign, a name and possibly the roles of the two sides. -/
structure WhyToken where
  sign : Char
  name : String
  roles : Option (List String × List String) := none
  deriving DecidableEq, Repr

namespace WhyToken

def render (t : WhyToken) : String :=
  let roles := match t.roles with
    | some (r1, r2) => "(" ++ ",".intercalate r1 ++ ":" ++ ",".intercalate r2 ++ ")"
    | none => ""
  t.sign.toString ++ t.name ++ roles

end WhyToken

/-- The roles of one side of a role list: comma-separated, each trimmed, blank ones dropped. -/
def splitRoles (part : String) : List String :=
  ((part.toList.splitOn ',').map String.ofList).map String.trimBlank |>.filter (· ≠ "")

/-- The roles of a role list: the two sides are split at the first colon. -/
def parseRoles (text : String) : List String × List String :=
  match text.toList.span (· ≠ ':') with
  | (before, _ :: after) => (splitRoles (String.ofList before), splitRoles (String.ofList after))
  | (_, []) => (splitRoles text, [])

/-- A list with the values of another appended, those already there skipped. -/
def addRoles (target : List String) (roles : List String) : List String :=
  roles.foldl (fun acc r => if acc.contains r then acc else acc ++ [r]) target

/-- The tokens of a why-key. -/
structure WhyKey where
  tokens : List WhyToken
  deriving DecidableEq, Repr

namespace WhyKey

/-- The state of reading a key: the finished tokens, the token being read, and the text of an
open role list. -/
structure Reading where
  done : List WhyToken
  current : Option WhyToken
  roles : Option String

/-- Read one character. -/
def step (s : Reading) (c : Char) : Reading :=
  match s.roles with
  | some text =>
    if c = ')' then
      { s with current := s.current.map fun t => { t with roles := some (parseRoles text) }, roles := none }
    else { s with roles := some (text.push c) }
  | none =>
    if c = '+' ∨ c = '-' then { s with done := s.done ++ s.current.toList, current := some ⟨c, "", none⟩ }
    else if c = '(' then { s with roles := some "" }
    else if c.isBlank then s
    else
      let t := s.current.getD ⟨'+', "", none⟩
      { s with current := some { t with name := t.name.push c } }

/-- Read a why-key leniently. -/
def parse (text : String) : WhyKey :=
  let s := text.trimBlank.toList.foldl step ⟨[], none, none⟩
  ⟨(s.done ++ s.current.toList).filter fun t => t.name ≠ ""⟩

def contains (k : WhyKey) (sign : Char) (name : String) : Bool :=
  k.tokens.any fun t => t.sign = sign ∧ t.name = name

/-- The roles listed for the first token of a name, if any. -/
def roles (k : WhyKey) (name : String) : Option (List String × List String) :=
  (k.tokens.find? (·.name = name)).bind (·.roles)

/-- Change the first token of a name, or append one made by `fresh` and changed. -/
def updateFirst (name : String) (fresh : WhyToken) (f : WhyToken → WhyToken) :
    List WhyToken → List WhyToken
  | [] => [f fresh]
  | t :: ts => if t.name = name then f t :: ts else t :: updateFirst name fresh f ts

/-- The feature agreed: its first token gets the sign `+`, or `+name` is appended. -/
def ensureAgreement (k : WhyKey) (name : String) : WhyKey :=
  ⟨updateFirst name ⟨'+', name, none⟩ (fun t => { t with sign := '+' }) k.tokens⟩

/-- The token of a disclosed relationship's domain: it agrees, and the relationship's roles are
added when the token lists roles or the relationship has a direction and roles. -/
def completeRoles (v : RelationshipView) (t : WhyToken) : WhyToken :=
  let hasRoles := !v.roles1.isEmpty || !v.roles2.isEmpty
  let roles := match t.roles with
    | none => if v.direction.isDirectional && hasRoles then some ([], []) else none
    | some r => some r
  { t with sign := '+', roles := roles.map fun (r1, r2) => (addRoles r1 v.roles1, addRoles r2 v.roles2) }

/-- A disclosed relationship: the first token of its domain is completed. -/
def ensureRelationship (k : WhyKey) (v : RelationshipView) : WhyKey :=
  ⟨updateFirst v.domain ⟨'+', v.domain, none⟩ (completeRoles v) k.tokens⟩

def render (k : WhyKey) : String := String.join (k.tokens.map WhyToken.render)

/-- The key after one feature type's scores: the type agrees when one of its scores is `SAME`. -/
def agreeOnSame (k : WhyKey) (entry : String × List FeatureScoreView) : WhyKey :=
  if entry.2.any (·.scoringBucket = .same) then k.ensureAgreement entry.1 else k

/-- The key brought in line with the scores and relationships reported with it. -/
def reconcile (text : String) (scores : List (String × List FeatureScoreView))
    (relationships : List RelationshipView) : String :=
  let k := scores.foldl agreeOnSame (parse text)
  (relationships.foldl ensureRelationship k).render

end WhyKey

end EntityGateway
