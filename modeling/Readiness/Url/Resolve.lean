import Readiness.Url.Basic

/-! References to URLs.

A reference is a URL or the end of one; `Url.resolve` completes it from the URL on which it was
found. A reference with a scheme stands for itself, two slashes keep the scheme, one slash keeps the
host as well, and anything else is put in place of what follows the last slash of the path. -/

namespace Readiness.Url

/-- The segments of a path, last first. -/
def segmentsOf (path : String) : List (List Char) :=
  (splitAt '/' (path.toList.drop 1)).reverse

/-- Puts the relative path `pathText` in place of the last segment of `base`. -/
def mergePath (base : Url) (pathText : List Char) : String :=
  let special := isSpecial base.scheme
  joinSegments (resolveSegments ((segmentsOf base.path).drop 1) (splitSegments special pathText))

/-- A reference without a scheme, completed from `base`. -/
def resolveRelative (base : Url) (s : List Char) : Except Fault Url :=
  let special := isSpecial base.scheme
  let isSlash (c : Char) : Bool := c = '/' || (special && c = '\\')
  match s with
  | [] => .ok { base with fragment := none }
  | a :: b :: rest =>
    if isSlash a && isSlash b then parseHierarchical base.scheme rest
    else if isSlash a then .ok (parseRest (bare base) s)
    else .ok (keepPath base s)
  | [a] => if isSlash a then .ok (parseRest (bare base) s) else .ok (keepPath base s)
where
  /-- The URL without what follows its host. -/
  bare (base : Url) : Url := { base with path := "", query := none, fragment := none }
  /-- Completes a reference that starts inside the path or behind it. -/
  keepPath (base : Url) (s : List Char) : Url :=
    let pathText := s.takeWhile fun c => !endsPath c
    let rest := s.dropWhile fun c => !endsPath c
    match pathText, rest with
    | [], '#' :: _ => withQueryAndFragment { base with fragment := none } rest
    | [], _ => withQueryAndFragment { base with query := none, fragment := none } rest
    | _, _ => withQueryAndFragment
      { base with path := mergePath base pathText, query := none, fragment := none } rest

/-- The URL that a reference on `base` stands for. -/
def resolve (base : Url) (reference : String) : Except Fault Url :=
  let s := tidy reference.toList
  match splitScheme s with
  | none => resolveRelative base s
  | some (scheme, rest) =>
    match rest with
    | '/' :: '/' :: _ => parse reference
    | _ => if scheme = base.scheme ∧ isSpecial scheme then resolveRelative base rest
      else parse reference

end Readiness.Url
