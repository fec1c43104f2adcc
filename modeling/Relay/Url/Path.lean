import Relay.Text.Parts

/-!
# Paths of URLs

A path is a sequence of segments, each behind a slash. A segment of one point stands for the
segments before it, and one of two points for all of them but the last. `resolved` is the path
without such segments.
-/

namespace Relay.Url

open Relay.Text

/-- The number of points that a segment consists of, each of which may be escaped. -/
def points : List Char → Option Nat
  | [] => some 0
  | '.' :: rest => (points rest).map (· + 1)
  | '%' :: '2' :: 'e' :: rest | '%' :: '2' :: 'E' :: rest => (points rest).map (· + 1)
  | _ => none

/-- What is left of segments, given those that were kept, the last one first. -/
def resolve (kept : List (List Char)) : List (List Char) → List (List Char)
  | [] => kept.reverse
  | s :: rest =>
    let kept := match points s with
      | some 1 => kept
      | some 2 => kept.drop 1
      | _ => s :: kept
    if rest.isEmpty && (points s = some 1 || points s = some 2) then ([] :: kept).reverse
    else resolve kept rest

/-- A path that begins with a slash, without segments of points. -/
def resolved (path : List Char) : List Char :=
  '/' :: joined '/' (resolve [] (parts '/' (path.drop 1)))

end Relay.Url
