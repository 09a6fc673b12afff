import MarkupTree.Expr.Lexer
/-!
A place in a token list, with the nesting that is open there. Every step says in its type how far it
moves on, which is what bounds the parser.
-/

namespace MarkupTree

/-- The tokens that are left, and how many levels of nesting are open. -/
structure Cursor where
  rest : List Located
  nesting : Nat
  /-- The length of the source in bytes. -/
  finish : Nat

namespace Cursor

/-- A result and a place behind `cursor`. -/
abbrev Behind (cursor : Cursor) (α : Type) :=
  { result : α × Cursor // result.2.rest.length < cursor.rest.length }

abbrev From (cursor : Cursor) (α : Type) :=
  { result : α × Cursor // result.2.rest.length ≤ cursor.rest.length }

def position (cursor : Cursor) : Nat :=
  match cursor.rest with
  | [] => cursor.finish
  | next :: _ => next.start

def enter (cursor : Cursor) : Except SyntaxError { inside : Cursor // inside.rest = cursor.rest } :=
  let inside := { cursor with nesting := cursor.nesting + 1 }
  if nestingLimit < inside.nesting then .error (.tooDeep inside.position) else .ok ⟨inside, rfl⟩

def leave (cursor : Cursor) (levels : Nat) : Cursor :=
  { cursor with nesting := cursor.nesting - levels }

theorem rest_leave (cursor : Cursor) (levels : Nat) : (cursor.leave levels).rest = cursor.rest :=
  rfl

def takeIf {α : Type} (cursor : Cursor) (test : Token → Option α) : Option (Behind cursor α) :=
  match equal : cursor.rest with
  | [] => none
  | next :: rest =>
      (test next.token).map fun found => ⟨(found, { cursor with rest := rest }), by simp [equal]⟩

def exactly (mark : Symbol) : Token → Option Unit
  | .symbol other => if other = mark then some () else none
  | _ => none

def take (cursor : Cursor) (mark : Symbol) : Option (Behind cursor Unit) :=
  cursor.takeIf (exactly mark)

def unexpected {α : Type} (cursor : Cursor) (expected : Expectation) : Except SyntaxError α :=
  match cursor.rest with
  | [] => .error (.unexpectedEnd cursor.finish)
  | next :: _ => .error (.unexpectedToken next.start expected next.token.description)

def expect (cursor : Cursor) (mark : Symbol) : Except SyntaxError (Behind cursor Unit) :=
  match cursor.take mark with
  | some taken => .ok taken
  | none => cursor.unexpected (.symbol mark)

end Cursor

end MarkupTree
