import SessionHandoff.Text.Utf8

/-!
# Pipes

A pipe holds the bytes that were written to it and not read yet. Writing keeps a piece as it is, and
the pieces are joined when something is read, so that writing many short pieces costs no more than
their length.
-/

set_option autoImplicit false

namespace SessionHandoff

/-- A pipe: the bytes that are read first, and the pieces after them, the latest first. -/
structure Pipe where
  front : Bytes := []
  later : List Bytes := []
deriving Repr, Inhabited

namespace Pipe

/-- What is left in the pipe. -/
def content (p : Pipe) : Bytes :=
  p.front ++ p.later.reverse.flatten

/-- Write at the end. -/
def write (p : Pipe) (bytes : Bytes) : Pipe :=
  { p with later := bytes :: p.later }

/-- Read at most so many bytes. -/
def read (p : Pipe) (count : Nat) : Bytes × Pipe :=
  let bytes := if p.later.isEmpty then p.front else p.content
  (bytes.take count, { front := bytes.drop count })

end Pipe

end SessionHandoff
