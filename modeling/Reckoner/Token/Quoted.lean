import Reckoner.Text.Digits
import Reckoner.Token.Basic

/-!
# Strings in sources

What stands between the quotes of a string: `unescape` reads its escapes, and
`templateSegments` cuts a template into text and the expressions to be filled
in.

An expression stands between a dollar sign with a brace and the brace that
closes it; braces inside it nest.  A backslash before the dollar sign makes it
text.
-/

namespace Reckoner.Token

/-- The character that an escape stands for. -/
def escaped (c : Char) : Char :=
  match c with
  | 'n' => '\n'
  | 't' => '\t'
  | 'r' => '\r'
  | '0' => '\x00'
  | c => c

/-- A text with its escapes read.  A backslash at the end stands for
itself. -/
def unescape : List Char → List Char
  | [] => []
  | '\\' :: c :: rest => escaped c :: unescape rest
  | c :: rest => c :: unescape rest

/-- A piece of text out of the characters between quotes. -/
def textSegment (cs : List Char) : Segment := .text (String.ofList (unescape cs))

/-- What stands before the brace that closes `depth` open ones. -/
def untilClosed : (depth : Nat) → List Char → Option (List Char)
  | _, [] => none
  | depth, c :: rest =>
    if c = '\x7b' then (untilClosed (depth + 1) rest).map (c :: ·)
    else if c = '\x7d' then
      match depth with
      | 0 | 1 => some []
      | depth + 2 => (untilClosed (depth + 1) rest).map (c :: ·)
    else (untilClosed depth rest).map (c :: ·)

/-- The text gathered so far, latest character first, if there is any. -/
def pendingSegment (pending : List Char) : List Segment :=
  if pending.isEmpty then [] else [textSegment pending.reverse]

/-- The segments of a template from `offset` on, after the first `skip`
characters; `pending` is the text gathered before. -/
def segmentsFrom (offset : Nat) : (skip : Nat) → (pending : List Char) → List Char → List Segment
  | _, pending, [] => pendingSegment pending
  | skip + 1, pending, c :: rest => segmentsFrom (offset + c.utf8Size) skip pending rest
  | 0, pending, '$' :: '\x7b' :: rest =>
    match pending with
    | '\\' :: earlier => segmentsFrom (offset + 2) 0 ('\x7b' :: '$' :: earlier) rest
    | _ =>
      match untilClosed 1 rest with
      | some body =>
        pendingSegment pending ++
          .code (String.ofList body) (offset + 2) ::
            segmentsFrom (offset + 2) (body.length + 1) [] rest
      | none => [textSegment (pending.reverse ++ '$' :: '\x7b' :: rest)]
  | 0, pending, c :: rest => segmentsFrom (offset + c.utf8Size) 0 (c :: pending) rest

/-- The segments of a template whose content starts at `offset`; there is at
least one. -/
def templateSegments (content : List Char) (offset : Nat) : List Segment :=
  match segmentsFrom offset 0 [] content with
  | [] => [.text ""]
  | segments => segments

/-- A string with its quotes, as a token. -/
def ofQuoted (quote : Quote) (text : List Char) (offset : Nat) : Token :=
  let content := (text.drop 1).dropLast
  match quote with
  | .template => .string quote (templateSegments content (offset + 1))
  | _ => .string quote [textSegment content]

end Reckoner.Token
