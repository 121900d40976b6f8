import Reckoner.Session

/-!
# Equality of values

Values are equal if they have the same content: arrays item by item, objects
key by key in any order, quantities with the same units as they are written.
Functions are equal only to themselves.
-/

namespace Reckoner.Session

/-- Whether two values of which arrays and objects nest at most `nesting` deep
are equal. -/
def sameTo (s : Session) : (nesting : Nat) → Value → Value → Bool
  | _, .number x, .number y => x.sameValue y
  | _, .quantity p, .quantity q => p.sameValue q
  | _, .string t, .string u => t == u
  | _, .markdown t, .markdown u => t == u
  | _, .bool a, .bool b => a == b
  | _, .null, .null => true
  | _, .date d, .date e => d.sameInstant e
  | _, .closure i _, .closure j _ => i == j
  | _, .builtin i _, .builtin j _ => i == j
  | _, .applied i _ _, .applied j _ _ => i == j
  | 0, .array c, .array d => c == d
  | n + 1, .array c, .array d =>
    c == d ||
      ((s.items c).size == (s.items d).size &&
        ((s.items c).toList.zip (s.items d).toList).all fun (v, w) => s.sameTo n v w)
  | 0, .object c, .object d => c == d
  | n + 1, .object c, .object d =>
    c == d ||
      ((s.entries c).length == (s.entries d).length &&
        (s.entries c).all fun (key, v) =>
          match (s.entries d).find? key with
          | some w => s.sameTo n w v
          | none => false)
  | _, _, _ => false

/-- Whether two values are equal. -/
def same (s : Session) (v w : Value) : Bool := s.sameTo s.nesting v w

end Reckoner.Session
