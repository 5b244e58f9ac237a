import StorageAdapter.Text.Utf8

/-! # Wildcard patterns

In a pattern `*` stands for any run of bytes and `?` for any one byte; other bytes stand for
themselves in either case. Matching never looks back further than the last `*`: on a mismatch that
star takes one more byte of the name and the pattern behind it is tried again from there. -/

namespace StorageAdapter.Text

/-- A byte with ASCII capitals made small. -/
def foldCase (b : UInt8) : UInt8 := if 65 ≤ b ∧ b ≤ 90 then b + 32 else b

/-- Whether a pattern byte other than `*` admits a byte of the name. -/
def admits (p b : UInt8) : Bool := p == 63 || foldCase p == foldCase b

/-- Matches `p` against `n` behind a star, where `sp` is the whole pattern behind that star and
`sn` what the star has left of the name. -/
def matchBehindStar (sp sn p n : Bytes) (inside : p.length ≤ sp.length) : Bool :=
  match p, n, inside with
  | p, [], _ => p.all (· == 42)
  | [], _ :: _, _ =>
    match sn with
    | [] => false
    | _ :: sn => matchBehindStar sp sn sp sn (Nat.le_refl _)
  | c :: p, b :: n, inside =>
    if c == 42 then matchBehindStar p (b :: n) p (b :: n) (Nat.le_refl _)
    else if admits c b then matchBehindStar sp sn p n (Nat.le_of_succ_le inside)
    else match sn with
      | [] => false
      | _ :: sn => matchBehindStar sp sn sp sn (Nat.le_refl _)
termination_by (sp.length, sn.length, n.length)
decreasing_by
  · exact .right _ (.left _ _ (by simp))
  · exact .left _ _ (Nat.lt_of_succ_le inside)
  · exact .right _ (.right _ (by simp))
  · exact .right _ (.left _ _ (by simp))

/-- Matches a pattern against a name, before any star has been met. -/
def matchBytes : Bytes → Bytes → Bool
  | p, [] => p.all (· == 42)
  | [], _ :: _ => false
  | c :: p, b :: n =>
    if c == 42 then matchBehindStar p (b :: n) p (b :: n) (Nat.le_refl _)
    else if admits c b then matchBytes p n
    else false

/-- Whether a name is of the form that a pattern describes. -/
def matchesPattern (pattern name : String) : Bool := matchBytes (encode pattern) (encode name)

end StorageAdapter.Text
