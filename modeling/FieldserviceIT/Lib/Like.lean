import Mathlib.Data.List.Infix

/-!
SQL `LIKE` patterns. A percent sign stands for any run of characters, an
underscore for any one character, and a backslash makes the next character
literal. Character equality is a parameter: a server compares characters under
the collation of the column.
-/

namespace FieldserviceIT.Lib

inductive LikeToken where
  | literal (c : Char)
  | one
  | many
  deriving DecidableEq

def likeTokens : List Char → List LikeToken
  | [] => []
  | '%' :: cs => .many :: likeTokens cs
  | '_' :: cs => .one :: likeTokens cs
  | '\\' :: c :: cs => .literal c :: likeTokens cs
  | c :: cs => .literal c :: likeTokens cs

def likeMatch (same : Char → Char → Bool) : List LikeToken → List Char → Bool
  | [], xs => xs.isEmpty
  | .many :: ts, xs => xs.tails.any (likeMatch same ts)
  | .one :: _, [] => false
  | .one :: ts, _ :: xs => likeMatch same ts xs
  | .literal _ :: _, [] => false
  | .literal c :: ts, x :: xs => same c x && likeMatch same ts xs

def startsWithBy (same : Char → Char → Bool) : List Char → List Char → Bool
  | [], _ => true
  | _ :: _, [] => false
  | c :: cs, x :: xs => same c x && startsWithBy same cs xs

/-- `s` occurs somewhere in `xs`. -/
def containsBy (same : Char → Char → Bool) (s xs : List Char) : Bool :=
  xs.tails.any (startsWithBy same s)

/-- No character of the text has a meaning of its own in a pattern. -/
def plainText (s : List Char) : Bool :=
  s.all fun c => c != '%' && c != '_' && c != '\\'

theorem likeTokens_plain_append (s rest : List Char) (h : plainText s = true) :
    likeTokens (s ++ rest) = s.map .literal ++ likeTokens rest := by
  induction s with
  | nil => rfl
  | cons c s ih =>
    simp only [plainText, List.all_cons, Bool.and_eq_true, bne_iff_ne] at h ih
    obtain ⟨⟨⟨hpercent, hunderscore⟩, hbackslash⟩, hs⟩ := h
    rw [List.cons_append, likeTokens.eq_5 _ _ hpercent hunderscore
      (fun _ _ hc => absurd hc hbackslash)]
    simp [ih hs]

theorem likeMatch_many_nil (same : Char → Char → Bool) (xs : List Char) :
    likeMatch same [.many] xs = true := by
  simp only [likeMatch, List.any_eq_true]
  exact ⟨[], (List.mem_tails _ _).mpr xs.nil_suffix, rfl⟩

theorem likeMatch_literals_many (same : Char → Char → Bool) (s xs : List Char) :
    likeMatch same (s.map .literal ++ [.many]) xs = startsWithBy same s xs := by
  induction s generalizing xs with
  | nil => simp [likeMatch_many_nil, startsWithBy]
  | cons c s ih =>
    cases xs with
    | nil => rfl
    | cons x xs =>
      simp only [List.map_cons, List.cons_append, likeMatch, startsWithBy, ih]

theorem likeMatch_surrounded (same : Char → Char → Bool) (s xs : List Char)
    (h : plainText s = true) :
    likeMatch same (likeTokens ('%' :: (s ++ ['%']))) xs = containsBy same s xs := by
  have htokens : likeTokens ('%' :: (s ++ ['%'])) = .many :: (s.map .literal ++ [.many]) := by
    rw [show likeTokens ('%' :: (s ++ ['%'])) = .many :: likeTokens (s ++ ['%']) from rfl,
      likeTokens_plain_append s ['%'] h]
    rfl
  rw [htokens]
  simp only [likeMatch, containsBy]
  congr 1
  funext rest
  exact likeMatch_literals_many same s rest

theorem exists_likeMatch (same : Char → Char → Bool) (hrefl : ∀ c, same c c = true)
    (ts : List LikeToken) : ∃ xs, likeMatch same ts xs = true := by
  induction ts with
  | nil => exact ⟨[], rfl⟩
  | cons t ts ih =>
    obtain ⟨xs, hxs⟩ := ih
    cases t with
    | literal c => exact ⟨c :: xs, by simp [likeMatch, hrefl, hxs]⟩
    | one => exact ⟨'_' :: xs, by simpa [likeMatch] using hxs⟩
    | many =>
      refine ⟨xs, ?_⟩
      simp only [likeMatch, List.any_eq_true]
      exact ⟨xs, (List.mem_tails _ _).mpr xs.suffix_rfl, hxs⟩

end FieldserviceIT.Lib
