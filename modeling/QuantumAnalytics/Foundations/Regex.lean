import Mathlib.Data.List.Basic

/-!
# Regular expressions

Patterns over characters with greedy repetitions, matched by backtracking. `rests` lists
what may follow a match, best match first. A text follows a match exactly when the
characters in front of it are in the language of the pattern.
-/

namespace QuantumAnalytics

/-- A pattern. -/
inductive Regex
  /-- The empty text. -/
  | empty
  /-- One character of a class. -/
  | one (accepts : Char → Bool)
  /-- Characters of a class, as many as possible: at least `least`, and at most `most`. -/
  | many (accepts : Char → Bool) (least : Nat) (most : Option Nat)
  | seq (first second : Regex)
  /-- The first alternative is tried first. -/
  | alt (first second : Regex)

namespace Regex

/-- `[A-Za-z]`. -/
def isLetter (c : Char) : Bool := ('A' ≤ c && c ≤ 'Z') || ('a' ≤ c && c ≤ 'z')

/-- `[0-9]`. -/
def isDigit (c : Char) : Bool := '0' ≤ c && c ≤ '9'

/-- An optional pattern. -/
def opt (pattern : Regex) : Regex := .alt pattern .empty

/-- A fixed text. -/
def text (chars : List Char) : Regex := chars.foldr (fun c rest => .seq (.one (· == c)) rest) .empty

/-- What may follow a repetition. -/
def manyRests (accepts : Char → Bool) : Nat → Option Nat → List Char → List (List Char)
  | least, _, [] => if least = 0 then [[]] else []
  | least, most, c :: rest =>
      (if most ≠ some 0 ∧ accepts c = true then
          manyRests accepts (least - 1) (most.map (· - 1)) rest
        else []) ++
      if least = 0 then [c :: rest] else []

/-- What may follow a match at the beginning of a text, best match first. -/
def rests : Regex → List Char → List (List Char)
  | .empty, chars => [chars]
  | .one _, [] => []
  | .one accepts, c :: rest => if accepts c = true then [rest] else []
  | .many accepts least most, chars => manyRests accepts least most chars
  | .seq first second, chars => (first.rests chars).flatMap second.rests
  | .alt first second, chars => first.rests chars ++ second.rests chars

/-- `pattern.match`: what follows the match. -/
def match? (pattern : Regex) (chars : List Char) : Option (List Char) := (pattern.rests chars).head?

/-- A character of two joined texts stands in the one or in the other. -/
theorem split_append
    {front back left right : List Char}
    {c : Char}
    (split : front ++ c :: back = left ++ right) :
    (∃ more, left = front ++ c :: more ∧ back = more ++ right) ∨
      ∃ more, front = left ++ more ∧ right = more ++ c :: back := by
  rcases List.append_eq_append_iff.mp split with ⟨more, rfl, rest⟩ | ⟨more, rfl, rest⟩
  · cases more with
    | nil => exact .inr ⟨[], by simp, by simpa using rest.symm⟩
    | cons first more =>
        obtain ⟨rfl, rfl⟩ := List.cons.inj rest
        exact .inl ⟨more, rfl, rfl⟩
  · exact .inr ⟨more, rfl, rest⟩

/-! ### Languages -/

/-- A text is in the language of a pattern. -/
def Accepts : Regex → List Char → Prop
  | .empty, chars => chars = []
  | .one accepts, chars => ∃ c, chars = [c] ∧ accepts c = true
  | .many accepts least most, chars => chars.all accepts = true ∧ least ≤ chars.length ∧
      ∀ bound ∈ most, chars.length ≤ bound
  | .seq first second, chars => ∃ left right, chars = left ++ right ∧ first.Accepts left ∧
      second.Accepts right
  | .alt first second, chars => first.Accepts chars ∨ second.Accepts chars

theorem mem_manyRests
    {accepts : Char → Bool}
    {least : Nat}
    {most : Option Nat}
    {chars rest : List Char} :
    rest ∈ manyRests accepts least most chars ↔
      ∃ taken, chars = taken ++ rest ∧ (many accepts least most).Accepts taken := by
  induction chars generalizing least most with
  | nil =>
      rw [manyRests]
      constructor
      · intro listed
        split at listed
        next zero =>
          obtain rfl := List.mem_singleton.mp listed
          exact ⟨[], rfl, rfl, zero ▸ Nat.le_refl _, fun bound _ => Nat.zero_le _⟩
        next => cases listed
      · rintro ⟨taken, split, -, atLeast, -⟩
        obtain ⟨rfl, rfl⟩ := List.append_eq_nil_iff.mp split.symm
        rw [if_pos (Nat.le_zero.mp atLeast)]
        exact List.mem_singleton_self _
  | cons c chars inductionHypothesis =>
      rw [manyRests, List.mem_append]
      constructor
      · rintro (more | done)
        · split at more
          next goesOn =>
            obtain ⟨taken, rfl, all, atLeast, atMost⟩ := inductionHypothesis.mp more
            refine ⟨c :: taken, rfl, by simp [goesOn.2, all], by
              rw [List.length_cons]
              omega, fun bound isBound => ?_⟩
            obtain rfl : most = some bound := isBound
            have positive : bound ≠ 0 := fun zero => goesOn.1 (congrArg some zero)
            have less := atMost (bound - 1) rfl
            rw [List.length_cons]
            omega
          next => cases more
        · split at done
          next zero =>
            obtain rfl := List.mem_singleton.mp done
            exact ⟨[], rfl, rfl, zero ▸ Nat.le_refl _, fun bound _ => Nat.zero_le _⟩
          next => cases done
      · rintro ⟨taken, split, all, atLeast, atMost⟩
        cases taken with
        | nil =>
            right
            rw [if_pos (Nat.le_zero.mp atLeast), List.mem_singleton]
            exact split.symm
        | cons first taken =>
            left
            obtain ⟨rfl, rfl⟩ := List.cons.inj split
            rw [List.all_cons, Bool.and_eq_true] at all
            rw [List.length_cons] at atLeast
            have goesOn : most ≠ some 0 := by
              rintro rfl
              exact absurd (atMost 0 rfl) (by simp)
            rw [if_pos ⟨goesOn, all.1⟩]
            refine inductionHypothesis.mpr ⟨taken, rfl, all.2, by omega, fun bound isBound => ?_⟩
            obtain ⟨more, isMore, rfl⟩ := Option.map_eq_some_iff.mp isBound
            have less := atMost more isMore
            rw [List.length_cons] at less
            exact Nat.le_sub_one_of_lt less

/-- What follows a match is what follows a text of the language. -/
theorem mem_rests
    {pattern : Regex}
    {chars rest : List Char} :
    rest ∈ pattern.rests chars ↔ ∃ taken, chars = taken ++ rest ∧ pattern.Accepts taken := by
  induction pattern generalizing chars rest with
  | empty =>
      rw [rests, List.mem_singleton]
      constructor
      · rintro rfl
        exact ⟨[], rfl, rfl⟩
      · rintro ⟨taken, split, rfl⟩
        exact split.symm
  | one accepts =>
      cases chars with
      | nil =>
          refine ⟨fun listed => (by cases listed), ?_⟩
          rintro ⟨taken, split, c, rfl, -⟩
          cases split
      | cons c chars =>
          rw [rests]
          constructor
          · intro listed
            split at listed
            next accepted =>
              obtain rfl := List.mem_singleton.mp listed
              exact ⟨[c], rfl, c, rfl, accepted⟩
            next => cases listed
          · rintro ⟨taken, split, other, rfl, accepted⟩
            obtain ⟨rfl, rfl⟩ := List.cons.inj split
            rw [if_pos accepted]
            exact List.mem_singleton_self _
  | many accepts least most => exact mem_manyRests
  | seq first second ihFirst ihSecond =>
      rw [rests, List.mem_flatMap]
      constructor
      · rintro ⟨middle, isMiddle, isRest⟩
        obtain ⟨left, rfl, accepted⟩ := ihFirst.mp isMiddle
        obtain ⟨right, rfl, acceptedToo⟩ := ihSecond.mp isRest
        exact ⟨left ++ right, (List.append_assoc ..).symm, left, right, rfl, accepted, acceptedToo⟩
      · rintro ⟨taken, rfl, left, right, rfl, accepted, acceptedToo⟩
        exact ⟨right ++ rest, ihFirst.mpr ⟨left, List.append_assoc .., accepted⟩,
          ihSecond.mpr ⟨right, rfl, acceptedToo⟩⟩
  | alt first second ihFirst ihSecond =>
      rw [rests, List.mem_append, ihFirst, ihSecond]
      constructor
      · rintro (⟨taken, split, accepted⟩ | ⟨taken, split, accepted⟩)
        · exact ⟨taken, split, .inl accepted⟩
        · exact ⟨taken, split, .inr accepted⟩
      · rintro ⟨taken, split, accepted | accepted⟩
        · exact .inl ⟨taken, split, accepted⟩
        · exact .inr ⟨taken, split, accepted⟩

/-- A match has taken a text of the language. -/
theorem exists_of_match?
    {pattern : Regex}
    {chars rest : List Char}
    (matched : pattern.match? chars = some rest) :
    ∃ taken, chars = taken ++ rest ∧ pattern.Accepts taken :=
  mem_rests.mp (List.mem_of_head? matched)

/-- A greedy repetition stops at its bound, or in front of a character of another class. -/
theorem head?_manyRests
    {accepts : Char → Bool}
    {least : Nat}
    {most : Option Nat}
    {chars rest : List Char}
    (first : (manyRests accepts least most chars).head? = some rest) :
    ∃ taken, chars = taken ++ rest ∧ taken.all accepts = true ∧
      (most = some taken.length ∨ ∀ c ∈ rest.head?, accepts c = false) := by
  induction chars generalizing least most with
  | nil =>
      rw [manyRests] at first
      split at first
      next =>
        obtain rfl := Option.some.inj first
        exact ⟨[], rfl, rfl, .inr nofun⟩
      next => cases first
  | cons c chars inductionHypothesis =>
      rw [manyRests] at first
      split at first
      next goesOn =>
        cases more : (manyRests accepts (least - 1) (most.map (· - 1)) chars).head? with
        | none =>
            -- The repetition cannot go on only when it has to.
            have required : least ≠ 0 := by
              rintro rfl
              rw [List.head?_eq_none_iff] at more
              have listed : chars ∈ manyRests accepts (0 - 1) (most.map (· - 1)) chars :=
                mem_manyRests.mpr ⟨[], rfl, rfl, Nat.le_refl _, fun bound _ => Nat.zero_le _⟩
              rw [more] at listed
              cases listed
            rw [List.head?_append, more, if_neg required] at first
            cases first
        | some best =>
            rw [List.head?_append, more, Option.some_or] at first
            obtain rfl := Option.some.inj first
            obtain ⟨taken, rfl, all, stops⟩ := inductionHypothesis more
            refine ⟨c :: taken, rfl, by simp [goesOn.2, all], ?_⟩
            rcases stops with bound | other
            · left
              obtain ⟨limit, rfl, less⟩ := Option.map_eq_some_iff.mp bound
              have positive : limit ≠ 0 := fun zero => goesOn.1 (congrArg some zero)
              rw [List.length_cons, Option.some.injEq]
              omega
            · exact .inr other
      next stops =>
        rw [List.nil_append] at first
        split at first
        next =>
          obtain rfl := Option.some.inj first
          refine ⟨[], rfl, rfl, ?_⟩
          by_cases zero : most = some 0
          · exact .inl zero
          · right
            rintro other ⟨⟩
            by_contra accepted
            exact stops ⟨zero, by simpa using accepted⟩
        next => cases first

/-- What the pattern may take, with what follows it, best match first. -/
def splits (pattern : Regex) (chars : List Char) : List (List Char × List Char) :=
  (pattern.rests chars).map fun rest => (chars.take (chars.length - rest.length), rest)

theorem mem_splits
    {pattern : Regex}
    {chars taken rest : List Char} :
    (taken, rest) ∈ pattern.splits chars ↔ chars = taken ++ rest ∧ pattern.Accepts taken := by
  simp only [splits, List.mem_map, Prod.mk.injEq]
  constructor
  · rintro ⟨rest, listed, isTaken, rfl⟩
    obtain ⟨front, rfl, accepted⟩ := mem_rests.mp listed
    rw [List.length_append, Nat.add_sub_cancel, List.take_left] at isTaken
    exact ⟨congrArg (· ++ rest) isTaken, isTaken ▸ accepted⟩
  · rintro ⟨rfl, accepted⟩
    refine ⟨rest, mem_rests.mpr ⟨taken, rfl, accepted⟩, ?_, rfl⟩
    rw [List.length_append, Nat.add_sub_cancel, List.take_left]

/-- The language of a fixed text. -/
theorem accepts_text
    {word chars : List Char} : (text word).Accepts chars ↔ chars = word := by
  induction word generalizing chars with
  | nil => exact Iff.rfl
  | cons c word inductionHypothesis =>
      constructor
      · rintro ⟨_, right, rfl, ⟨other, rfl, same⟩, accepted⟩
        rw [beq_iff_eq.mp same, inductionHypothesis.mp accepted]
        rfl
      · rintro rfl
        exact ⟨[c], word, rfl, ⟨c, rfl, beq_self_eq_true c⟩, inductionHypothesis.mpr rfl⟩

/-- Texts of one class that stop in front of another character are the same. -/
theorem append_eq_of_stops
    {accepts : Char → Bool}
    {left left' rest rest' : List Char}
    (same : left ++ rest = left' ++ rest')
    (all : left.all accepts = true)
    (all' : left'.all accepts = true)
    (stops : ∀ c ∈ rest.head?, accepts c = false)
    (stops' : ∀ c ∈ rest'.head?, accepts c = false) : left = left' ∧ rest = rest' := by
  induction left generalizing left' with
  | nil =>
      cases left' with
      | nil => exact ⟨rfl, same⟩
      | cons c left' =>
          obtain rfl : rest = c :: (left' ++ rest') := same
          have accepted := List.all_eq_true.mp all' c List.mem_cons_self
          rw [stops c rfl] at accepted
          cases accepted
  | cons c left inductionHypothesis =>
      cases left' with
      | nil =>
          rw [List.cons_append, List.nil_append] at same
          subst same
          have accepted := List.all_eq_true.mp all c List.mem_cons_self
          rw [stops' c rfl] at accepted
          cases accepted
      | cons c' left' =>
          rw [List.cons_append, List.cons_append] at same
          obtain ⟨rfl, tails⟩ := List.cons.inj same
          rw [List.all_cons, Bool.and_eq_true] at all all'
          obtain ⟨rfl, rfl⟩ := inductionHypothesis tails all.2 all'.2
          exact ⟨rfl, rfl⟩

end Regex
end QuantumAnalytics
