import QuantumAnalytics.Foundations.Regex
import Mathlib.Data.List.Infix

/-!
# Searching texts

`finditer` finds matches from left to right and goes on behind each of them. When no
match begins inside another one, every place where a match may begin is found; and a
pattern that is found as often as a wider one is found in the same places.
-/

namespace QuantumAnalytics
namespace Regex

/-- A matcher: what is matched at the beginning of a text, and what follows it. No match
is empty. -/
abbrev Matcher (α : Type) := List Char → Option (α × List Char)

section Search

variable {α β : Type}

/-- The matches behind the first characters, with the texts that they begin. -/
def finditerFrom (matcher : Matcher α) : Nat → List Char → List (List Char × α)
  | _, [] => []
  | skip + 1, _ :: chars => finditerFrom matcher skip chars
  | 0, c :: chars =>
      match matcher (c :: chars) with
      | none => finditerFrom matcher 0 chars
      | some (found, rest) =>
          (c :: chars, found) :: finditerFrom matcher (chars.length - rest.length) chars

/-- `pattern.finditer`. -/
def finditer (matcher : Matcher α) (chars : List Char) : List (List Char × α) :=
  finditerFrom matcher 0 chars

/-- The places where a match may begin. -/
def starts (matcher : Matcher α) (chars : List Char) : List (List Char) :=
  chars.tails.filter fun text => (matcher text).isSome

/-- Matches are found where they may begin. -/
theorem map_finditerFrom_sublist
    (matcher : Matcher α)
    (skip : Nat)
    (chars : List Char) :
    ((finditerFrom matcher skip chars).map Prod.fst).Sublist (starts matcher chars) := by
  induction chars generalizing skip with
  | nil =>
      rw [finditerFrom]
      exact List.nil_sublist _
  | cons c chars inductionHypothesis =>
      rw [starts, List.tails_cons]
      cases skip with
      | succ skip =>
          exact (inductionHypothesis skip).trans ((List.sublist_cons_self _ _).filter _)
      | zero =>
          rw [finditerFrom]
          cases matched : matcher (c :: chars) with
          | none => exact (inductionHypothesis 0).trans ((List.sublist_cons_self _ _).filter _)
          | some match? =>
              rw [List.filter_cons_of_pos (by rw [matched]; rfl), List.map_cons]
              exact (inductionHypothesis _).cons_cons _

/-- What is found is matched. -/
theorem exists_of_mem_finditerFrom
    {matcher : Matcher α}
    {skip : Nat}
    {chars text : List Char}
    {found : α}
    (listed : (text, found) ∈ finditerFrom matcher skip chars) :
    ∃ rest, matcher text = some (found, rest) := by
  induction chars generalizing skip with
  | nil => cases listed
  | cons c chars inductionHypothesis =>
      cases skip with
      | succ skip => exact inductionHypothesis listed
      | zero =>
          rw [finditerFrom] at listed
          cases matched : matcher (c :: chars) with
          | none =>
              rw [matched] at listed
              exact inductionHypothesis listed
          | some pair =>
              obtain ⟨first, rest⟩ := pair
              rw [matched] at listed
              rcases List.mem_cons.mp listed with isFirst | later
              · obtain ⟨rfl, rfl⟩ := Prod.mk.inj isFirst
                exact ⟨rest, matched⟩
              · exact inductionHypothesis later

/-- No match begins inside another one. -/
def Apart (matcher : Matcher α) : Prop :=
  ∀ c chars found rest, matcher (c :: chars) = some (found, rest) →
    ∀ text, text <:+ chars → rest.length < text.length → matcher text = none

/-- Matches that are apart are all found. -/
theorem map_finditerFrom_eq
    {matcher : Matcher α}
    (empty : matcher [] = none)
    (apart : Apart matcher)
    {skip : Nat}
    {chars : List Char}
    (none : ∀ text, text <:+ chars → chars.length - skip < text.length → matcher text = none) :
    (finditerFrom matcher skip chars).map Prod.fst = starts matcher chars := by
  induction chars generalizing skip with
  | nil => simp [finditerFrom, starts, empty]
  | cons c chars inductionHypothesis =>
      rw [starts, List.tails_cons]
      cases skip with
      | succ skip =>
          have first : matcher (c :: chars) = .none := by
            refine none _ List.suffix_rfl ?_
            rw [List.length_cons]
            omega
          rw [List.filter_cons_of_neg (by simp [first])]
          refine inductionHypothesis fun text isSuffix longer => none text ?_ ?_
          · exact isSuffix.trans (List.suffix_cons c chars)
          · rw [List.length_cons]
            omega
      | zero =>
          rw [finditerFrom]
          cases matched : matcher (c :: chars) with
          | none =>
              rw [List.filter_cons_of_neg (by simp [matched])]
              refine inductionHypothesis fun text isSuffix longer => ?_
              have shorter := isSuffix.length_le
              omega
          | some pair =>
              obtain ⟨found, rest⟩ := pair
              rw [List.filter_cons_of_pos (by rw [matched]; rfl), List.map_cons]
              refine congrArg _ (inductionHypothesis fun text isSuffix longer => ?_)
              have shorter := isSuffix.length_le
              exact apart c chars found rest matched text isSuffix (by omega)

/-- A narrower pattern that is found as often as matches that are apart is found in all
places. -/
theorem exists_mem_finditer_of_length
    {wide : Matcher α}
    {narrow : Matcher β}
    (empty : wide [] = none)
    (apart : Apart wide)
    (narrower : ∀ text, (narrow text).isSome = true → (wide text).isSome = true)
    {chars : List Char}
    (lengths : (finditer wide chars).length = (finditer narrow chars).length)
    {text : List Char}
    (isSuffix : text <:+ chars)
    (matched : (wide text).isSome = true) : ∃ found, (text, found) ∈ finditer narrow chars := by
  have all : (finditer wide chars).map Prod.fst = starts wide chars :=
    map_finditerFrom_eq empty apart fun text isSuffix longer =>
      absurd isSuffix.length_le (Nat.not_le.mpr longer)
  have narrowed : (starts narrow chars).Sublist (starts wide chars) :=
    List.monotone_filter_right _ narrower
  have same : (finditer narrow chars).map Prod.fst = starts wide chars := by
    refine ((map_finditerFrom_sublist narrow 0 chars).trans narrowed).eq_of_length ?_
    rw [← all, List.length_map, List.length_map, lengths]
    rfl
  have listed : text ∈ (finditer narrow chars).map Prod.fst := by
    rw [same]
    exact List.mem_filter.mpr ⟨(List.mem_tails _ _).mpr isSuffix, matched⟩
  obtain ⟨⟨_, found⟩, isFound, rfl⟩ := List.mem_map.mp listed
  exact ⟨found, isFound⟩

end Search
end Regex
end QuantumAnalytics
