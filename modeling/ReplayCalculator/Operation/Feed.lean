import ReplayCalculator.Operation.Table

/-!
# Prepared draws

A feed answers a fixed row of values in turn, and from the start again after the last. A supply
holds the feeds of a calculation: one of whole numbers for random values and one for each custom
operation with prepared answers. Two evaluations that start from one supply see the same draws.
-/

namespace ReplayCalculator

/-- A row of values that are answered in turn, over and over. -/
structure Feed (α : Type) where
  next : α
  later : List α
  deriving DecidableEq, Repr

namespace Feed

variable {α : Type}

/-- The feed of a row of values, if the row has any. -/
def ofList? : List α → Option (Feed α)
  | [] => none
  | a :: rest => some ⟨a, rest⟩

/-- The next value, and the feed with that value behind all others. -/
def draw (feed : Feed α) : α × Feed α :=
  match feed.later with
  | [] => (feed.next, feed)
  | a :: rest => (feed.next, ⟨a, rest ++ [feed.next]⟩)

end Feed

/-- The prepared draws of a calculation. -/
structure Supply where
  numbers : Feed Int := ⟨0, []⟩
  answers : List (Feed Float) := []
  deriving DecidableEq

namespace Supply

/-- Draws a whole number from `lo` up to `hi`: the prepared number counted on from `lo`, over and
over through the range. -/
def between (lo hi : Nat) (supply : Supply) : Nat × Supply :=
  let (n, numbers) := supply.numbers.draw
  (lo + (n % (hi - lo + 1 : Nat)).toNat, { supply with numbers })

/-- Draws from the feed with the given index; without such a feed the answer is zero. -/
def answer (index : Nat) (supply : Supply) : Float × Supply :=
  match supply.answers[index]? with
  | none => (0, supply)
  | some feed =>
    let (x, feed) := feed.draw
    (x, { supply with answers := supply.answers.set index feed })

/-- The supply with one more feed, and a custom operation that draws from it. -/
def addFeed (supply : Supply) (feed : Feed Float) : Operation Supply × Supply :=
  (.custom (answer supply.answers.length),
    { supply with answers := supply.answers ++ [feed] })

end Supply

end ReplayCalculator
