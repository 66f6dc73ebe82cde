import Mathlib.Data.Rat.Defs
import Mathlib.Algebra.Order.Ring.Rat
import Mathlib.Data.List.Basic

namespace IndiaSwing

/-- One order-book level: a zero price is only valid when the level is empty. -/
structure KiteDepthLevel where
  price : ℚ
  quantity : ℕ
  price_nonneg : 0 ≤ price
  empty_of_zero : price = 0 → quantity = 0
  deriving DecidableEq, Repr

structure KiteFullQuote where
  depthBuy : List KiteDepthLevel
  depthSell : List KiteDepthLevel
  deriving DecidableEq, Repr

def firstPositivePrice : List KiteDepthLevel → Option ℚ
  | [] => none
  | level :: rest => if 0 < level.price then some level.price else firstPositivePrice rest

def KiteFullQuote.bestBid (quote : KiteFullQuote) : Option ℚ := firstPositivePrice quote.depthBuy

def KiteFullQuote.bestAsk (quote : KiteFullQuote) : Option ℚ := firstPositivePrice quote.depthSell

theorem firstPositivePrice_pos {levels : List KiteDepthLevel} {price : ℚ}
    (h : firstPositivePrice levels = some price) : 0 < price := by
  induction levels with
  | nil => cases h
  | cons level rest ih =>
    unfold firstPositivePrice at h
    split at h
    next hp => exact Option.some.inj h ▸ hp
    next => exact ih h

/-- The best price is the price of one of the levels, so looking its level up never misses. -/
theorem firstPositivePrice_find {levels : List KiteDepthLevel} {price : ℚ}
    (h : firstPositivePrice levels = some price) :
    ∃ level, levels.find? (·.price = price) = some level := by
  induction levels with
  | nil => cases h
  | cons level rest ih =>
    unfold firstPositivePrice at h
    split at h
    next => exact ⟨level, by simp [Option.some.inj h]⟩
    next hp =>
      obtain ⟨found, hfound⟩ := ih h
      have hne : level.price ≠ price := fun he => hp (he ▸ firstPositivePrice_pos h)
      exact ⟨found, by simp [hne, hfound]⟩

end IndiaSwing
