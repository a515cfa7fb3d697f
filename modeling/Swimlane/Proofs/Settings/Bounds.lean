import Swimlane.Proofs.Scalar.Ordered
import Swimlane.Settings.Basic

/-!
# What accepted settings obey

- `Checked.both_eq_good`, `Checked.under_eq_good`: what a good result was put together from.
- `Grid.Config.NonNegative`: constants of the grid that are not negative.
- `Settings.nonNegative_of_gridCheck`, `Settings.nonNegative_of_check`: accepted constants are not.
-/

namespace Swimlane

namespace Checked

variable {α β : Type}

/-- Two checks side by side are good if both are. -/
theorem both_eq_good {f : Checked (α → β)} {a : Checked α} {b : β} (h : f.both a = .good b) :
    ∃ g x, f = .good g ∧ a = .good x ∧ g x = b := by
  cases f with
  | bad issues => cases a <;> cases h
  | good g =>
    cases a with
    | bad issues => cases h
    | good x =>
      cases h
      exact ⟨g, x, rfl, rfl, rfl⟩

theorem map_eq_good {f : α → β} {a : Checked α} {b : β} (h : a.map f = .good b) :
    ∃ x, a = .good x ∧ f x = b := by
  cases a with
  | bad issues => cases h
  | good x =>
    cases h
    exact ⟨x, rfl, rfl⟩

theorem andThen_eq_good {f : α → Checked β} {a : Checked α} {b : β} (h : a.andThen f = .good b) :
    ∃ x, a = .good x ∧ f x = .good b := by
  cases a with
  | bad issues => cases h
  | good x => exact ⟨x, rfl, h⟩

theorem under_eq_good {step : PathStep} {a : Checked α} {x : α} (h : a.under step = .good x) :
    a = .good x := by
  cases a with
  | bad issues => cases h
  | good y =>
    cases h
    rfl

end Checked

open Scalar

variable {α : Type} [Scalar α]

/-- No constant of the grid is negative. -/
structure Grid.Config.NonNegative (config : Grid.Config α) : Prop where
  gridPadding : atMost (whole 0) config.gridPadding = true
  minGridWidth : atMost (whole 0) config.minGridWidth = true
  headerWidth : atMost (whole 0) config.headerWidth = true
  poolGap : atMost (whole 0) config.poolGap = true
  laneMinHeight : atMost (whole 0) config.laneMinHeight = true
  lanePadding : atMost (whole 0) config.lanePadding = true
  rowHeight : atMost (whole 0) config.rowHeight = true

namespace Settings

variable (horder : Ordered α) {number : Reader α} {bound : Bound}

include horder

/-- A number within a bound is not negative. -/
theorem nonneg_of_bounded {v : Value} {x : α} (h : bounded number bound v = .good x) :
    atMost (whole 0) x = true := by
  obtain ⟨y, -, hy⟩ := Checked.andThen_eq_good h
  by_cases hholds : bound.holds y = true
  · rw [if_pos hholds] at hy
    cases hy
    cases bound with
    | aboveZero => exact horder.atMost_of_below hholds
    | notBelowZero => exact hholds
  · rw [if_neg hholds] at hy
    cases hy

/-- A member with a bound and a default is not negative. -/
theorem nonneg_of_member {key : String} {n : Nat} {m : List (Value × Value)} {x : α}
    (h : member key (whole n) (bounded number bound) m = .good x) : atMost (whole 0) x = true := by
  have h := Checked.under_eq_good h
  cases hfield : Value.field? m key with
  | none =>
    rw [hfield] at h
    cases h
    exact horder.whole_nonneg n
  | some v =>
    rw [hfield] at h
    exact nonneg_of_bounded horder h

/-- Accepted constants of the grid are not negative. -/
theorem nonNegative_of_gridCheck {v : Value} {config : Grid.Config α}
    (h : gridCheck number v = .good config) : config.NonNegative := by
  cases v with
  | map m =>
    obtain ⟨_, _, h₆, hrowHeight, rfl⟩ := Checked.both_eq_good h
    obtain ⟨_, _, h₅, hlanePadding, rfl⟩ := Checked.both_eq_good h₆
    obtain ⟨_, _, h₄, hlaneMinHeight, rfl⟩ := Checked.both_eq_good h₅
    obtain ⟨_, _, h₃, hpoolGap, rfl⟩ := Checked.both_eq_good h₄
    obtain ⟨_, _, h₂, hheaderWidth, rfl⟩ := Checked.both_eq_good h₃
    obtain ⟨_, _, h₁, hminGridWidth, rfl⟩ := Checked.both_eq_good h₂
    obtain ⟨_, hgridPadding, rfl⟩ := Checked.map_eq_good h₁
    exact ⟨nonneg_of_member horder hgridPadding, nonneg_of_member horder hminGridWidth,
      nonneg_of_member horder hheaderWidth, nonneg_of_member horder hpoolGap,
      nonneg_of_member horder hlaneMinHeight, nonneg_of_member horder hlanePadding,
      nonneg_of_member horder hrowHeight⟩
  | _ => cases h

/-- The constants of the grid in accepted settings are not negative. -/
theorem nonNegative_of_check {m : List (String × Value)} {s : Settings α}
    (h : check number m = .good s) : s.grid.NonNegative := by
  obtain ⟨_, _, h₃, -, rfl⟩ := Checked.both_eq_good h
  obtain ⟨_, h₂, rfl⟩ := Checked.map_eq_good h₃
  obtain ⟨_, _, h₁, -, rfl⟩ := Checked.both_eq_good h₂
  obtain ⟨_, _, h₀, -, rfl⟩ := Checked.both_eq_good h₁
  obtain ⟨grid, hgrid, rfl⟩ := Checked.map_eq_good h₀
  have hgrid := Checked.under_eq_good hgrid
  cases hlookup : m.lookup "layout" with
  | none =>
    rw [hlookup] at hgrid
    cases hgrid
    have hwhole := horder.whole_nonneg
    exact ⟨hwhole _, hwhole _, hwhole _, hwhole _, hwhole _, hwhole _, hwhole _⟩
  | some v =>
    rw [hlookup] at hgrid
    exact nonNegative_of_gridCheck horder hgrid

end Settings

end Swimlane
