import Mathlib.Tactic.Ring
import IndexBench.Regex.Basic

/-!
# Where routes lead

A route is followed from a whole set of positions at once.  This module says
where a route leads from one position, without sets, and shows that following it
from a set finds exactly what it leads to from the members.

Main definitions:

- `Rounds` is a relation taken a number of times in a row.
- `Route.Leads` says where a route leads from one position.

Main results:

- Theorem `Route.testBit_run`: the positions found from a set are those that the
  route leads to from a member.
- Theorem `Route.leads_repeated`: a repetition of a repetition may be joined to
  one where the numbers of rounds have no gap.
-/

namespace IndexBench
namespace Regex

/-! ## Rounds -/

/-- A relation taken a number of times in a row. -/
def Rounds {α : Type} (step : α → α → Prop) : Nat → α → α → Prop
  | 0, a, b => a = b
  | n + 1, a, b => ∃ c, step a c ∧ Rounds step n c b

namespace Rounds

variable {α : Type} {step : α → α → Prop}

/-- Rounds can be taken in two parts. -/
theorem add_iff (m n : Nat) (a b : α) :
    Rounds step (m + n) a b ↔ ∃ c, Rounds step m a c ∧ Rounds step n c b := by
  induction m generalizing a with
  | zero =>
      rw [Nat.zero_add]
      constructor
      · intro h
        exact ⟨a, rfl, h⟩
      · rintro ⟨c, rfl, h⟩
        exact h
  | succ m ih =>
      rw [Nat.succ_add]
      constructor
      · rintro ⟨d, hstep, hrest⟩
        obtain ⟨c, hfirst, hlast⟩ := (ih d).mp hrest
        exact ⟨c, ⟨d, hstep, hfirst⟩, hlast⟩
      · rintro ⟨c, ⟨d, hstep, hfirst⟩, hlast⟩
        exact ⟨d, hstep, (ih d).mpr ⟨c, hfirst, hlast⟩⟩

/-- Rounds of a relation that never goes back do not go back. -/
theorem le {step : Nat → Nat → Prop} (hstep : ∀ i j, step i j → i ≤ j) {n i j : Nat}
    (h : Rounds step n i j) : i ≤ j := by
  induction n generalizing i with
  | zero => exact Nat.le_of_eq h
  | succ n ih =>
      obtain ⟨k, hfirst, hrest⟩ := h
      exact (hstep i k hfirst).trans (ih hrest)

/-- Rounds that stay where they are may be left out, so that there are no more
of them than there are positions on the way. -/
theorem contract {step : Nat → Nat → Prop} (hstep : ∀ i j, step i j → i ≤ j) {n i j : Nat}
    (h : Rounds step n i j) : ∃ m, m ≤ j - i ∧ Rounds step m i j := by
  induction n generalizing i with
  | zero => exact ⟨0, Nat.zero_le _, h⟩
  | succ n ih =>
      obtain ⟨k, hfirst, hrest⟩ := h
      obtain ⟨m, hm, hrounds⟩ := ih hrest
      have hik : i ≤ k := hstep i k hfirst
      have hkj : k ≤ j := le hstep hrest
      by_cases hstay : i = k
      · subst hstay
        exact ⟨m, hm, hrounds⟩
      · exact ⟨m + 1, by omega, k, hfirst, hrounds⟩

/-- Rounds of rounds are rounds, between as many as the fewest and as many as the
most make up. -/
theorem rounds_iff {low high : Nat} (hle : low ≤ high) (n : Nat) (a b : α) :
    Rounds (fun a b => ∃ k, low ≤ k ∧ k ≤ high ∧ Rounds step k a b) n a b ↔
      ∃ k, low * n ≤ k ∧ k ≤ high * n ∧ Rounds step k a b := by
  induction n generalizing a with
  | zero =>
      constructor
      · intro h
        exact ⟨0, by simp, by simp, h⟩
      · rintro ⟨k, -, hk, h⟩
        obtain rfl : k = 0 := by simpa using hk
        exact h
  | succ n ih =>
      rw [Nat.mul_succ, Nat.mul_succ]
      have hn : low * n ≤ high * n := Nat.mul_le_mul_right n hle
      constructor
      · rintro ⟨c, ⟨k, hlow, hhigh, hfirst⟩, hrest⟩
        obtain ⟨l, hl, hl', hlast⟩ := (ih c).mp hrest
        exact ⟨k + l, by omega, by omega, (add_iff k l a b).mpr ⟨c, hfirst, hlast⟩⟩
      · rintro ⟨k, hlow, hhigh, h⟩
        -- The first round takes what the others cannot, and at least the fewest.
        obtain ⟨l, hl⟩ : ∃ l, k = max low (k - high * n) + l :=
          ⟨k - max low (k - high * n), by omega⟩
        rw [hl] at h
        obtain ⟨c, hfirst, hlast⟩ := (add_iff _ l a b).mp h
        exact ⟨c, ⟨_, by omega, by omega, hfirst⟩, (ih c).mpr ⟨l, by omega, by omega, hlast⟩⟩

end Rounds

/-- Numbers of rounds without gaps: each one between the extremes is reached by
some number of repetitions. -/
theorem exists_repetitions {low high min max k : Nat} (hle : low ≤ high) (hmm : min ≤ max)
    (hgap : min = max ∨ low * (min + 1) ≤ high * min + 1)
    (hlow : low * min ≤ k) (hhigh : k ≤ high * max) :
    ∃ n, min ≤ n ∧ n ≤ max ∧ low * n ≤ k ∧ k ≤ high * n := by
  obtain ⟨d, rfl⟩ := Nat.exists_eq_add_of_le hmm
  induction d with
  | zero => exact ⟨min, le_rfl, le_rfl, hlow, hhigh⟩
  | succ d ih =>
      have hnext : low * (min + 1) ≤ high * min + 1 := by
        rcases hgap with h | h
        · omega
        · exact h
      by_cases hk : k ≤ high * (min + d)
      · obtain ⟨n, h⟩ := ih (Nat.le_add_right min d) (.inr hnext) hk
        exact ⟨n, by omega⟩
      · refine ⟨min + (d + 1), by omega, le_rfl, ?_, hhigh⟩
        have hd : low * d ≤ high * d := Nat.mul_le_mul_right d hle
        calc low * (min + (d + 1)) = low * (min + 1) + low * d := by ring
          _ ≤ high * min + 1 + high * d := Nat.add_le_add hnext hd
          _ = high * (min + d) + 1 := by ring
          _ ≤ k := by omega

/-! ## Positions followed -/

/-- Whether a function on sets of positions finds what a relation leads to from
their members. -/
def Follows (f : Positions → Positions) (step : Nat → Nat → Prop) : Prop :=
  ∀ positions j,
    (f positions).testBit j = true ↔ ∃ i, positions.testBit i = true ∧ step i j

namespace Follows

variable {f : Positions → Positions} {step : Nat → Nat → Prop}

/-- Taking a step a number of times follows as many rounds. -/
theorem iterate (h : Follows f step) (n : Nat) :
    Follows (Route.iterate f n) (Rounds step n) := by
  induction n with
  | zero =>
      intro positions j
      simp [Route.iterate, Rounds]
  | succ n ih =>
      intro positions j
      rw [Route.iterate_succ, ih]
      constructor
      · rintro ⟨k, hk, hrest⟩
        obtain ⟨i, hi, hfirst⟩ := (h positions k).mp hk
        exact ⟨i, hi, k, hfirst, hrest⟩
      · rintro ⟨i, hi, k, hfirst, hrest⟩
        exact ⟨k, (h positions k).mpr ⟨i, hi, hfirst⟩, hrest⟩

/-- Gathering follows every number of rounds up to the given one. -/
theorem gather (h : Follows f step) (n : Nat) :
    Follows (Route.gather f n) fun i j => ∃ m, m ≤ n ∧ Rounds step m i j := by
  induction n with
  | zero =>
      intro positions j
      simp [Route.gather, Rounds]
  | succ n ih =>
      intro positions j
      rw [Route.gather_succ, ih]
      constructor
      · rintro ⟨k, hk, m, hm, hrest⟩
        rw [Nat.testBit_or, Bool.or_eq_true] at hk
        rcases hk with hk | hk
        · exact ⟨k, hk, m, by omega, hrest⟩
        · obtain ⟨i, hi, hfirst⟩ := (h positions k).mp hk
          exact ⟨i, hi, m + 1, by omega, k, hfirst, hrest⟩
      · rintro ⟨i, hi, m, hm, hrounds⟩
        cases m with
        | zero =>
            refine ⟨i, ?_, 0, Nat.zero_le _, hrounds⟩
            rw [Nat.testBit_or, hi, Bool.true_or]
        | succ m =>
            obtain ⟨k, hfirst, hrest⟩ := hrounds
            refine ⟨k, ?_, m, by omega, hrest⟩
            rw [Nat.testBit_or, (h positions k).mpr ⟨i, hi, hfirst⟩, Bool.or_true]

/-- Following one relation and then another. -/
theorem comp {g : Positions → Positions} {next : Nat → Nat → Prop} (hg : Follows g next)
    (hf : Follows f step) :
    Follows (fun positions => g (f positions)) fun i j => ∃ k, step i k ∧ next k j := by
  intro positions j
  rw [hg]
  constructor
  · rintro ⟨k, hk, hnext⟩
    obtain ⟨i, hi, hfirst⟩ := (hf positions k).mp hk
    exact ⟨i, hi, k, hfirst, hnext⟩
  · rintro ⟨i, hi, k, hfirst, hnext⟩
    exact ⟨k, (hf positions k).mpr ⟨i, hi, hfirst⟩, hnext⟩

end Follows

/-! ## Routes -/

namespace Route

/-- Whether a route leads from one position to another. -/
def Leads : Route → Nat → Nat → Prop
  | stay, i, j => i = j
  | advance start, i, j => start.testBit i = true ∧ j = i + 1
  | pause place, i, j => place.testBit i = true ∧ i = j
  | seq first second, i, j => ∃ k, first.Leads i k ∧ second.Leads k j
  | alt left right, i, j => left.Leads i j ∨ right.Leads i j
  | rep body min max, i, j => ∃ n, min ≤ n ∧ n ≤ max ∧ Rounds body.Leads n i j

/-- Whether the bounds of every repetition are in order. -/
def Ordered : Route → Prop
  | stay => True
  | advance _ => True
  | pause _ => True
  | seq first second => first.Ordered ∧ second.Ordered
  | alt left right => left.Ordered ∧ right.Ordered
  | rep body min max => body.Ordered ∧ min ≤ max

/-- A route never leads back. -/
theorem le_of_leads {route : Route} {i j : Nat} (h : route.Leads i j) : i ≤ j := by
  induction route generalizing i j with
  | stay => exact Nat.le_of_eq h
  | advance start => exact h.2 ▸ Nat.le_succ i
  | pause place => exact Nat.le_of_eq h.2
  | seq first second ihFirst ihSecond =>
      obtain ⟨k, hfirst, hsecond⟩ := h
      exact (ihFirst hfirst).trans (ihSecond hsecond)
  | alt left right ihLeft ihRight =>
      rcases h with h | h
      · exact ihLeft h
      · exact ihRight h
  | rep body min max ih =>
      obtain ⟨n, -, -, hrounds⟩ := h
      exact hrounds.le fun i j => ih

/-- A repetition is followed by taking the fewest rounds and gathering the
others. -/
theorem follows_rep {body : Route} {min max : Nat} (hmm : min ≤ max)
    (h : Follows body.run body.Leads) :
    Follows (rep body min max).run (rep body min max).Leads := by
  intro positions j
  have hboth := ((h.gather (max - min)).comp (h.iterate min)) positions j
  by_cases hzero : positions = 0
  · simp [hzero, run]
  · rw [run, if_neg hzero, hboth]
    constructor
    · rintro ⟨i, hi, k, hfirst, m, hm, hrest⟩
      exact ⟨i, hi, min + m, by omega, by omega, (Rounds.add_iff min m i j).mpr ⟨k, hfirst, hrest⟩⟩
    · rintro ⟨i, hi, n, hmin, hmax, hrounds⟩
      obtain ⟨m, rfl⟩ := Nat.exists_eq_add_of_le hmin
      obtain ⟨k, hfirst, hrest⟩ := (Rounds.add_iff min m i j).mp hrounds
      exact ⟨i, hi, k, hfirst, m, by omega, hrest⟩

/-- The positions found from a set are those that the route leads to from a
member. -/
theorem testBit_run {route : Route} (h : route.Ordered) :
    Follows route.run route.Leads := by
  induction route with
  | stay =>
      intro positions j
      simp [run, Leads]
  | advance start =>
      intro positions j
      rw [run]
      cases j with
      | zero =>
          rw [Positions.testBit_next_zero]
          simp [Leads]
      | succ j =>
          rw [Positions.testBit_next, Nat.testBit_and, Bool.and_eq_true]
          constructor
          · rintro ⟨hi, hstart⟩
            exact ⟨j, hi, hstart, rfl⟩
          · rintro ⟨i, hi, hstart, hj⟩
            obtain rfl : j = i := Nat.succ.inj hj
            exact ⟨hi, hstart⟩
  | pause place =>
      intro positions j
      simp [run, Leads, Nat.testBit_and]
  | seq first second ihFirst ihSecond =>
      exact (ihSecond h.2).comp (ihFirst h.1)
  | alt left right ihLeft ihRight =>
      intro positions j
      rw [run, Nat.testBit_or, Bool.or_eq_true, ihLeft h.1, ihRight h.2]
      simp only [Leads, and_or_left, exists_or]
  | rep body min max ih => exact follows_rep h.2 (ih h.1)

/-! ## Repetitions of repetitions -/

/-- A repeated route has its bounds in order. -/
theorem ordered_repeated {body : Route} {min max : Nat} (h : body.Ordered) (hmm : min ≤ max) :
    (body.repeated min max).Ordered := by
  unfold repeated
  split
  · split
    · exact ⟨h.1, Nat.mul_le_mul h.2 hmm⟩
    · exact ⟨h, hmm⟩
  · exact ⟨h, hmm⟩

/-- A repeated route leads where its body leads in as many rounds as the bounds
allow, whether or not it was joined with a repetition in the body. -/
theorem leads_repeated {body : Route} {min max : Nat} (h : body.Ordered) (hmm : min ≤ max)
    (i j : Nat) :
    (body.repeated min max).Leads i j ↔
      ∃ n, min ≤ n ∧ n ≤ max ∧ Rounds body.Leads n i j := by
  unfold repeated
  split
  · rename_i inner low high
    split
    · rename_i hgap
      constructor
      · rintro ⟨k, hlow, hhigh, hrounds⟩
        obtain ⟨n, hmin, hmax, hn⟩ := exists_repetitions h.2 hmm hgap hlow hhigh
        exact ⟨n, hmin, hmax, (Rounds.rounds_iff h.2 n i j).mpr ⟨k, hn.1, hn.2, hrounds⟩⟩
      · rintro ⟨n, hmin, hmax, hrounds⟩
        obtain ⟨k, hlow, hhigh, hk⟩ := (Rounds.rounds_iff h.2 n i j).mp hrounds
        have hleast : low * min ≤ low * n := Nat.mul_le_mul_left low hmin
        have hmost : high * n ≤ high * max := Nat.mul_le_mul_left high hmax
        exact ⟨k, hleast.trans hlow, hhigh.trans hmost, hk⟩
    · exact Iff.rfl
  · exact Iff.rfl

end Route
end Regex
end IndexBench
