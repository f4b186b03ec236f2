import Mathlib.Algebra.BigOperators.Ring.List
import PublicationIndicator.Proofs.Points.Soundness

/-!
# PublicationIndicator.Proofs.Points.Conservation — points are conserved up to rounding

Rounding is off by half of the last digit.  Where 32 bits count the pairs in the hierarchy, a score settles
its stakes, one credit for each, and all that is due comes to what there is to be shared.  Institutions that
are left out have credits of nothing.  So the total is what there is to be shared, but for the rounding of
each credit (`abs_totalPoints_sub_le`).
-/

namespace PublicationIndicator

open Decimal

/-! ### Rounding -/

theorem abs_toPoints_sub_le (q : ℚ) : |toPoints q - q| ≤ 5 / 10 ^ 5 := by
  have hround := abs_sub_round (q * 10 ^ 4)
  have hval : toPoints q - q = -(q * 10 ^ 4 - round (q * 10 ^ 4)) / 10 ^ 4 := by
    unfold toPoints
    field_simp
    ring
  rw [hval, abs_div, abs_neg, abs_of_pos (by positivity : (0 : ℚ) < 10 ^ 4), div_le_iff₀ (by positivity)]
  linarith

/-- Sums are off by no more than all their terms together. -/
theorem abs_sum_sub_sum_le {α : Type} {g k : α → ℚ} {c : ℚ} {l : List α}
    (hstep : ∀ x ∈ l, |g x - k x| ≤ c) : |(l.map g).sum - (l.map k).sum| ≤ c * l.length := by
  induction l with
  | nil => simp
  | cons x l ih =>
    obtain ⟨hx, hl⟩ := List.forall_mem_cons.1 hstep
    have hrest := ih hl
    have hsplit : (g x + (l.map g).sum) - (k x + (l.map k).sum) =
        (g x - k x) + ((l.map g).sum - (l.map k).sum) := by ring
    rw [List.map_cons, List.map_cons, List.sum_cons, List.sum_cons, hsplit, List.length_cons]
    push_cast
    linarith [abs_add_le (g x - k x) ((l.map g).sum - (l.map k).sum)]

/-! ### Scores -/

namespace PointCalculation.Distributes

variable {c : PointCalculation} {f : PublicationFacts} {h : Hierarchy}
  {credits : List (OrganizationId × CreatorPoints)}

theorem mem_stakes (hc : c.Distributes f h credits) {x : OrganizationId × CreatorPoints}
    (hx : x ∈ credits) : stakeOf x ∈ f.stakes h := by
  rw [← hc.stakes]
  exact List.mem_map_of_mem hx

/-- Credits come to what there is to be shared, but for the rounding of each of them. -/
theorem abs_sum_sub_le (hc : c.Distributes f h credits) (hcount : (f.resolvable h).card < 2 ^ 32)
    (hne : f.sharers h ≠ []) : |(credits.map fun x => x.2.points.toRat).sum - c.pool| ≤
      5 / 10 ^ 5 * (f.resolvable h).card := by
  have hpoints : credits.map (fun x => x.2.points.toRat) =
      (f.stakes h).map fun s => toPoints (f.due h c.pool s.1 s.2.2) := by
    rw [← hc.stakes, List.map_map]
    exact List.map_congr_left hc.settles
  have hstep : ∀ s ∈ f.stakes h, |toPoints (f.due h c.pool s.1 s.2.2) - f.due h c.pool s.1 s.2.2| ≤
      5 / 10 ^ 5 := fun s _ => abs_toPoints_sub_le _
  have hall := abs_sum_sub_sum_le hstep
  rwa [← hpoints, PublicationFacts.sum_due hcount hne, PublicationFacts.length_stakes] at hall

end PointCalculation.Distributes

/-- The total differs from base points times factor by half of the last digit at most for each pair of a
creator and an affiliation in the hierarchy, if 32 bits count these pairs. -/
theorem abs_totalPoints_sub_le {f : PublicationFacts} {h : Hierarchy} {e : PointEvaluation}
    (hcount : (f.resolvable h).card < 2 ^ 32) (he : score f h = .ok e) :
    |e.calculation.totalPoints.toRat -
        e.calculation.basePoints.toRat * e.calculation.collaborationFactor.toRat| ≤
      5 / 10 ^ 5 * (f.resolvable h).card := by
  obtain ⟨base, -, -, hne, -, -, -⟩ := exists_of_score he
  obtain ⟨credits, hc⟩ := exists_distributes he
  rw [hc.exact.total, hc.sum]
  exact hc.abs_sum_sub_le hcount hne

/-- Three parts of `1.3` among four pairs, one of which earns nothing. -/
theorem abs_totalPoints_sub_le_three_pairs :
    let id (s : String) : OrganizationId := ⟨s⟩
    let h : Hierarchy := ⟨⟨[id "a.1", id "a", id "b"], [(id "a.1", id "a")]⟩,
      [.childOf (id "a.1") (id "a"), .blank (id "b")], by decide⟩
    let f : PublicationFacts :=
      ⟨⟨"p"⟩, .academicArticle, ⟨"c", .journal, .levelOne⟩,
        [⟨.verified "x", [id "a.1", id "?"]⟩, ⟨.verified "y", [id "b"]⟩, ⟨.unverified "y", [id "b"]⟩],
        by decide⟩
    (f.resolvable h).card = 3 ∧ ∃ e, score f h = .ok e ∧
      |e.calculation.totalPoints.toRat -
          e.calculation.basePoints.toRat * e.calculation.collaborationFactor.toRat| ≤
        5 / 10 ^ 5 * (f.resolvable h).card := by
  intro id h f
  have hok : (score f h).isOk = true := by decide +kernel
  have hthree : (f.resolvable h).card = 3 := by decide
  refine ⟨hthree, ?_⟩
  cases he : score f h with
  | error err =>
    rw [he] at hok
    cases hok
  | ok e => exact ⟨e, rfl, abs_totalPoints_sub_le (hthree.trans_lt (by decide)) he⟩

end PublicationIndicator
