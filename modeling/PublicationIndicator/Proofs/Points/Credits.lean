import PublicationIndicator.Proofs.Decimal.Sum
import PublicationIndicator.Proofs.Points.Entry

/-!
# PublicationIndicator.Proofs.Points.Credits — shares that are divided off

Sharing out divides by counts of 32 bits.  A division fails just where its count is nothing, so that all
creators get their credits if no count starts again from nothing (`PublicationFacts.Counted`,
`exists_credits`), as it is where 32 bits count all pairs (`counted_of_lt`).  Credits are points of twelve
at most (`isCredit_of_credits`), one for each stake (`map_stakeOf_credits`), and each is what is due for it,
rounded once (`settles_of_credits`).
-/

namespace PublicationIndicator

open Decimal

/-! ### Shares -/

/-- Parts of what is not below zero are not below zero and hardly larger than the whole. -/
theorem part?_le {d r : Decimal} {n : Nat} {q : ℚ} (h0 : 0 ≤ d.toRat) (hq : d.toRat ≤ q)
    (hle : q ≤ 12) (h : part? d n = some r) : 0 ≤ r.toRat ∧ r.toRat ≤ q + 1 / 2 := by
  have habs : |d.toRat| ≤ q := by rwa [abs_of_nonneg h0]
  obtain ⟨hn, hnear⟩ := part?_near (habs.trans hle) h
  have hr0 : 0 ≤ r.toRat := hnear.nonneg (by positivity)
  have hr := abs_le_of_near hnear ((abs_div_le hn).trans habs)
  rw [abs_of_nonneg hr0] at hr
  exact ⟨hr0, hr⟩

/-- What is not large can be divided by what is counted. -/
theorem exists_part? {d : Decimal} {n : Nat} (hn : 0 < count32 n) (h0 : 0 ≤ d.toRat)
    (hle : d.toRat ≤ 12) : ∃ r, part? d n = some r := by
  obtain ⟨r, hr, -⟩ := exists_part?_near hn ((abs_of_nonneg h0).trans_le hle)
  exact ⟨r, hr⟩

section

variable {t : InstanceType} {v : ScientificValue} {base : Decimal}
  (hbase : basePoints? t v = some base) (k : Nat) {n : Nat}
include hbase

theorem exists_creatorShare (hn : 0 < count32 n) :
    ∃ share, creatorShare base (collaborationFactor k) n = .ok share := by
  obtain ⟨pool, hpool, -, b, -, hb, hbq⟩ := exists_pool hbase k
  have hb' : (b : ℚ) ≤ 1040 := by exact_mod_cast hb
  have h0 : 0 ≤ pool.toRat := by
    rw [hbq]
    positivity
  obtain ⟨share, hshare⟩ := exists_part? hn h0 (by linarith)
  refine ⟨share, ?_⟩
  rw [creatorShare, expect_eq_ok_iff, hpool, Option.bind_some, hshare]

/-- There is no share among nobody. -/
theorem creatorShare_eq_error (hn : count32 n = 0) :
    creatorShare base (collaborationFactor k) n = .error (.defect (.overflow .creatorShare)) := by
  obtain ⟨pool, hpool, -⟩ := exists_pool hbase k
  rw [creatorShare, hpool, Option.bind_some, part?_eq_none hn]
  rfl

theorem share_bounds {share : Decimal} (hshare : creatorShare base (collaborationFactor k) n = .ok share) :
    0 ≤ share.toRat ∧ share.toRat ≤ 11 := by
  obtain ⟨pool, hpool, -, b, -, hb, hbq⟩ := exists_pool hbase k
  have hb' : (b : ℚ) ≤ 1040 := by exact_mod_cast hb
  have h0 : 0 ≤ pool.toRat := by
    rw [hbq]
    positivity
  have hle : pool.toRat ≤ 104 / 10 := by
    rw [hbq]
    linarith
  rw [creatorShare, expect_eq_ok_iff, hpool, Option.bind_some] at hshare
  obtain ⟨hs0, hs⟩ := part?_le h0 hle (by norm_num) hshare
  exact ⟨hs0, hs.trans (by norm_num)⟩

end

section

variable {share : Decimal} (h0 : 0 ≤ share.toRat) (hle : share.toRat ≤ 11)
include h0 hle

theorem exists_affiliationShare {k m : Nat} (hk : 0 < count32 k) (hm : 0 < count32 m) :
    ∃ points, affiliationShare share k m = .ok points := by
  obtain ⟨part, hpart⟩ := exists_part? hk h0 (hle.trans (by norm_num))
  obtain ⟨hp0, hp⟩ := part?_le h0 hle (by norm_num) hpart
  obtain ⟨points, hpoints⟩ := exists_part? hm hp0 (hp.trans (by norm_num))
  exact ⟨points, bind_eq_ok_iff.2 ⟨part, expect_eq_ok_iff.2 hpart, expect_eq_ok_iff.2 hpoints⟩⟩

theorem affiliationShare_bounds {k m : Nat} {points : Decimal}
    (hpoints : affiliationShare share k m = .ok points) : 0 ≤ points.toRat ∧ points.toRat ≤ 12 := by
  obtain ⟨part, hpart, hpoints⟩ := bind_eq_ok_iff.1 hpoints
  rw [expect_eq_ok_iff] at hpart hpoints
  obtain ⟨hp0, hp⟩ := part?_le h0 hle (by norm_num) hpart
  obtain ⟨hr0, hr⟩ := part?_le hp0 hp (by norm_num) hpoints
  exact ⟨hr0, hr.trans (by norm_num)⟩

end

/-! ### Credits -/

/-- No count that is divided by starts again from nothing. -/
structure PublicationFacts.Counted (f : PublicationFacts) (h : Hierarchy) : Prop where
  sharers : 0 < count32 (f.sharers h).length
  roots : ∀ c ∈ f.sharers h, 0 < count32 (c.roots h).length
  under : ∀ c ∈ f.sharers h, ∀ i ∈ c.roots h, 0 < count32 (c.under h i).length

/-- All counts are counted where 32 bits count the pairs in the hierarchy. -/
theorem PublicationFacts.counted_of_lt {f : PublicationFacts} {h : Hierarchy}
    (hne : f.sharers h ≠ []) (hcount : (f.resolvable h).card < 2 ^ 32) : f.Counted h where
  sharers := by
    rw [count32_of_lt ((length_sharers_le f h).trans_lt hcount)]
    exact List.length_pos_of_ne_nil hne
  roots c hc := by
    rw [count32_of_lt ((length_roots_le hc).trans_lt hcount)]
    exact List.length_pos_of_ne_nil (mem_sharers.1 hc).2
  under c hc i hi := by
    obtain ⟨a, ha⟩ := Creator.mem_roots.1 hi
    rw [count32_of_lt ((length_under_le hc i).trans_lt hcount)]
    exact List.length_pos_of_ne_nil (Creator.under_ne_nil (Creator.mem_resolved.2 ha))

/-- A creator gets a credit for each affiliation in the hierarchy. -/
theorem exists_creatorCredits {c : Creator} {h : Hierarchy} {share : Decimal}
    (h0 : 0 ≤ share.toRat) (hle : share.toRat ≤ 11) (hroots : 0 < count32 (c.roots h).length)
    (hunder : ∀ i ∈ c.roots h, 0 < count32 (c.under h i).length) :
    ∃ credits, c.credits h share = .ok credits := by
  refine exists_mapM_ok ?_
  rintro ⟨a, i⟩ hp
  have hi : i ∈ c.roots h := Creator.mem_roots.2 ⟨a, Creator.mem_resolved.1 hp⟩
  obtain ⟨points, hpoints⟩ := exists_affiliationShare h0 hle hroots (hunder i hi)
  exact ⟨_, bind_eq_ok_iff.2 ⟨points, hpoints, rfl⟩⟩

section

variable {c : Creator} {h : Hierarchy} {share : Decimal} (hne : c.roots h ≠ [])
include hne

/-- If a creator's affiliations all fail to be credited in one way, the creator fails in this way. -/
theorem credits_eq_error {err : PointError} (herr : ∀ i ∈ c.roots h,
    affiliationShare share (c.roots h).length (c.under h i).length = .error err) :
    c.credits h share = .error err := by
  have hstep : ∀ p ∈ c.resolved h, affiliationShare share (c.roots h).length
      (c.under h p.2).length = .error err := by
    rintro ⟨a, i⟩ hp
    exact herr i (Creator.mem_roots.2 ⟨a, Creator.mem_resolved.1 hp⟩)
  have hresolved : c.resolved h ≠ [] := by
    intro hnil
    rw [Creator.roots, hnil] at hne
    exact hne rfl
  obtain ⟨p, ps, hp⟩ := List.exists_cons_of_ne_nil hresolved
  rw [Creator.credits, hp, List.mapM_cons]
  rw [hp] at hstep
  exact bind_eq_error_iff.2 (.inl (bind_eq_error_iff.2 (.inl (hstep p List.mem_cons_self))))

/-- There is no part of a share for one of no institutions. -/
theorem credits_eq_error_of_roots (hzero : count32 (c.roots h).length = 0) :
    c.credits h share = .error (.defect (.overflow .institutionShare)) := by
  refine credits_eq_error hne fun i _ => ?_
  rw [affiliationShare, part?_eq_none hzero]
  rfl

/-- There is no part of a share for one of no affiliations. -/
theorem credits_eq_error_of_under (h0 : 0 ≤ share.toRat) (hle : share.toRat ≤ 11)
    (hroots : 0 < count32 (c.roots h).length)
    (hzero : ∀ i ∈ c.roots h, count32 (c.under h i).length = 0) :
    c.credits h share = .error (.defect (.overflow .affiliationShare)) := by
  refine credits_eq_error hne fun i hi => ?_
  obtain ⟨part, hpart⟩ := exists_part? hroots h0 (hle.trans (by norm_num))
  rw [affiliationShare, hpart]
  show CalculationStep.affiliationShare.expect (part? part (c.under h i).length) = _
  rw [part?_eq_none (hzero i hi)]
  rfl

end

/-- All creators get their credits. -/
theorem exists_credits {f : PublicationFacts} {h : Hierarchy} {share : Decimal}
    (h0 : 0 ≤ share.toRat) (hle : share.toRat ≤ 11) (hcounted : f.Counted h) :
    ∃ credits, (f.sharers h).mapM (fun c => c.credits h share) = .ok credits :=
  exists_mapM_ok fun c hc => exists_creatorCredits h0 hle (hcounted.roots c hc) (hcounted.under c hc)

/-- Points that count for an institution, twelve of them at most. -/
def IsCredit (is : List OrganizationId) (x : OrganizationId × CreatorPoints) : Prop :=
  x.1 ∈ is ∧ x.2.points.IsPoints ∧ x.2.points.toRat ≤ 12

theorem mem_institutionsOf {h : Hierarchy} {cs : List Creator} {i : OrganizationId} :
    i ∈ institutionsOf h cs ↔ ∃ c ∈ cs, i ∈ c.roots h := by
  rw [institutionsOf, ← SortedSet.mem_def, SortedSet.mem_ofList, List.mem_flatMap]

theorem nodup_institutionsOf (h : Hierarchy) (cs : List Creator) : (institutionsOf h cs).Nodup :=
  SortedSet.nodup_toList _

/-- What creators get are credits. -/
theorem isCredit_of_credits {cs : List Creator} {h : Hierarchy} {share : Decimal}
    {credits : List (List (OrganizationId × CreatorPoints))} (h0 : 0 ≤ share.toRat)
    (hle : share.toRat ≤ 11) (hcredits : cs.mapM (fun c => c.credits h share) = .ok credits) :
    ∀ x ∈ credits.flatten, IsCredit (institutionsOf h cs) x := by
  rintro ⟨i, x⟩ hx
  obtain ⟨l, hl, hxl⟩ := List.mem_flatten.1 hx
  obtain ⟨c, hc, hcl⟩ := exists_of_mem_mapM hcredits hl
  obtain ⟨a, points, hp, hpoints, rfl⟩ := exists_of_mem_credits hcl hxl
  obtain ⟨hp0, hp12⟩ := affiliationShare_bounds h0 hle hpoints
  have hroot : i ∈ c.roots h := Creator.mem_roots.2 ⟨a, Creator.mem_resolved.1 hp⟩
  refine ⟨mem_institutionsOf.2 ⟨c, hc, hroot⟩, isPoints_roundPoints hp0, ?_⟩
  exact_mod_cast toRat_roundPoints_le (n := 12) hp0 (by exact_mod_cast hp12)

/-! ### What credits are given for -/

/-- What a credit is given for. -/
def stakeOf (x : OrganizationId × CreatorPoints) : CreatorIdentity × OrganizationId × OrganizationId :=
  (x.2.creator, x.2.affiliation, x.1)

theorem map_eq_of_mapM {ε α β γ : Type} {s : α → Except ε β} {g : β → γ} {k : α → γ} {l : List α}
    {l' : List β} (hl : l.mapM s = .ok l') (hstep : ∀ a ∈ l, ∀ b, s a = .ok b → g b = k a) :
    l'.map g = l.map k := by
  have hall := mapM_eq_ok_iff.1 hl
  clear hl
  induction hall with
  | nil => rfl
  | @cons a b l l' hab _ ih =>
    obtain ⟨ha, hl⟩ := List.forall_mem_cons.1 hstep
    rw [List.map_cons, List.map_cons, ha b hab, ih hl]

/-- A creator gets a credit for each stake. -/
theorem map_stakeOf_creatorCredits {c : Creator} {h : Hierarchy} {share : Decimal}
    {credits : List (OrganizationId × CreatorPoints)} (hc : c.credits h share = .ok credits) :
    credits.map stakeOf = c.stakes h := by
  refine map_eq_of_mapM hc fun p _ x hx => ?_
  obtain ⟨points, -, hx⟩ := bind_eq_ok_iff.1 hx
  cases hx
  rfl

/-- The nearest number with four digits behind the point, a half up. -/
def toPoints (q : ℚ) : ℚ := round (q * 10 ^ 4) / 10 ^ 4

/-- Each credit is what is due, rounded once. -/
def Settles (f : PublicationFacts) (h : Hierarchy) (pool : ℚ)
    (credits : List (OrganizationId × CreatorPoints)) : Prop :=
  ∀ x ∈ credits, x.2.points.toRat = toPoints (f.due h pool x.2.creator x.1)

section

variable {f : PublicationFacts} {h : Hierarchy} {share : Decimal}
  {credits : List (List (OrganizationId × CreatorPoints))}
  (hcredits : (f.sharers h).mapM (fun c => c.credits h share) = .ok credits)
include hcredits

/-- There is one credit for each stake. -/
theorem map_stakeOf_credits : credits.flatten.map stakeOf = f.stakes h := by
  have hmap : credits.map (List.map stakeOf) = (f.sharers h).map fun c => c.stakes h :=
    map_eq_of_mapM hcredits fun c _ l hl => map_stakeOf_creatorCredits hl
  rw [List.map_flatten, hmap, PublicationFacts.stakes, List.flatMap_def]

/-- A credit is what is due, rounded once. -/
theorem settles_of_credits {base : Decimal}
    (hbase : basePoints? f.instanceType f.channel.scientificValue = some base) (k : Nat)
    (hshare : creatorShare base (collaborationFactor k) (f.sharers h).length = .ok share) :
    Settles f h (base.toRat * (collaborationFactor k).toRat) credits.flatten := by
  rintro ⟨i, x⟩ hx
  obtain ⟨l, hl, hxl⟩ := List.mem_flatten.1 hx
  obtain ⟨c, hc, hcl⟩ := exists_of_mem_mapM hcredits hl
  obtain ⟨a, points, -, hpoints, rfl⟩ := exists_of_mem_credits hcl hxl
  have hmerged : c ∈ mergeCreators f.creators := (PublicationFacts.mem_sharers.1 hc).1
  obtain ⟨pool, hpool, hprod, b, -, hb, hbq⟩ := exists_pool hbase k
  rw [creatorShare, expect_eq_ok_iff, hpool, Option.bind_some] at hshare
  obtain ⟨part, hpart, hpoints⟩ := bind_eq_ok_iff.1 hpoints
  rw [expect_eq_ok_iff] at hpart hpoints
  obtain ⟨-, hround⟩ := toRat_roundPoints_share hbq hb hshare hpart hpoints
  dsimp only
  rw [hround, hprod, toPoints, PublicationFacts.due, ← PublicationFacts.length_sharers,
    ← length_roots hmerged, ← length_under hmerged]

end

end PublicationIndicator
