import PublicationIndicator.Proofs.Wire.Scalar
import PublicationIndicator.Wire.Candidate
import PublicationIndicator.Wire.Organization

/-!
# PublicationIndicator.Proofs.Wire.RoundTrip — documents hold what was put into them

Facts, organizations, requests, evaluations and stored candidates are found again in the text that is
written of them (`ofText_compact_toJson`).  Each type has its law: its JSON stands for the value, field
by field.
-/

namespace PublicationIndicator

open Json Members

/-! ### Publications -/

theorem InstanceType.stands (t : InstanceType) : t.toJson.Stands decoder t := by
  cases t <;> exact ⟨rfl, rfl⟩

theorem ChannelType.stands (t : ChannelType) : t.toJson.Stands decoder t := by
  cases t <;> exact ⟨rfl, rfl⟩

theorem ScientificValue.stands (v : ScientificValue) : v.toJson.Stands decoder v := by
  cases v <;> exact ⟨rfl, rfl⟩

theorem PublicationChannel.stands (c : PublicationChannel) : c.toJson.Stands decoder c := by
  have hid := stands_string c.id
  have htype := c.channelType.stands
  have hvalue := c.scientificValue.stands
  refine stands_record (.refl _) (by decide) (by simp [hid.plain, htype.plain, hvalue.plain]) ?_
  rw [required_of_lookup rfl hid, required_of_lookup rfl htype, required_of_lookup rfl hvalue]
  rfl

theorem CreatorIdentity.stands (c : CreatorIdentity) : c.toJson.Stands decoder c := by
  cases c <;> exact ⟨rfl, rfl⟩

theorem Creator.stands (c : Creator) : c.toJson.Stands decoder c := by
  have hidentity := c.identity.stands
  have haffiliations := stands_list (l := c.affiliations) fun a _ => a.stands
  refine stands_record (.refl _) (by decide) (by simp [hidentity.plain, haffiliations.plain]) ?_
  rw [required_of_lookup rfl hidentity, withDefault_of_lookup rfl haffiliations]
  rfl

theorem PublicationFacts.withCreators?_eq (f : PublicationFacts) :
    withCreators? f.publication f.instanceType f.channel f.creators = some f := by
  rw [withCreators?, dif_pos f.fits]

theorem PublicationFacts.stands (f : PublicationFacts) : f.toJson.Stands decoder f := by
  have hpublication := f.publication.stands
  have htype := f.instanceType.stands
  have hchannel := f.channel.stands
  have hcreators := stands_list (l := f.creators) fun c _ => c.stands
  refine Stands.mapPartial (a := some f) ?_ rfl
  refine stands_record (.refl _) (by decide)
    (by simp [hpublication.plain, htype.plain, hchannel.plain, hcreators.plain]) ?_
  rw [required_of_lookup rfl hpublication, required_of_lookup rfl htype,
    required_of_lookup rfl hchannel, required_of_lookup rfl hcreators, ← f.withCreators?_eq]
  rfl

/-! ### Organizations -/

theorem Organization.stands (o : Organization) : o.toJson.Stands decoder o := by
  have hid := o.id.stands
  have hparent : (Json.ofOption OrganizationId.toJson o.partOf).Stands OrganizationId.decoder.option
      o.partOf := by
    cases o.partOf with
    | none => exact stands_none
    | some p => exact p.stands.some (by simp [OrganizationId.toJson])
  have hparts := stands_list (l := o.hasPart) fun p _ => p.stands
  refine stands_record (.refl _) (by decide) (by simp [hid.plain, hparent.plain, hparts.plain]) ?_
  rw [required_of_lookup rfl hid, Members.optional, withDefault_of_lookup rfl hparent,
    withDefault_of_lookup rfl hparts]
  rfl

/-! ### Requests -/

theorem ApprovalAction.stands (a : ApprovalAction) : a.toJson.Stands decoder a := by
  rcases a with assignee | _ | ⟨_ | _, _ | reason⟩ | _ <;> exact ⟨rfl, rfl⟩

theorem ApprovalRequest.stands (r : ApprovalRequest)
    (hversion : ∀ v, r.expectedVersion = some v → v < 18446744073709551616) :
    r.toJson.Stands decoder r := by
  have hid := r.institution.stands
  have haction := r.action.stands
  have hactor := r.actor.stands
  have hexpected : ∀ v, r.expectedVersion = some v → (Json.ofNat v).Stands versionDecoder v :=
    fun v hv => stands_natBelow (hversion v hv) (Nat.le_refl _)
  refine stands_record ?_ (by decide) ?_ ?_
  · rw [List.map_append]
    exact (List.Sublist.refl ["institution_id", "action", "actor"]).append (keys_fieldOf _ _ _)
  · refine List.forall_mem_append.2 ⟨?_, plain_fieldOf hexpected⟩
    simp [hid.plain, haction.plain, hactor.plain]
  · rw [required_of_lookup rfl hid, required_of_lookup rfl haction, required_of_lookup rfl hactor,
      optional_of_lookup (f := Json.ofNat) (lookup_fieldOf _ _ _ _) fun v hv =>
        ⟨hexpected v hv, by simp [Json.ofNat]⟩]
    rfl

/-! ### Calculations -/

theorem CreatorPoints.stands (p : CreatorPoints) : p.toJson.Stands decoder p := by
  have hcreator := p.creator.stands
  have haffiliation := p.affiliation.stands
  have hpoints := p.points.stands
  refine stands_record (.refl _) (by decide)
    (by simp [hcreator.plain, haffiliation.plain, hpoints.plain]) ?_
  rw [required_of_lookup rfl hcreator, required_of_lookup rfl haffiliation,
    required_of_lookup rfl hpoints]
  rfl

theorem InstitutionPoints.stands (p : InstitutionPoints) : p.toJson.Stands decoder p := by
  have hinstitution := p.institution.stands
  have hpoints := p.points.stands
  have hentries := stands_list (l := p.entries) fun e _ => e.stands
  refine stands_record (.refl _) (by decide)
    (by simp [hinstitution.plain, hpoints.plain, hentries.plain]) ?_
  rw [required_of_lookup rfl hinstitution, required_of_lookup rfl hpoints,
    required_of_lookup rfl hentries]
  rfl

theorem PointCalculation.stands (c : PointCalculation) (hcount : c.creatorShareCount < 4294967296) :
    c.toJson.Stands decoder c := by
  have htype := c.instanceType.stands
  have hchannel := c.channel.stands
  have hinternational := stands_bool c.isInternationalCollaboration
  have hfactor := c.collaborationFactor.stands
  have hbase := c.basePoints.stands
  have hshares : (Json.ofNat c.creatorShareCount).Stands countDecoder c.creatorShareCount :=
    stands_natBelow hcount (by omega)
  have htotal := c.totalPoints.stands
  have hinstitutions := stands_list (l := c.institutions) fun p _ => p.stands
  refine stands_record (.refl _) (by decide)
    (by simp [htype.plain, hchannel.plain, hinternational.plain, hfactor.plain, hbase.plain,
      hshares.plain, htotal.plain, hinstitutions.plain]) ?_
  rw [required_of_lookup rfl htype, required_of_lookup rfl hchannel,
    required_of_lookup rfl hinternational, required_of_lookup rfl hfactor,
    required_of_lookup rfl hbase, required_of_lookup rfl hshares, required_of_lookup rfl htotal,
    required_of_lookup rfl hinstitutions]
  rfl

theorem ExclusionReason.stands (r : ExclusionReason) : r.toJson.Stands decoder r := by
  cases r <;> exact ⟨rfl, rfl⟩

theorem ExcludedAffiliation.stands (x : ExcludedAffiliation) : x.toJson.Stands decoder x := by
  have hcreator := x.creator.stands
  have haffiliation := x.affiliation.stands
  have hreason := x.reason.stands
  refine stands_record (.refl _) (by decide)
    (by simp [hcreator.plain, haffiliation.plain, hreason.plain]) ?_
  rw [required_of_lookup rfl hcreator, required_of_lookup rfl haffiliation,
    required_of_lookup rfl hreason]
  rfl

theorem PointEvaluation.stands (e : PointEvaluation)
    (hcount : e.calculation.creatorShareCount < 4294967296) : e.toJson.Stands decoder e := by
  have hcalculation := e.calculation.stands hcount
  have hexcluded := stands_list (l := e.excluded) fun x _ => x.stands
  refine stands_record (.refl _) (by decide) (by simp [hcalculation.plain, hexcluded.plain]) ?_
  rw [required_of_lookup rfl hcalculation, required_of_lookup rfl hexcluded]
  rfl

/-! ### Candidates -/

theorem ApprovalStatus.stands (s : ApprovalStatus) : s.toJson.Stands decoder s := by
  cases s <;> exact ⟨rfl, rfl⟩

theorem Approval.stands (a : Approval)
    (hdate : ∀ t, a.finalizedDate = some t → 0 ≤ t.date.year ∧ t.date.year ≤ 9999) :
    a.toJson.Stands decoder a := by
  have hid := a.institution.stands
  have hstatus := a.status.stands
  have hassignee : ∀ u, a.assignee = some u → u.toJson.Stands Username.decoder u :=
    fun u _ => u.stands
  have hinvolved := a.involvedOrganizations.stands fun id _ => id.stands
  have hdecider : ∀ u, a.finalizedBy = some u → u.toJson.Stands Username.decoder u :=
    fun u _ => u.stands
  have htime : ∀ t, a.finalizedDate = some t → t.toJson.Stands Instant.decoder t :=
    fun t ht => t.stands (hdate t ht)
  have hreason : ∀ s, a.reason = some s → (Json.string s).Stands Decoder.string s :=
    fun s _ => stands_string s
  refine stands_record ?_ (by decide) ?_ ?_
  · simp only [List.map_append]
    exact ((((List.Sublist.refl ["institution_id", "status"]).append (keys_fieldOf _ _ _)).append
      (.refl ["involved_organizations"])).append (keys_fieldOf _ _ _)).append (keys_fieldOf _ _ _)
        |>.append (keys_fieldOf _ _ _)
  · simp only [List.forall_mem_append]
    refine ⟨⟨⟨⟨⟨?_, plain_fieldOf hassignee⟩, ?_⟩, plain_fieldOf hdecider⟩, plain_fieldOf htime⟩,
      plain_fieldOf hreason⟩
    · simp [hid.plain, hstatus.plain]
    · simp [hinvolved.plain]
  · rw [required_of_lookup ?_ hid, required_of_lookup ?_ hstatus,
      optional_of_lookup ?_ fun u hu => ⟨hassignee u hu, by simp [Username.toJson]⟩,
      withDefault_of_lookup ?_ hinvolved,
      optional_of_lookup ?_ fun u hu => ⟨hdecider u hu, by simp [Username.toJson]⟩,
      optional_of_lookup ?_ fun t ht => ⟨htime t ht, by simp [Instant.toJson]⟩,
      optional_of_lookup ?_ fun s hs => ⟨hreason s hs, by simp⟩]
    · rfl
    all_goals simp [List.lookup_cons, List.lookup_append, lookup_fieldOf]

theorem Candidate.stands (c : Candidate) (hcount : c.points.creatorShareCount < 4294967296)
    (hdates : ∀ id a, c.approvals.get? id = some a → ∀ t, a.finalizedDate = some t →
      0 ≤ t.date.year ∧ t.date.year ≤ 9999) : c.toJson.Stands decoder c := by
  have hid := c.id.stands
  have hpublication := c.publication.stands
  have happlicable := stands_bool c.applicable
  have hpoints := c.points.stands hcount
  have happrovals := c.approvals.stands .mk (fun _ => rfl) fun e he =>
    e.2.stands (hdates e.1 e.2 (SortedMap.mem_entries_iff.1 he))
  refine stands_record (.refl _) (by decide)
    (by simp [hid.plain, hpublication.plain, happlicable.plain, hpoints.plain, happrovals.plain]) ?_
  rw [required_of_lookup rfl hid, required_of_lookup rfl hpublication,
    required_of_lookup rfl happlicable, required_of_lookup rfl hpoints,
    required_of_lookup rfl happrovals]
  rfl

/-- The numbers of a stored candidate fit into their words, and its decisions are of the years that four
digits write. -/
structure StoredCandidate.Writable (s : StoredCandidate) : Prop where
  version : s.version < 18446744073709551616
  shares : s.candidate.points.creatorShareCount < 4294967296
  dates : ∀ id a, s.candidate.approvals.get? id = some a → ∀ t, a.finalizedDate = some t →
    0 ≤ t.date.year ∧ t.date.year ≤ 9999

theorem StoredCandidate.stands (s : StoredCandidate) (h : s.Writable) : s.toJson.Stands decoder s := by
  have hcandidate := s.candidate.stands h.shares h.dates
  have hversion : (Json.ofNat s.version).Stands versionDecoder s.version :=
    stands_natBelow h.version (Nat.le_refl _)
  refine stands_record (.refl _) (by decide) (by simp [hcandidate.plain, hversion.plain]) ?_
  rw [required_of_lookup rfl hcandidate, required_of_lookup rfl hversion]
  rfl

/-! ### Documents -/

/-- What is written of facts, organizations, requests, evaluations and stored candidates is read as the
same value, provided that whole numbers fit into their words and dates into years of four digits. -/
theorem ofText_compact_toJson :
    (∀ f : PublicationFacts, PublicationFacts.decoder.ofText f.toJson.compact = .ok f) ∧
    (∀ o : Organization, Organization.decoder.ofText o.toJson.compact = .ok o) ∧
    (∀ r : ApprovalRequest, (∀ v, r.expectedVersion = some v → v < 18446744073709551616) →
      ApprovalRequest.decoder.ofText r.toJson.compact = .ok r) ∧
    (∀ e : PointEvaluation, e.calculation.creatorShareCount < 4294967296 →
      PointEvaluation.decoder.ofText e.toJson.compact = .ok e) ∧
    ∀ s : StoredCandidate, s.Writable → StoredCandidate.decoder.ofText s.toJson.compact = .ok s :=
  ⟨fun f => f.stands.ofText_compact, fun o => o.stands.ofText_compact,
    fun r hversion => (r.stands hversion).ofText_compact,
    fun e hcount => (e.stands hcount).ofText_compact, fun s hs => (s.stands hs).ofText_compact⟩

/-- The greatest version and count, the longest decimal, a leap second in the year 0 and names that must
be escaped are no exception. -/
theorem ofText_compact_toJson_extremes :
    let odd := "\"\\/\n\x01 \u00fc \u2028"
    let request : ApprovalRequest :=
      ⟨⟨odd⟩, .decide .rejected (some ""), ⟨odd⟩, some 18446744073709551615⟩
    let time : Instant := ⟨⟨0, 2, 29, by decide, by decide⟩, 1439, 60, 1⟩
    let longest : Decimal := ⟨-79228162514264337593543950335, 28, by decide, by decide⟩
    let points : PointCalculation := ⟨.academicChapter, ⟨odd, .series, .levelTwo⟩, true, .ofTenths 13,
      longest, 4294967295, .zero, [⟨⟨odd⟩, longest, [⟨.unverified odd, ⟨odd⟩, longest⟩]⟩]⟩
    let evaluation : PointEvaluation := ⟨points, [⟨.verified odd, ⟨odd⟩, .notInSnapshot⟩,
      ⟨.verified odd, ⟨odd⟩, .fetchFailed odd⟩, ⟨.verified odd, ⟨odd⟩, .inconsistentHierarchy ""⟩]⟩
    let approval : Approval := ⟨⟨odd⟩, .approved, none, .ofList [⟨"b"⟩, ⟨"a"⟩], some ⟨odd⟩, some time, none⟩
    let stored : StoredCandidate := ⟨⟨⟨odd⟩, ⟨odd⟩, false, points, SortedMap.empty.insert ⟨odd⟩ approval⟩,
      18446744073709551615⟩
    stored.Writable ∧ ApprovalRequest.decoder.ofText request.toJson.compact = .ok request ∧
      PointEvaluation.decoder.ofText evaluation.toJson.compact = .ok evaluation ∧
      StoredCandidate.decoder.ofText stored.toJson.compact = .ok stored := by
  intro odd request time longest points evaluation approval stored
  obtain ⟨-, -, hrequest, hevaluation, hstored⟩ := ofText_compact_toJson
  have hdate : ∀ t, approval.finalizedDate = some t → 0 ≤ t.date.year ∧ t.date.year ≤ 9999 := by
    intro t ht
    cases ht
    decide
  have hwritable : stored.Writable :=
    ⟨by decide, by decide, SortedMap.forall_get?_insert hdate fun _ _ hnone => by cases hnone⟩
  refine ⟨hwritable, hrequest request fun v hv => ?_, hevaluation evaluation (by decide),
    hstored stored hwritable⟩
  cases hv
  decide

end PublicationIndicator
