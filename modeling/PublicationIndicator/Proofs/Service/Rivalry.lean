import PublicationIndicator.Proofs.Service.Transcript

/-!
# PublicationIndicator.Proofs.Service.Rivalry — one winner for each version

Reviews that name the version they rest on are rivals for the next one: however the calls of any number
of clients come to the store, one rival at most writes (`one_winner`).  What it writes is its request
carried out on the version named, and the others that can be carried out end with a conflict.  The proof
reads a rival's transcript: `Contested` lists what a review that names its version can come to.
-/

namespace PublicationIndicator

/-- Without a call to make, a session is at its end. -/
theorem Session.eq_done_of_path {α : Type} {s : Session α} {a : α} (h : s.Path [] a) : s = .done a := by
  cases s with
  | done b => rw [h.2]
  | load id next =>
    obtain ⟨_, _, hcons, -⟩ := h
    cases hcons
  | save c expected next =>
    obtain ⟨_, _, hcons, -⟩ := h
    cases hcons
  | publish u next =>
    obtain ⟨_, _, hcons, -⟩ := h
    cases hcons

namespace Service

open Session Exchange

/-- Is it a review of that candidate which rests on that version? -/
def Call.restsOn (id : CandidateId) (v : Nat) : Call → Bool
  | .evaluate _ _ _ => false
  | .updateApproval id' request _ => id' = id && request.expectedVersion = some v

theorem Call.restsOn_iff {call : Call} {id : CandidateId} {v : Nat} : call.restsOn id v = true ↔
    ∃ request time, call = .updateApproval id request time ∧ request.expectedVersion = some v := by
  cases call with
  | evaluate provider attempts facts => simp [restsOn]
  | updateApproval id' request time =>
    constructor
    · intro h
      obtain ⟨rfl, hv⟩ : id' = id ∧ request.expectedVersion = some v := by simpa [restsOn] using h
      exact ⟨request, time, rfl, hv⟩
    · rintro ⟨request', time', hcall, hv⟩
      cases hcall
      simp [restsOn, hv]

/-! ### What a review comes to -/

/-- What a review that rests on version `v` can come to. -/
inductive Contested (id : CandidateId) (request : ApprovalRequest) (time : Instant) (v : Nat) :
    List Exchange → Except ServiceError StoredCandidate → Prop where
  | failed (e : StoreError) :
    Contested id request time v [.load id (.error e)] (.error (.store e))
  | unfound : Contested id request time v [.load id (.ok none)] (.error (.store .notFound))
  | outdated {current : StoredCandidate} (hversion : current.version ≠ v) :
    Contested id request time v [.load id (.ok (some current))]
      (.error (.store (.concurrentModification id (some v) (some current.version))))
  | barred {current : StoredCandidate} {e : CandidateError} (hversion : current.version = v)
    (happly : current.candidate.apply (.approval request time) = .error e) :
    Contested id request time v [.load id (.ok (some current))] (.error (.candidate e))
  | lost {current : StoredCandidate} {next : Candidate} (hversion : current.version = v)
    (happly : current.candidate.apply (.approval request time) = .ok next) (e : StoreError) :
    Contested id request time v [.load id (.ok (some current)), .save next (some v) (.error e)]
      (.error (.store e))
  | won {current : StoredCandidate} {next : Candidate} (hversion : current.version = v)
    (happly : current.candidate.apply (.approval request time) = .ok next) (version : Nat)
    (outlet : Except PublishError Unit) :
    Contested id request time v
      [.load id (.ok (some current)), .save next (some v) (.ok version),
        .publish ⟨next, version⟩ outlet]
      ((outlet.mapError .publish).map fun _ => ⟨next, version⟩)

variable {id : CandidateId} {request : ApprovalRequest} {time : Instant} {v : Nat} {t : List Exchange}
  {r : Except ServiceError StoredCandidate}

theorem contested_of_path (hv : request.expectedVersion = some v)
    (h : (updateApproval id request time).Path t r) : Contested id request time v t r := by
  obtain ⟨answer, rest, rfl, hrest⟩ := h
  cases answer with
  | error e =>
    obtain ⟨rfl, rfl⟩ := hrest
    exact .failed e
  | ok current =>
    cases current with
    | none =>
      obtain ⟨rfl, rfl⟩ := hrest
      exact .unfound
    | some current =>
      dsimp only at hrest
      split at hrest
      · rename_i hstale
        obtain ⟨rfl, rfl⟩ := hrest
        rw [hv]
        refine .outdated fun hversion => ?_
        simp [isStale, hv, hversion] at hstale
      · rename_i hstale
        have hversion : current.version = v := by
          simp only [isStale, hv, decide_not, Bool.not_eq_true, Bool.not_eq_false',
            decide_eq_true_eq] at hstale
          exact hstale.symm
        split at hrest
        · rename_i happly
          obtain ⟨rfl, rfl⟩ := hrest
          exact .barred hversion happly
        · rename_i next happly
          rw [hversion] at hrest
          obtain ⟨answer, rest, rfl, hrest⟩ := hrest
          cases answer with
          | error e =>
            obtain ⟨rfl, rfl⟩ := hrest
            exact .lost hversion happly e
          | ok version =>
            rcases path_announce hrest with ⟨rfl, rfl⟩ | ⟨p, rfl, rfl⟩
            · exact .won hversion happly version (.ok ())
            · exact .won hversion happly version (.error p)

theorem Contested.length_le (h : Contested id request time v t r) : t.length ≤ 3 := by
  cases h <;> simp

/-- Who writes has loaded version `v` first, and writes the request carried out on it. -/
theorem Contested.exists_base (h : Contested id request time v t r) {x : Exchange}
    {stored : StoredCandidate} (hx : x ∈ t) (hstored : x.written? = some stored) :
    ∃ base, t.head? = some (.load id (.ok (some base))) ∧ base.version = v ∧
      base.candidate.apply (.approval request time) = .ok stored.candidate ∧
      x = .save stored.candidate (some v) (.ok stored.version) := by
  cases h with
  | won hversion happly version outlet =>
    simp only [List.mem_cons, List.not_mem_nil, or_false] at hx
    rcases hx with rfl | rfl | rfl
    · cases hstored
    · cases hstored
      exact ⟨_, rfl, hversion, happly, rfl⟩
    · cases hstored
  | failed e => simp_all [written?]
  | unfound => simp_all [written?]
  | outdated hversion => simp_all [written?]
  | barred hversion happly => simp_all [written?]
  | lost hversion happly e =>
    simp only [List.mem_cons, List.not_mem_nil, or_false] at hx
    rcases hx with rfl | rfl <;> cases hstored

/-! ### Rivals among all clients -/

/-- The versions of a history are given once. -/
theorem Succession.countP_version_le {ι : Type} {ws : List (Write ι)} (h : Succession ws) (n : Nat) :
    ws.countP (fun w => w.stored.version = n) ≤ 1 := by
  induction h with
  | nil => exact Nat.zero_le 1
  | @snoc ws w h hversion hmakes ih =>
    rw [List.countP_append, List.countP_singleton]
    split
    · rename_i hn
      have hnew : ws.countP (fun w => w.stored.version = n) = 0 := by
        refine List.countP_eq_zero.2 fun b hb => ?_
        obtain ⟨k, hk⟩ := List.getElem?_of_mem hb
        have hbound := (List.getElem?_eq_some_iff.1 hk).1
        have hb := h.version_eq hk
        have hn : w.stored.version = n := by simpa using hn
        simp only [decide_eq_true_eq]
        omega
      omega
    · exact ih

namespace System

variable {ι : Type} [DecidableEq ι] {calls : ι → Call} {order : List (ι × Except PublishError Unit)}
  {i : ι} {rest : Session Answer}

/-- What a rival for the version after `v` is told in the end. -/
inductive Verdict (calls : ι → Call) (order : List (ι × Except PublishError Unit)) (id : CandidateId)
    (request : ApprovalRequest) (time : Instant) (v : Nat) (i : ι) : Answer → Prop where
  /-- It has written. -/
  | won {w : Write ι} (hw : w ∈ (served calls order).writes) (hclient : w.client = i) :
    Verdict calls order id request time v i (.stored (.ok w.stored))
  /-- It has written, but the notification was not taken. -/
  | unheard {w : Write ι} (hw : w ∈ (served calls order).writes) (hclient : w.client = i)
    (p : PublishError) :
    Verdict calls order id request time v i (.stored (.error (.publish p)))
  /-- It has not written, because another version was stored when it loaded or saved. -/
  | conflict (hnone : ∀ w ∈ (served calls order).writes, w.client ≠ i) {actual : Option Nat}
    (hactual : actual ≠ some v) :
    Verdict calls order id request time v i
      (.stored (.error (.store (.concurrentModification id (some v) actual))))
  /-- It has not written, because the request cannot be carried out on version `v`. -/
  | barred (hnone : ∀ w ∈ (served calls order).writes, w.client ≠ i) {base : Write ι}
    (hbase : base ∈ (served calls order).history id) (hversion : base.stored.version = v)
    {e : CandidateError} (happly : base.stored.candidate.apply (.approval request time) = .error e) :
    Verdict calls order id request time v i (.stored (.error (.candidate e)))
  /-- It has not written, because nothing was stored yet at one of its turns. -/
  | unfound (hnone : ∀ w ∈ (served calls order).writes, w.client ≠ i)
    {earlier later : List (ι × Except PublishError Unit)} {outlet : Except PublishError Unit}
    (hturn : order = earlier ++ (i, outlet) :: later)
    (hempty : (served calls earlier).store.load id = none) :
    Verdict calls order id request time v i (.stored (.error (.store .notFound)))

/-- The transcript of a rival is the beginning of what it comes to. -/
theorem Transcript.exists_contested (h : Transcript calls order i t rest)
    (hcall : calls i = .updateApproval id request time) (hv : request.expectedVersion = some v) :
    ∃ u r, Contested id request time v (t ++ u) r ∧ rest.Path u (.stored r) := by
  -- left alone from now on, it would come to an end
  have hrest := path_run CandidateStore.backend rest .empty
  generalize rest.exchanges CandidateStore.backend .empty = u at hrest
  have hpath := h.leads.path hrest
  rw [hcall] at hpath
  obtain ⟨r, t₁, t₂, heq, hreview, rfl, hanswer⟩ := exists_path_of_bind hpath
  rw [List.append_nil] at heq
  rw [hanswer] at hrest
  exact ⟨u, r, heq ▸ contested_of_path hv hreview, hrest⟩

/-- What a rival has written is the version after `v`, made from a version `v` that was written. -/
theorem Transcript.exists_base (h : Transcript calls order i t rest)
    (hcall : calls i = .updateApproval id request time) (hv : request.expectedVersion = some v)
    {w : Write ι} (hw : w ∈ (served calls order).writes) (hclient : w.client = i) :
    w.stored.version = v + 1 ∧ w.stored.candidate.id = id ∧
      ∃ base ∈ (served calls order).history id, base.stored.version = v ∧
        base.stored.candidate.apply (.approval request time) = .ok w.stored.candidate := by
  obtain ⟨u, r, hcontested, -⟩ := h.exists_contested hcall hv
  obtain ⟨-, x, hx, hwritten⟩ := h.own w hw hclient
  obtain ⟨current, hhead, hversion, happly, hsave⟩ :=
    hcontested.exists_base (List.mem_append_left u hx) hwritten
  have hsaved := h.genuine x hx
  rw [hsave] at hsaved
  have hloaded : Exchange.load id (.ok (some current)) ∈ t := by
    cases t with
    | nil => cases hx
    | cons y t =>
      cases hhead
      exact List.mem_cons_self
  obtain ⟨base, hbase, rfl⟩ := h.genuine _ hloaded
  have hid := (Candidate.apply_id happly).1.trans (mem_history.1 hbase).2
  exact ⟨hsaved.1, hid, base, hbase, hversion, happly⟩

/-- A rival that is at its end has been told its verdict. -/
theorem Transcript.verdict {answer : Answer} (h : Transcript calls order i t (.done answer))
    (hcall : calls i = .updateApproval id request time) (hv : request.expectedVersion = some v) :
    Verdict calls order id request time v i answer := by
  obtain ⟨u, r, hcontested, rfl, rfl⟩ := h.exists_contested hcall hv
  rw [List.append_nil] at hcontested
  have hnone : (∀ x ∈ t, x.written? = none) → ∀ w ∈ (served calls order).writes, w.client ≠ i := by
    intro hquiet w hw hclient
    obtain ⟨-, x, hx, hwritten⟩ := h.own w hw hclient
    rw [hquiet x hx] at hwritten
    cases hwritten
  have hgenuine := h.genuine
  cases hcontested with
  | failed e => exact (hgenuine _ List.mem_cons_self).elim
  | unfound =>
    obtain ⟨earlier, later, outlet, hturn, hempty⟩ := hgenuine _ List.mem_cons_self
    exact .unfound (hnone (by simp [written?])) hturn hempty
  | outdated hversion =>
    exact .conflict (hnone (by simp [written?])) fun hsome => hversion (Option.some.inj hsome)
  | barred hversion happly =>
    obtain ⟨base, hbase, rfl⟩ := hgenuine _ List.mem_cons_self
    exact .barred (hnone (by simp [written?])) hbase hversion happly
  | @lost current next hversion happly e =>
    obtain ⟨base, hbase, rfl⟩ := hgenuine _ List.mem_cons_self
    obtain ⟨actual, hactual, rfl⟩ := hgenuine (.save next (some v) (.error e)) (by simp)
    have hid := (Candidate.apply_id happly).1.trans (mem_history.1 hbase).2
    rw [hid]
    exact .conflict (hnone (by simp [written?])) hactual
  | @won current next hversion happly version outlet =>
    obtain ⟨-, w, hw, hclient, hstored⟩ := hgenuine (.save next (some v) (.ok version)) (by simp)
    rw [← hstored]
    have hmem := (mem_history.1 hw).1
    cases outlet with
    | ok _ => exact .won hmem hclient
    | error p => exact .unheard hmem hclient p

/-- Of all calls that rest on version `v` of a candidate, in any order among any other calls, one at most
writes.  What a rival writes is version `v + 1`, its request carried out on the version `v` that was
written.  Each rival is at its end after three turns, and is told its verdict: it has written, it has met
a conflict, or its request was never to be carried out. -/
theorem one_winner (calls : ι → Call) (order : List (ι × Except PublishError Unit)) (id : CandidateId)
    (v : Nat) :
    (served calls order).writes.countP (fun w => w.call.restsOn id v) ≤ 1 ∧
    ∀ i request time, calls i = .updateApproval id request time →
      request.expectedVersion = some v →
      (∀ w ∈ (served calls order).writes, w.client = i → w.call = calls i ∧
        w.stored.version = v + 1 ∧
        ∃ base ∈ (served calls order).history id, base.stored.version = v ∧
          base.stored.candidate.apply (.approval request time) = .ok w.stored.candidate) ∧
      (3 ≤ (order.map Prod.fst).count i →
        ∃ answer, (served calls order).running i = some ⟨calls i, .done answer⟩) ∧
      ∀ answer, (served calls order).running i = some ⟨calls i, .done answer⟩ →
        Verdict calls order id request time v i answer := by
  constructor
  · have hrival : ∀ w ∈ (served calls order).writes, w.call.restsOn id v = true →
        (decide (w.stored.version = v + 1) && decide (w.stored.candidate.id = id)) = true := by
      intro w hw hrests
      obtain ⟨t, rest, htranscript⟩ := exists_transcript calls order w.client
      obtain ⟨request, time, hcall, hv⟩ := Call.restsOn_iff.1 hrests
      rw [(htranscript.own w hw rfl).1] at hcall
      obtain ⟨hversion, hid, -⟩ := htranscript.exists_base hcall hv hw rfl
      simp [hversion, hid]
    have hcount := ((lawful_served calls order).succession id).countP_version_le (v + 1)
    rw [history, List.countP_filter] at hcount
    exact Nat.le_trans (List.countP_mono_left hrival) hcount
  · intro i request time hcall hv
    obtain ⟨t, rest, htranscript⟩ := exists_transcript calls order i
    refine ⟨fun w hw hclient => ?_, fun hturns => ?_, fun answer hrunning => ?_⟩
    · obtain ⟨hversion, -, hbase⟩ := htranscript.exists_base hcall hv hw hclient
      exact ⟨(htranscript.own w hw hclient).1, hversion, hbase⟩
    · rcases htranscript.length with hlength | ⟨answer, rfl⟩
      · obtain ⟨u, r, hcontested, hpath⟩ := htranscript.exists_contested hcall hv
        have hle := hcontested.length_le
        rw [List.length_append] at hle
        obtain rfl : u = [] := List.eq_nil_of_length_eq_zero (by omega)
        obtain rfl : rest = .done (.stored r) := eq_done_of_path hpath
        exact ⟨_, htranscript.running⟩
      · exact ⟨answer, htranscript.running⟩
    · rw [htranscript.running] at hrunning
      cases hrunning
      exact htranscript.verdict hcall hv

/-- Client 0 creates a candidate, and 1 and 2 both decide on its first version: 2 saves between load and
save of 1, which then meets the conflict. -/
theorem one_winner_two_rivals :
    let facts : PublicationFacts :=
      ⟨⟨"p"⟩, .academicArticle, ⟨"j", .journal, .levelOne⟩, [⟨.verified "x", [⟨"a"⟩]⟩], by decide⟩
    let approve : ApprovalRequest := ⟨⟨"a"⟩, .decide .approved none, ⟨"c"⟩, some 1⟩
    let reject : ApprovalRequest := ⟨⟨"a"⟩, .decide .rejected (some "no"), ⟨"d"⟩, some 1⟩
    let time : Instant := ⟨⟨2026, 1, 1, by decide, by decide⟩, 0, 0, 0⟩
    let calls : Fin 3 → Call
      | 0 => .evaluate (fun id => .ok [.blank id]) 3 facts
      | 1 => .updateApproval ⟨"p"⟩ approve time
      | 2 => .updateApproval ⟨"p"⟩ reject time
    let order : List (Fin 3 × Except PublishError Unit) :=
      [0, 0, 0, 1, 2, 2, 1, 2, 1].map fun i => (i, .ok ())
    (served calls order).writes.map (fun w => (w.client, w.stored.version)) = [(0, 1), (2, 2)] ∧
      (served calls order).writes.countP (fun w => w.call.restsOn ⟨"p"⟩ 1) ≤ 1 ∧
      ∃ answer, (served calls order).running 1 = some ⟨calls 1, .done answer⟩ ∧
        Verdict calls order ⟨"p"⟩ approve time 1 1 answer := by
  intro facts approve reject time calls order
  obtain ⟨hcount, hrivals⟩ := one_winner calls order ⟨"p"⟩ 1
  obtain ⟨-, hend, hverdict⟩ := hrivals 1 approve time rfl rfl
  have hturns : 3 ≤ (order.map Prod.fst).count 1 := by decide
  obtain ⟨answer, hrunning⟩ := hend hturns
  have hwrites : (served calls order).writes.map (fun w => (w.client, w.stored.version)) =
      [(0, 1), (2, 2)] := by
    decide +kernel
  exact ⟨hwrites, hcount, answer, hrunning, hverdict answer hrunning⟩

end System

end Service

end PublicationIndicator
