import PublicationIndicator.Proofs.Candidate.Coherence
import PublicationIndicator.Proofs.Service.Careful

/-!
# PublicationIndicator.Proofs.Service.History — no write is lost among many clients

However the calls of any number of clients on one store are interleaved, the writes of a candidate are
numbered 1, 2, 3 and so on, the first one creates it, and each other one is made from the one before it
(`Succession`).  The reason is that an accepted write expected the version that it was made from, and
that versions are never given twice.

* `Succession.holds`: what new candidates have and events keep, each version has.
* `lawful_step`: a move keeps `System.Lawful`, which ties what clients have loaded to the writes so far.
* `history_run`: what this means for the history of a candidate after any run.
-/

namespace PublicationIndicator.Service

variable {ι : Type}

/-! ### Histories -/

/-- Writes that follow one another: each has the next number and is made from the one before it. -/
inductive Succession : List (Write ι) → Prop where
  | nil : Succession []
  | snoc {ws : List (Write ι)} {w : Write ι} (h : Succession ws)
      (hv : w.stored.version = ws.length + 1)
      (hm : w.call.Makes (ws.getLast?.map fun v => v.stored.candidate) w.stored.candidate) :
      Succession (ws ++ [w])

namespace Succession

variable {ws : List (Write ι)} {v w : Write ι} {k : Nat}

theorem version_eq (h : Succession ws) (hk : ws[k]? = some w) : w.stored.version = k + 1 := by
  induction h with
  | nil => simp at hk
  | @snoc ws w' h hv hm ih =>
    by_cases hlt : k < ws.length
    · rw [List.getElem?_append_left hlt] at hk
      exact ih hk
    · have hle : k < (ws ++ [w']).length := (List.getElem?_eq_some_iff.1 hk).1
      rw [List.length_append, List.length_singleton] at hle
      have hkl : k = ws.length := by omega
      subst hkl
      rw [List.getElem?_concat_length] at hk
      cases hk
      exact hv

/-- A write with the version of the last one is the last one. -/
theorem eq_of_version_eq (h : Succession ws) (hv : v ∈ ws) (hw : ws.getLast? = some w)
    (he : v.stored.version = w.stored.version) : v = w := by
  obtain ⟨k, hk⟩ := List.getElem?_of_mem hv
  rw [List.getLast?_eq_getElem?] at hw
  have h1 := h.version_eq hk
  have h2 := h.version_eq hw
  have hkl : k = ws.length - 1 := by omega
  rw [hkl, hw] at hk
  cases hk
  rfl

/-- What holds of the candidates that calls create, and what their events keep, holds of every version. -/
theorem holds {P : Candidate → Prop} (h : Succession ws)
    (hnew : ∀ (call : Call) c, call.creation? = some c → P c)
    (hnext : ∀ (call : Call) e c c', call.event? = some e → P c → c.apply e = .ok c' → P c') :
    ∀ w ∈ ws, P w.stored.candidate := by
  induction h with
  | nil => exact fun w hw => absurd hw List.not_mem_nil
  | @snoc ws w' h hv hm ih =>
    intro w hw
    rcases List.mem_append.1 hw with hw | hw
    · exact ih w hw
    · obtain rfl := List.mem_singleton.1 hw
      cases hlast : ws.getLast? with
      | none =>
        rw [hlast] at hm
        exact hnew _ _ hm
      | some v =>
        rw [hlast] at hm
        obtain ⟨e, he, happly⟩ := hm
        exact hnext _ e _ _ he (ih v (List.mem_of_getLast? hlast)) happly

theorem makes_first (h : Succession ws) (hw : ws[0]? = some w) :
    w.call.creation? = some w.stored.candidate := by
  induction h with
  | nil => simp at hw
  | @snoc ws w' h hv hm ih =>
    cases ws with
    | nil =>
      cases hw
      exact hm
    | cons v ws => exact ih hw

theorem makes_next (h : Succession ws) (hv : ws[k]? = some v) (hw : ws[k + 1]? = some w) :
    ∃ e, w.call.event? = some e ∧ v.stored.candidate.apply e = .ok w.stored.candidate := by
  induction h with
  | nil => simp at hw
  | @snoc ws w' h hv' hm ih =>
    by_cases hlt : k + 1 < ws.length
    · rw [List.getElem?_append_left hlt] at hw
      rw [List.getElem?_append_left (by omega)] at hv
      exact ih hv hw
    · have hle : k + 1 < (ws ++ [w']).length := (List.getElem?_eq_some_iff.1 hw).1
      rw [List.length_append, List.length_singleton] at hle
      have hkl : k + 1 = ws.length := by omega
      rw [hkl, List.getElem?_concat_length] at hw
      rw [List.getElem?_append_left (by omega)] at hv
      have hlast : ws.getLast? = some v := by
        rw [List.getLast?_eq_getElem?, ← hkl]
        exact hv
      cases hw
      rw [hlast] at hm
      exact hm

end Succession

/-! ### The store and the writes -/

namespace System

variable {s : System ι}

/-- What the store keeps and what clients have loaded is what was written. -/
structure Lawful (s : System ι) : Prop where
  succession : ∀ id, Succession (s.history id)
  /-- The last write of a candidate is kept. -/
  kept : ∀ id, s.store.records.get? id = (s.history id).getLast?.map Write.stored
  coherent : ∀ w ∈ s.writes, w.stored.candidate.approvals.Coherent
  /-- Clients go on carefully, and what they have seen last was written. -/
  careful : ∀ i r, s.running i = some r → ∃ seen, r.rest.Careful r.call.target r.call.Makes seen ∧
    ∀ current, seen = some (some current) → ∃ w ∈ s.history r.call.target, w.stored = current

theorem mem_history {id : CandidateId} {w : Write ι} :
    w ∈ s.history id ↔ w ∈ s.writes ∧ w.stored.candidate.id = id := by
  simp [history]

/-- Loading a candidate gives its last write as it is. -/
theorem Lawful.load_eq (h : s.Lawful) (id : CandidateId) :
    s.store.load id = (s.history id).getLast?.map Write.stored := by
  rw [CandidateStore.load, h.kept]
  cases hw : (s.history id).getLast? with
  | none => rfl
  | some w =>
    have hmem : w ∈ s.history id := List.mem_of_getLast? hw
    have hc := Candidate.normalized_eq (h.coherent w (mem_history.1 hmem).1)
    simp [hc]

theorem Lawful.version?_eq (h : s.Lawful) (id : CandidateId) :
    s.store.version? id = (s.history id).getLast?.map fun w => w.stored.version := by
  rw [CandidateStore.version?, h.kept, Option.map_map]
  rfl

theorem lawful_initial : (initial : System ι).Lawful where
  succession _ := .nil
  kept _ := rfl
  coherent _ h := by cases h
  careful _ _ h := by cases h

/-! ### Moves -/

variable {i : ι} {r : Running}

/-- What a careful client writes continues the history of its candidate: the write is accepted only if
the version that it was made from is still the last one. -/
theorem Lawful.makes_of_save {c : Candidate} {expected : Option Nat} {version : Nat}
    {store : CandidateStore} (h : s.Lawful) {current : Option StoredCandidate}
    (hseen : ∀ b, current = some b → ∃ w ∈ s.history r.call.target, w.stored = b)
    (hexp : expected = current.map StoredCandidate.version)
    (hmakes : r.call.Makes (current.map StoredCandidate.candidate) c)
    (hsave : s.store.save c expected = .ok (version, store)) :
    version = (s.history c.id).length + 1 ∧ c.approvals.Coherent ∧
      r.call.Makes ((s.history c.id).getLast?.map fun w => w.stored.candidate) c := by
  obtain ⟨hactual, rfl, -⟩ := CandidateStore.save_eq_ok_iff.1 hsave
  rw [h.version?_eq] at hactual
  cases current with
  | none =>
    cases hexp
    have hlast : (s.history c.id).getLast? = none := by simpa using hactual
    have hnil : s.history c.id = [] := List.getLast?_eq_none_iff.1 hlast
    rw [hlast, hnil]
    refine ⟨rfl, ?_, hmakes⟩
    obtain ⟨_, facts, e, -, rfl⟩ := Call.exists_of_creation? hmakes
    exact Approvals.coherent_reconcile Approvals.coherent_empty e.calculation
  | some b =>
    obtain ⟨v, hv, rfl⟩ := hseen b rfl
    obtain ⟨e, he, happly⟩ := hmakes
    have hid : c.id = r.call.target :=
      (Candidate.apply_id happly).1.trans (mem_history.1 hv).2
    rw [← hid] at hv
    subst hexp
    obtain ⟨w, hw, hver⟩ := Option.map_eq_some_iff.1 hactual
    -- the version that the client loaded is the last one, so nobody wrote in between
    have hvw : v = w := (h.succession c.id).eq_of_version_eq hv hw hver.symm
    subst hvw
    refine ⟨?_, Candidate.approvals_coherent_apply (h.coherent v (mem_history.1 hv).1) happly, ?_⟩
    · have hl := (h.succession c.id).version_eq (List.getLast?_eq_getElem? ▸ hw)
      have hpos := List.length_pos_of_mem hv
      simp only [Option.map_some, Option.elim_some]
      omega
    · rw [hw]
      exact ⟨e, he, happly⟩

theorem history_append (ws : List (Write ι)) (w : Write ι) (store : CandidateStore)
    (running : ι → Option Running) (id : CandidateId) :
    (System.mk store running (ws ++ [w])).history id =
      (System.mk store running ws).history id ++ if w.stored.candidate.id = id then [w] else [] := by
  by_cases hid : w.stored.candidate.id = id <;> simp [history, hid]

variable [DecidableEq ι]

/-- A client that goes on carefully keeps the system lawful. -/
theorem lawful_goOn (h : s.Lawful) {seen : Option (Option StoredCandidate)}
    (hr : r.rest.Careful r.call.target r.call.Makes seen)
    (hseen : ∀ current, seen = some (some current) →
      ∃ w ∈ s.history r.call.target, w.stored = current) : (s.goOn i r).Lawful where
  succession := h.succession
  kept := h.kept
  coherent := h.coherent
  careful j r' hr' := by
    by_cases hj : j = i
    · simp only [goOn, if_pos hj, Option.some.injEq] at hr'
      subst hr'
      exact ⟨seen, hr, hseen⟩
    · simp only [goOn, if_neg hj] at hr'
      exact h.careful j r' hr'

/-- A write that is carried out keeps the system lawful. -/
theorem lawful_save {c : Candidate} {expected : Option Nat} {version : Nat} {store : CandidateStore}
    {next : Except StoreError Nat → Session Answer} (h : s.Lawful) (hr : s.running i = some r)
    (hrest : r.rest = .save c expected next)
    (hsave : s.store.save c expected = .ok (version, store)) :
    System.Lawful { s.goOn i ⟨r.call, next (.ok version)⟩ with
      store := store
      writes := s.writes ++ [⟨i, r.call, ⟨c, version⟩⟩] } := by
  obtain ⟨seen, hcareful, hseen⟩ := h.careful i r hr
  rw [hrest] at hcareful
  obtain ⟨⟨current, rfl, hexp, hmakes⟩, hnext⟩ := hcareful
  obtain ⟨hversion, hcoherent, hm⟩ :=
    h.makes_of_save (fun b hb => hseen b (by rw [hb])) hexp hmakes hsave
  obtain ⟨-, -, rfl⟩ := CandidateStore.save_eq_ok_iff.1 hsave
  refine ⟨fun id => ?_, fun id => ?_, fun w hw => ?_, fun j r' hr' => ?_⟩
  · rw [history_append]
    by_cases hid : c.id = id
    · subst hid
      rw [if_pos rfl]
      exact .snoc (h.succession c.id) hversion hm
    · rw [if_neg hid, List.append_nil]
      exact h.succession id
  · rw [history_append]
    by_cases hid : c.id = id
    · subst hid
      rw [if_pos rfl, List.getLast?_concat]
      exact SortedMap.get?_insert_self _ _ _
    · rw [if_neg hid, List.append_nil]
      exact (SortedMap.get?_insert_of_ne (Ne.symm hid)).trans (h.kept id)
  · rcases List.mem_append.1 hw with hw | hw
    · exact h.coherent w hw
    · obtain rfl := List.mem_singleton.1 hw
      exact hcoherent
  · by_cases hj : j = i
    · simp only [goOn, if_pos hj, Option.some.injEq] at hr'
      subst hr'
      exact ⟨none, hnext _, fun current hc => by cases hc⟩
    · simp only [goOn, if_neg hj] at hr'
      obtain ⟨seen', hcareful', hseen'⟩ := h.careful j r' hr'
      refine ⟨seen', hcareful', fun b hb => ?_⟩
      obtain ⟨w, hw, hwb⟩ := hseen' b hb
      refine ⟨w, ?_, hwb⟩
      rw [history_append]
      exact List.mem_append_left _ hw

/-- The next call of a client keeps the system lawful. -/
theorem lawful_proceed (outlet : Except PublishError Unit) (h : s.Lawful)
    (hr : s.running i = some r) : (s.proceed i r outlet).Lawful := by
  obtain ⟨seen, hcareful, hseen⟩ := h.careful i r hr
  unfold proceed
  cases hrest : r.rest with
  | done a => exact h
  | load id next =>
    rw [hrest] at hcareful
    obtain ⟨rfl, hok, -⟩ := hcareful
    refine lawful_goOn h (hok _) fun current hc => ?_
    -- what is loaded was written last
    rw [Option.some.injEq, h.load_eq, Option.map_eq_some_iff] at hc
    obtain ⟨w, hw, hwc⟩ := hc
    exact ⟨w, List.mem_of_getLast? hw, hwc⟩
  | save c expected next =>
    cases hsave : s.store.save c expected with
    | ok result =>
      obtain ⟨version, store⟩ := result
      simp only [hsave]
      exact lawful_save h hr hrest hsave
    | error e =>
      simp only [hsave]
      rw [hrest] at hcareful
      exact lawful_goOn h (hcareful.2 _) fun current hc => by cases hc
  | publish u next =>
    rw [hrest] at hcareful
    exact lawful_goOn h (hcareful outlet) hseen

/-- A move keeps the system lawful. -/
theorem lawful_step (h : s.Lawful) (m : Move ι) : (s.step m).Lawful := by
  cases m with
  | begin client call =>
    rw [step]
    split
    · have hcareful : call.session.Careful call.target call.Makes none := careful_session call
      exact lawful_goOn h hcareful fun current hc => by cases hc
    · exact h
  | proceed client outlet =>
    rw [step]
    split
    · rename_i r hr
      exact lawful_proceed outlet h hr
    · exact h

theorem lawful_run (h : s.Lawful) (moves : List (Move ι)) : (s.run moves).Lawful := by
  induction moves generalizing s with
  | nil => exact h
  | cons m rest ih => exact ih (lawful_step h m)

/-- After any run of any clients, the writes of a candidate have the versions 1, 2, 3 and so on.  The
first is a new candidate as its client makes it, each other one is what its client's event makes of the
write before it, and the last one is kept. -/
theorem history_run (moves : List (Move ι)) (id : CandidateId) :
    (∀ k w, (((initial : System ι).run moves).history id)[k]? = some w →
      w.stored.version = k + 1) ∧
    (∀ w, (((initial : System ι).run moves).history id)[0]? = some w →
      w.call.creation? = some w.stored.candidate) ∧
    (∀ k v w, (((initial : System ι).run moves).history id)[k]? = some v →
      (((initial : System ι).run moves).history id)[k + 1]? = some w →
      ∃ e, w.call.event? = some e ∧ v.stored.candidate.apply e = .ok w.stored.candidate) ∧
    ((initial : System ι).run moves).store.records.get? id =
      (((initial : System ι).run moves).history id).getLast?.map Write.stored := by
  have h := lawful_run lawful_initial moves
  have hs := h.succession id
  exact ⟨fun _ _ => hs.version_eq, fun _ => hs.makes_first, fun _ _ _ => hs.makes_next, h.kept id⟩

-- of two clients that race twice, one creates the candidate and one decides on it
example :
    let facts : PublicationFacts :=
      ⟨⟨"p"⟩, .academicArticle, ⟨"j", .journal, .levelOne⟩, [⟨.verified "x", [⟨"a"⟩]⟩], by decide⟩
    let evaluation : Call := .evaluate (fun id => .ok [.blank id]) 3 facts
    let decision : Call := .updateApproval ⟨"p"⟩ ⟨⟨"a"⟩, .decide .approved none, ⟨"c"⟩, none⟩
      ⟨⟨2026, 1, 1, by decide, by decide⟩, 0, 0, 0⟩
    let race : List (Move Bool) := (List.replicate 3 [true, false]).flatten.map (.proceed · (.ok ()))
    let moves := [.begin true evaluation, .begin false evaluation] ++ race ++
      [.begin true decision, .begin false decision] ++ race
    ((initial.run moves).history ⟨"p"⟩).map (fun w => (w.client, w.stored.version)) =
      [(true, 1), (true, 2)] := by
  decide +kernel

end System

end PublicationIndicator.Service
